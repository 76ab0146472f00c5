import StatSchema.Proofs.Text.Words

/-!
# `StatSchema.Proofs.Text.Reading` — a text read by its words

A text that is made of names and fixed parts is read back by its words, whatever signs stand between them,
as long as the names are words themselves and something stands between them.

## Contents
- **Words.** `IsWord`; `notMem_word`, `notMem_joined`: no other character is in a word.
- **Reading.** `readWords`; `readWords_gap`, `readWords_word`, `readWords_parted`, `Heading.readWords`,
  `readWords_joined`.
-/

namespace StatSchema.Text

variable {c : Char} {gap rest : List Char} {w heading : String} {columns : List String}

/-! ## Words -/

/-- A nonempty text of word characters. -/
def IsWord (s : String) : Prop := s ≠ "" ∧ AllWord s.toList

instance (s : String) : Decidable (IsWord s) :=
  inferInstanceAs (Decidable (s ≠ "" ∧ AllWord s.toList))

/-- Other characters than word characters are in no word. -/
theorem notMem_word (h : IsWord w) (hc : isWordChar c = false) : c ∉ w.toList := by
  intro hmem
  rw [h.2 c hmem] at hc
  cases hc

/-- A joined text has only the characters of its parts and of the separator. -/
theorem notMem_intercalate {separator : String} {parts : List String}
    (h : ∀ part ∈ parts, c ∉ part.toList) (free : c ∉ separator.toList) :
    c ∉ (separator.intercalate parts).toList := by
  induction parts with
  | nil => simp
  | cons part parts ih =>
    have hpart : c ∉ part.toList := h part List.mem_cons_self
    cases parts with
    | nil => rwa [String.intercalate_singleton]
    | cons next parts =>
      have hrest := ih fun d hd => h d (List.mem_cons_of_mem part hd)
      rw [String.intercalate_cons_cons, String.toList_append, String.toList_append]
      simp only [List.mem_append, not_or]
      exact ⟨⟨hpart, free⟩, hrest⟩

theorem notMem_joined {separator : String} (h : ∀ column ∈ columns, IsWord column)
    (hc : isWordChar c = false) (free : c ∉ separator.toList) :
    c ∉ (separator.intercalate columns).toList :=
  notMem_intercalate (fun column hcolumn => notMem_word (h column hcolumn) hc) free

/-! ## Reading -/

/-- A text without word characters. -/
def Gap (cs : List Char) : Prop := ∀ c ∈ cs, isWordChar c = false

instance (cs : List Char) : Decidable (Gap cs) :=
  List.decidableBAll (isWordChar · = false) cs

/-- The words of a text, without the empty ones. -/
def readWords (cs : List Char) : List String :=
  ((words cs).filter (· ≠ [])).map String.ofList

/-- The text begins without a word character. -/
def Stops (cs : List Char) : Prop := cs.head?.any isWordChar = false

theorem stops_nil : Stops [] := rfl

theorem stops_gap (h : Gap gap) (nonempty : gap ≠ []) (rest : List Char) : Stops (gap ++ rest) := by
  obtain ⟨c, gap, rfl⟩ := List.exists_cons_of_ne_nil nonempty
  show isWordChar c = false
  exact h c List.mem_cons_self

theorem readWords_nil : readWords [] = [] := rfl

theorem readWords_other (hc : isWordChar c = false) (cs : List Char) :
    readWords (c :: cs) = readWords cs := by
  unfold readWords
  rw [words_cons_of_other hc]
  simp

/-- A gap holds no words. -/
theorem readWords_gap (h : Gap gap) (rest : List Char) : readWords (gap ++ rest) = readWords rest := by
  induction gap with
  | nil => rfl
  | cons c gap ih =>
    have hgap : Gap gap := fun d hd => h d (List.mem_cons_of_mem c hd)
    rw [List.cons_append, readWords_other (h c List.mem_cons_self), ih hgap]

/-- A word is read first when it begins a text and stops there. -/
theorem readWords_word (h : IsWord w) (stops : Stops rest) :
    readWords (w.toList ++ rest) = w :: readWords rest := by
  have hne : w.toList ≠ [] := by simpa using h.1
  unfold readWords
  rw [words_append h.2]
  cases rest with
  | nil => simp [hne]
  | cons c cs =>
    have hc : isWordChar c = false := by simpa [Stops] using stops
    rw [words_cons_of_other hc]
    simp [hne]

/-- A character that is in no word parts a text. -/
theorem readWords_parted (hc : isWordChar c = false) (cs rest : List Char) :
    readWords (cs ++ c :: rest) = readWords cs ++ readWords rest := by
  have hsplit : words (cs ++ c :: rest) = words cs ++ words rest :=
    List.splitOnP_append_cons cs rest (by simpa using hc)
  unfold readWords
  rw [hsplit, List.filter_append, List.map_append]

/-- A word and no other is read where nothing but a gap follows it. -/
theorem readWords_ended (h : IsWord w) (ends : Gap gap) : readWords (w.toList ++ gap) = [w] := by
  have hgap : readWords gap = [] := by
    rw [← List.append_nil gap, readWords_gap ends, readWords_nil]
  have stops : Stops gap := by
    cases gap with
    | nil => rfl
    | cons c gap => exact stops_gap ends (List.cons_ne_nil c gap) []
  rw [readWords_word h stops, hgap]

theorem readWords_single (h : IsWord w) : readWords w.toList = [w] := by
  have hends : readWords (w.toList ++ []) = [w] := readWords_ended h (by decide)
  rwa [List.append_nil] at hends

/-- The text holds the one word `w`, and more behind it. -/
def Heading (heading w : String) : Prop :=
  ∃ before after, heading.toList = before ++ (w.toList ++ after) ∧ Gap before ∧ IsWord w ∧ Gap after ∧
    after ≠ []

/-- A heading is read as its one word. -/
theorem Heading.readWords (h : Heading heading w) (rest : List Char) :
    readWords (heading.toList ++ rest) = w :: readWords rest := by
  obtain ⟨before, after, shape, hbefore, word, hafter, nonempty⟩ := h
  rw [shape, List.append_assoc, List.append_assoc, readWords_gap hbefore,
    readWords_word word (stops_gap hafter nonempty rest), readWords_gap hafter]

/-- **Joined words are read back.** -/
theorem readWords_joined (separator : String) (gap : Gap separator.toList) (nonempty : separator ≠ "")
    (h : ∀ column ∈ columns, IsWord column) (stops : Stops rest) :
    readWords ((separator.intercalate columns).toList ++ rest) = columns ++ readWords rest := by
  have hseparator : separator.toList ≠ [] := by simpa using nonempty
  induction columns with
  | nil => simp
  | cons column columns ih =>
    have hcolumn : IsWord column := h column List.mem_cons_self
    cases columns with
    | nil =>
      rw [String.intercalate_singleton]
      exact readWords_word hcolumn stops
    | cons next columns =>
      have hrest := ih fun d hd => h d (List.mem_cons_of_mem column hd)
      rw [String.intercalate_cons_cons, String.toList_append, String.toList_append, List.append_assoc,
        List.append_assoc, readWords_word hcolumn (stops_gap gap hseparator _), readWords_gap gap, hrest]
      rfl

theorem readWords_all (separator : String) (gap : Gap separator.toList) (nonempty : separator ≠ "")
    (h : ∀ column ∈ columns, IsWord column) :
    readWords (separator.intercalate columns).toList = columns := by
  have hcolumns := readWords_joined separator gap nonempty h stops_nil
  rwa [List.append_nil, readWords_nil, List.append_nil] at hcolumns

end StatSchema.Text
