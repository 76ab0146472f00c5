import StatSchema.Text.Word

/-!
# `StatSchema.Proofs.Text.Words` — a name stands in a text when it is one of its words

The search for a name looks at occurrences that do not overlap. What it passes over cannot be a whole
identifier: inside an occurrence of the name every character follows a character of the name. So for a
name made of word characters the search finds exactly the words of the text, its maximal runs of word
characters.

## Contents
- **Words.** `words` and its laws for one character and for a run.
- **Search.** `standsIn_covered`, `IsWordAfter`, `standsIn_iff`, `mentions_iff`.
- **Maximal runs.** `isWordAfter_iff`: words are the occurrences that stand free; `MaximalRun`,
  `mentions_maximalRun`.
-/

namespace StatSchema.Text

/-! ## Words -/

/-- The maximal runs of word characters in a text, in order; between two other characters that follow
    each other lies an empty one. -/
def words (text : List Char) : List (List Char) :=
  text.splitOnP fun c => !isWordChar c

/-- All characters are word characters. -/
def AllWord (cs : List Char) : Prop := ∀ c ∈ cs, isWordChar c = true

instance (cs : List Char) : Decidable (AllWord cs) :=
  List.decidableBAll (isWordChar · = true) cs

@[simp] theorem words_nil : words [] = [[]] := List.splitOnP_nil

theorem words_cons_of_word {c : Char} (h : isWordChar c = true) (cs : List Char) :
    words (c :: cs) = (words cs).modifyHead (c :: ·) := by
  unfold words
  rw [List.splitOnP_cons_eq_if_modifyHead]
  simp [h]

theorem words_cons_of_other {c : Char} (h : isWordChar c = false) (cs : List Char) :
    words (c :: cs) = [] :: words cs := by
  unfold words
  rw [List.splitOnP_cons_eq_if_modifyHead]
  simp [h]

/-- There is always a first word, perhaps an empty one. -/
theorem exists_words (text : List Char) : ∃ first others, words text = first :: others :=
  List.exists_cons_of_ne_nil (List.splitOnP_ne_nil _ text)

/-- A run of word characters belongs to the first word. -/
theorem words_append {run : List Char} (h : AllWord run) (rest : List Char) :
    words (run ++ rest) = (words rest).modifyHead (run ++ ·) := by
  obtain ⟨first, others, hwords⟩ := exists_words rest
  rw [hwords]
  induction run with
  | nil => exact hwords
  | cons c run ih =>
    have hc : isWordChar c = true := h c List.mem_cons_self
    have hrun : AllWord run := fun d hd => h d (List.mem_cons_of_mem c hd)
    rw [List.cons_append, words_cons_of_word hc, ih hrun]
    simp

/-- The first word begins the text and ends before a character that is no word character. -/
theorem words_eq_cons {text first : List Char} {others : List (List Char)}
    (h : words text = first :: others) :
    ∃ rest, text = first ++ rest ∧ rest.head?.any isWordChar = false := by
  induction text generalizing first others with
  | nil =>
    rw [words_nil] at h
    cases h
    exact ⟨[], rfl, rfl⟩
  | cons c cs ih =>
    cases hc : isWordChar c with
    | true =>
      obtain ⟨first', others', hwords⟩ := exists_words cs
      rw [words_cons_of_word hc, hwords] at h
      obtain ⟨rest, rfl, hrest⟩ := ih hwords
      cases h
      exact ⟨rest, rfl, hrest⟩
    | false =>
      rw [words_cons_of_other hc] at h
      cases h
      exact ⟨c :: cs, rfl, by simp [hc]⟩

/-! ## Search -/

theorem getLast?_cons_or (c : Char) (cs : List Char) (before : Option Char) :
    (c :: cs).getLast?.or before = cs.getLast?.or (some c) := by
  cases cs with
  | nil => rfl
  | cons d cs => simp [List.getLast?_cons]

/-- Inside an occurrence the search only moves on. -/
theorem standsIn_covered (name : List Char) (before : Option Char) (covered rest : List Char) :
    standsIn name before covered.length (covered ++ rest) =
      standsIn name (covered.getLast?.or before) 0 rest := by
  induction covered generalizing before with
  | nil => rfl
  | cons c covered ih =>
    have hstep : standsIn name before (c :: covered).length (c :: covered ++ rest) =
        standsIn name (some c) covered.length (covered ++ rest) := by
      simp [standsIn]
    rw [hstep, ih, getLast?_cons_or]

/-- After an occurrence the search goes on behind it, where the last character of the name has just been
    read. -/
theorem standsIn_append {name : List Char} (nonempty : name ≠ []) (before : Option Char)
    (rest : List Char) :
    standsIn name before 0 (name ++ rest) =
      (standsFree before rest.head? || standsIn name (some (name.getLast nonempty)) 0 rest) := by
  obtain ⟨c, tail, rfl⟩ := List.exists_cons_of_ne_nil nonempty
  have hfound : dropLeading? (c :: tail) (c :: (tail ++ rest)) = some rest :=
    dropLeading?_eq_some_iff.mpr rfl
  have hlast : tail.getLast?.or (some c) = some ((c :: tail).getLast nonempty) := by
    cases tail with
    | nil => rfl
    | cons d tail =>
      rw [List.getLast_cons (List.cons_ne_nil d tail), List.getLast?_eq_some_getLast (List.cons_ne_nil d tail)]
      rfl
  rw [List.cons_append, standsIn, hfound, ← hlast, ← standsIn_covered]
  rfl

/-- The name is a word of the text that follows the character `before`: its first word, if that begins
    there, or one of the others. -/
def IsWordAfter (name : List Char) (before : Option Char) (text : List Char) : Prop :=
  (before.any isWordChar = false ∧ (words text).head? = some name) ∨ name ∈ (words text).tail

variable {name : List Char}

/-- After a word character the first word of a text has begun before it. -/
theorem isWordAfter_of_word {c : Char} (hc : isWordChar c = true) (text : List Char) :
    IsWordAfter name (some c) text ↔ name ∈ (words text).tail := by
  simp [IsWordAfter, hc]

/-- After any other character all words of a text are words of it. -/
theorem isWordAfter_of_other {c : Char} (hc : isWordChar c = false) (text : List Char) :
    IsWordAfter name (some c) text ↔ name ∈ words text := by
  obtain ⟨first, others, h⟩ := exists_words text
  simp [IsWordAfter, hc, h, eq_comm]

/-- An occurrence is a word if it stands free; any other one comes later. -/
theorem isWordAfter_append (word : AllWord name) (before : Option Char) (rest : List Char) :
    IsWordAfter name before (name ++ rest) ↔
      standsFree before rest.head? = true ∨ name ∈ (words rest).tail := by
  obtain ⟨first, others, h⟩ := exists_words rest
  have hfirst : first = [] ↔ rest.head?.any isWordChar = false := by
    constructor
    · rintro rfl
      obtain ⟨rest', rfl, hrest⟩ := words_eq_cons h
      exact hrest
    · intro hother
      cases rest with
      | nil =>
        rw [words_nil] at h
        exact (List.cons.inj h).1.symm
      | cons c cs =>
        rw [words_cons_of_other (by simpa using hother)] at h
        exact (List.cons.inj h).1.symm
  have hhead : (words (name ++ rest)).head? = some name ↔ first = [] := by
    rw [words_append word, h]
    simp
  rw [IsWordAfter, hhead, hfirst, words_append word, h]
  simp [standsFree]

/-- Where the name does not occur, a word after the first character is a word of the whole text. -/
theorem isWordAfter_cons (before : Option Char) {c : Char} {cs : List Char}
    (absent : dropLeading? name (c :: cs) = none) (nonempty : name ≠ []) :
    IsWordAfter name before (c :: cs) ↔ IsWordAfter name (some c) cs := by
  obtain ⟨first, others, h⟩ := exists_words cs
  cases hc : isWordChar c with
  | true =>
    -- A first word that is the name would be an occurrence of it.
    have hfirst : c :: first ≠ name := by
      rintro rfl
      obtain ⟨rest, rfl, -⟩ := words_eq_cons h
      rw [← List.cons_append, dropLeading?_eq_some_iff.mpr rfl] at absent
      cases absent
    rw [isWordAfter_of_word hc, IsWordAfter, words_cons_of_word hc, h]
    simp [hfirst]
  | false =>
    rw [isWordAfter_of_other hc, IsWordAfter, words_cons_of_other hc]
    simp [nonempty.symm]

/-- **The search finds the words of a text.** Induction on the length of the text, since the search goes
    on behind a whole occurrence. -/
theorem standsIn_iff (word : AllWord name) (nonempty : name ≠ []) (before : Option Char)
    (text : List Char) : standsIn name before 0 text = true ↔ IsWordAfter name before text := by
  induction hn : text.length using Nat.strongRecOn generalizing before text with
  | ind n ih =>
    cases text with
    | nil => simp [standsIn, IsWordAfter, nonempty, nonempty.symm]
    | cons c cs =>
      cases hfound : dropLeading? name (c :: cs) with
      | some rest =>
        have htext : c :: cs = name ++ rest := dropLeading?_eq_some_iff.mp hfound
        have hshorter : rest.length < n := by
          have hpos : 0 < name.length := List.length_pos_iff.mpr nonempty
          rw [← hn, htext, List.length_append]
          omega
        have hlast : isWordChar (name.getLast nonempty) = true := word _ (List.getLast_mem _)
        rw [htext, standsIn_append nonempty, isWordAfter_append word, Bool.or_eq_true,
          ih rest.length hshorter _ rest rfl, isWordAfter_of_word hlast]
      | none =>
        have hshorter : cs.length < n := by
          rw [← hn]
          exact Nat.lt_succ_self _
        rw [standsIn, hfound, ih cs.length hshorter _ cs rfl, isWordAfter_cons before hfound nonempty]

/-- **A text mentions a name when the name is one of its words.** -/
theorem mentions_iff {sql name : String} (word : AllWord name.toList) (nonempty : name.toList ≠ []) :
    mentions sql name = true ↔ name.toList ∈ words sql.toList := by
  obtain ⟨first, others, h⟩ := exists_words sql.toList
  rw [mentions, standsIn_iff word nonempty]
  simp [IsWordAfter, h, eq_comm]

/-! ## Maximal runs -/

/-- A word of a text begins with its first character or later. -/
theorem isWordAfter_cons_iff (word : AllWord name) (nonempty : name ≠ []) (before : Option Char)
    (c : Char) (cs : List Char) :
    IsWordAfter name before (c :: cs) ↔
      (∃ rest, c :: cs = name ++ rest ∧ standsFree before rest.head? = true) ∨
        IsWordAfter name (some c) cs := by
  cases hfound : dropLeading? name (c :: cs) with
  | none =>
    have habsent : ¬ ∃ rest, c :: cs = name ++ rest ∧ standsFree before rest.head? = true := by
      rintro ⟨rest, htext, -⟩
      rw [dropLeading?_eq_some_iff.mpr htext] at hfound
      cases hfound
    rw [isWordAfter_cons before hfound nonempty, or_iff_right habsent]
  | some rest =>
    have htext : c :: cs = name ++ rest := dropLeading?_eq_some_iff.mp hfound
    have hfirst : (∃ rest, c :: cs = name ++ rest ∧ standsFree before rest.head? = true) ↔
        standsFree before rest.head? = true := by
      rw [htext]
      simp
    obtain ⟨d, tail, rfl⟩ := List.exists_cons_of_ne_nil nonempty
    obtain ⟨rfl, hcs⟩ := List.cons.inj (List.cons_append ▸ htext)
    have hc : isWordChar c = true := word c List.mem_cons_self
    have htail : AllWord tail := fun d hd => word d (List.mem_cons_of_mem c hd)
    rw [hfirst, htext, isWordAfter_append word, hcs, isWordAfter_of_word hc, words_append htail,
      List.tail_modifyHead]

/-- The words of a text are the occurrences that stand free, whatever else they overlap. -/
theorem isWordAfter_iff (word : AllWord name) (nonempty : name ≠ []) (before : Option Char)
    (text : List Char) :
    IsWordAfter name before text ↔
      ∃ left right, text = left ++ (name ++ right) ∧
        standsFree (left.getLast?.or before) right.head? = true := by
  induction text generalizing before with
  | nil => simp [IsWordAfter, nonempty, nonempty.symm]
  | cons c cs ih =>
    rw [isWordAfter_cons_iff word nonempty, ih]
    constructor
    · rintro (⟨right, htext, hfree⟩ | ⟨left, right, rfl, hfree⟩)
      · exact ⟨[], right, htext, hfree⟩
      · exact ⟨c :: left, right, rfl, by rwa [getLast?_cons_or]⟩
    · rintro ⟨left, right, htext, hfree⟩
      cases left with
      | nil => exact .inl ⟨right, htext, hfree⟩
      | cons d left =>
        obtain ⟨rfl, rfl⟩ := List.cons.inj htext
        exact .inr ⟨left, right, rfl, by rwa [getLast?_cons_or] at hfree⟩

/-- `run` is one of the maximal runs of word characters in `text`: it stands there, and no word character
    is next to it. -/
structure MaximalRun (run text : List Char) : Prop where
  nonempty : run ≠ []
  word : AllWord run
  free : ∃ before after, text = before ++ (run ++ after) ∧
    standsFree before.getLast? after.head? = true

/-- **A text mentions the names that are maximal runs of it.** The search takes occurrences that do not
    overlap, and yet it finds a name wherever it stands free. -/
theorem mentions_maximalRun {sql name : String} (word : AllWord name.toList) (nonempty : name ≠ "") :
    (mentions sql name = true ↔ MaximalRun name.toList sql.toList) ∧
      ∀ before after, sql.toList = before ++ (name.toList ++ after) →
        standsFree before.getLast? after.head? = true → mentions sql name = true := by
  have hnonempty : name.toList ≠ [] := by simpa using nonempty
  have hsearch : mentions sql name = true ↔
      ∃ before after, sql.toList = before ++ (name.toList ++ after) ∧
        standsFree before.getLast? after.head? = true := by
    rw [mentions, standsIn_iff word hnonempty, isWordAfter_iff word hnonempty]
    simp
  refine ⟨?_, fun before after htext hfree => hsearch.mpr ⟨before, after, htext, hfree⟩⟩
  rw [hsearch]
  exact ⟨fun hfree => ⟨hnonempty, word, hfree⟩, MaximalRun.free⟩

/-- The first occurrence of `a_a` is not free, and it covers the beginning of the second one. -/
theorem mentions_maximalRun_covered :
    (AllWord "a_a".toList ∧ "a_a" ≠ "") ∧
      mentions "a_a_a a_a" "a_a" = true ∧ MaximalRun "a_a".toList "a_a_a a_a".toList := by
  have hword : AllWord "a_a".toList := by decide
  have hnonempty : "a_a" ≠ "" := by decide
  have hmentions : mentions "a_a_a a_a" "a_a" = true :=
    (mentions_maximalRun hword hnonempty).2 "a_a_a ".toList [] (by decide) (by decide)
  exact ⟨⟨hword, hnonempty⟩, hmentions, (mentions_maximalRun hword hnonempty).1.mp hmentions⟩

end StatSchema.Text
