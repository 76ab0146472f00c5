import StatSchema.Text.Literal

/-!
# `StatSchema.Proofs.Text.Literals` — a quoted text is read back as it is

Standard SQL reads a statement from left to right. A mark opens a literal, in the literal a doubled mark
stands for one, and the first mark that is not doubled closes it. A quoted text is one literal to this
reader, whatever marks are in it and whatever follows, as long as no mark does. So texts that are quoted
into a statement cannot change what stands around them.

## Contents
- **Reading a literal.** `body`, `read`; `read_quote`, and from it `quote_injective`; `body_eq_some_iff`,
  `quoted_selfDelimiting`.
- **Reading a statement.** `Token`, `lex`; `lex_plain`, `lex_quote`.
- **Statements with literals.** `fill`, `around`, `Reads`; `reads_fill`, `Reads.contents_eq`.
-/

namespace StatSchema.Text.Literal

/-! ## Reading a literal -/

/-- The text of a literal after its opening mark, and what follows the literal; nothing if no mark closes
    it. -/
def body : List Char → Option (List Char × List Char)
  | [] => none
  | c :: cs =>
    if c = mark then
      match cs with
      | [] => some ([], [])
      | d :: ds => if d = mark then (body ds).map (Prod.map (mark :: ·) id) else some ([], d :: ds)
    else (body cs).map (Prod.map (c :: ·) id)

/-- The text of the literal that stands at the beginning, and what follows it. -/
def read : List Char → Option (List Char × List Char)
  | [] => none
  | c :: cs => if c = mark then body cs else none

theorem body_doubled (cs : List Char) :
    body (mark :: mark :: cs) = (body cs).map (Prod.map (mark :: ·) id) := by
  rw [body, if_pos rfl, if_pos rfl]

theorem body_other {c : Char} (other : c ≠ mark) (cs : List Char) :
    body (c :: cs) = (body cs).map (Prod.map (c :: ·) id) := by
  cases cs with
  | nil => rw [body.eq_2, if_neg other]
  | cons d ds => rw [body.eq_3, if_neg other]

/-- A mark that is not doubled closes the literal. -/
theorem body_closed {rest : List Char} (free : rest.head? ≠ some mark) :
    body (mark :: rest) = some ([], rest) := by
  cases rest with
  | nil => rw [body, if_pos rfl]
  | cons d ds =>
    have hd : d ≠ mark := fun h => free (congrArg some h)
    rw [body, if_pos rfl, if_neg hd]

/-- **The characters between the marks are read back as the text.** -/
theorem body_double (text : List Char) {rest : List Char} (free : rest.head? ≠ some mark) :
    body (double text ++ mark :: rest) = some (text, rest) := by
  induction text with
  | nil => exact body_closed free
  | cons c text ih =>
    unfold double
    by_cases hc : c = mark
    · rw [if_pos hc, List.cons_append, List.cons_append, body_doubled, ih, hc]
      rfl
    · rw [if_neg hc, List.cons_append, body_other hc, ih]
      rfl

theorem quote_toList (text : String) : (quote text).toList = mark :: (double text.toList ++ [mark]) :=
  String.toList_ofList

/-- **A literal is read back as its text.** -/
theorem read_quote (text : String) {rest : List Char} (free : rest.head? ≠ some mark) :
    read ((quote text).toList ++ rest) = some (text.toList, rest) := by
  rw [quote_toList, List.cons_append, List.append_assoc, List.singleton_append, read, if_pos rfl,
    body_double _ free]

/-- A literal tells texts apart. -/
theorem quote_injective {s t : String} (h : quote s = quote t) : s = t := by
  have hread (s : String) : read (quote s).toList = some (s.toList, []) := by
    rw [← List.append_nil (quote s).toList]
    exact read_quote s (by simp)
  have hsame : some (s.toList, ([] : List Char)) = some (t.toList, []) := by
    rw [← hread s, ← hread t, h]
  exact String.toList_inj.mp (Prod.mk.inj (Option.some.inj hsame)).1

/-- **The reader closes a literal at the one mark that ends a doubled text.** The cases are those of the
    reader: two marks stand for one of the text, and a mark that no other follows ends it. -/
theorem body_eq_some_iff {cs content rest : List Char} :
    body cs = some (content, rest) ↔ cs = double content ++ mark :: rest ∧ rest.head? ≠ some mark := by
  constructor
  · intro h
    fun_induction body cs generalizing content with
    | case1 => cases h
    | case2 =>
      cases h
      exact ⟨rfl, by simp⟩
    | case3 ds ih =>
      obtain ⟨⟨inner, after⟩, hbody, heq⟩ := Option.map_eq_some_iff.mp h
      cases heq
      obtain ⟨rfl, free⟩ := ih hbody
      exact ⟨by simp [double], free⟩
    | case4 d ds other =>
      cases h
      exact ⟨rfl, by simpa using other⟩
    | case5 c cs other ih =>
      obtain ⟨⟨inner, after⟩, hbody, heq⟩ := Option.map_eq_some_iff.mp h
      cases heq
      obtain ⟨rfl, free⟩ := ih hbody
      exact ⟨by simp [double, other], free⟩
  · rintro ⟨rfl, free⟩
    exact body_double content free

/-- **A quoted text delimits itself.** A literal is read at the beginning of an input, as `text` with `rest`
    behind it, exactly if the input is the quoted text followed by `rest` and `rest` does not begin with a
    mark: no mark of the text, wherever it stands, ends the literal, and none of what follows gets into it. -/
theorem quoted_selfDelimiting (input : List Char) (text : String) (rest : List Char) :
    read input = some (text.toList, rest) ↔
      input = (quote text).toList ++ rest ∧ rest.head? ≠ some mark := by
  have hquote : (quote text).toList ++ rest = mark :: (double text.toList ++ mark :: rest) := by
    rw [quote_toList, List.cons_append, List.append_assoc, List.singleton_append]
  rw [hquote]
  cases input with
  | nil => simp [read]
  | cons c cs =>
    by_cases hc : c = mark
    · rw [read, if_pos hc, body_eq_some_iff, List.cons.injEq, and_iff_right hc]
    · rw [read, if_neg hc, List.cons.injEq]
      simp [hc]

/-- What follows a literal is shorter than the literal with it. -/
theorem length_of_body {cs content rest : List Char} (h : body cs = some (content, rest)) :
    rest.length < cs.length := by
  obtain ⟨rfl, -⟩ := body_eq_some_iff.mp h
  rw [List.length_append, List.length_cons]
  omega

/-! ## Reading a statement -/

/-- A piece of a statement: a character outside of literals, or a literal with the text it stands for. -/
inductive Token where
  | plain (c : Char)
  | literal (content : List Char)
  deriving DecidableEq, Repr

/-- The pieces of a statement; nothing if a literal in it is not closed. -/
def lex (text : List Char) : Option (List Token) :=
  match text with
  | [] => some []
  | c :: cs =>
    if c = mark then
      match h : body cs with
      | none => none
      | some (content, rest) =>
        have := length_of_body h
        (lex rest).map (.literal content :: ·)
    else (lex cs).map (.plain c :: ·)
termination_by text.length

theorem lex_nil : lex [] = some [] := by
  rw [lex]

theorem lex_plain {plain : List Char} (free : mark ∉ plain) (rest : List Char) :
    lex (plain ++ rest) = (lex rest).map (plain.map .plain ++ ·) := by
  induction plain with
  | nil => simp
  | cons c plain ih =>
    have hc : c ≠ mark := fun h => free (h ▸ List.mem_cons_self)
    have hplain : mark ∉ plain := fun h => free (List.mem_cons_of_mem c h)
    rw [List.cons_append, lex, if_neg hc, ih hplain, Option.map_map]
    rfl

/-- **A quoted text is one literal,** unless a mark follows it. -/
theorem lex_quote (text : String) {rest : List Char} (free : rest.head? ≠ some mark) :
    lex ((quote text).toList ++ rest) = (lex rest).map (.literal text.toList :: ·) := by
  have hbody := body_double text.toList free
  rw [quote_toList, List.cons_append, List.append_assoc, List.singleton_append, lex, if_pos rfl]
  split
  · next hnone =>
    rw [hbody] at hnone
    cases hnone
  · next content rest' hsome =>
    rw [hbody] at hsome
    cases hsome
    rfl

/-! ## Statements with literals -/

/-- What the piece is outside of literals: a character, or a gap. -/
def Token.outside : Token → Option Char
  | .plain c => some c
  | .literal _ => none

/-- The text that the piece stands for, if it is a literal. -/
def Token.content? : Token → Option (List Char)
  | .plain _ => none
  | .literal content => some content

/-- **SQL reads the statement as literals of the texts `contents`, with `outside` around them.** -/
def Reads (statement : String) (outside : List (Option Char)) (contents : List String) : Prop :=
  ∃ tokens, lex statement.toList = some tokens ∧ tokens.map Token.outside = outside ∧
    tokens.filterMap Token.content? = contents.map String.toList

/-- A statement is read in one way. -/
theorem Reads.contents_eq {statement : String} {outside outside' : List (Option Char)}
    {contents contents' : List String} (h : Reads statement outside contents)
    (h' : Reads statement outside' contents') : contents = contents' := by
  obtain ⟨tokens, hlex, -, hcontents⟩ := h
  obtain ⟨tokens', hlex', -, hcontents'⟩ := h'
  cases hlex.symm.trans hlex'
  exact (List.map_inj_right fun _ _ => String.toList_inj.mp).mp (hcontents.symm.trans hcontents')

/-- A statement that ends with the text `last`, before which each of `values` is quoted after the text that
    belongs to it. -/
def fill : (befores values : List String) → (last : String) → String
  | before :: befores, value :: values, last => before ++ quote value ++ fill befores values last
  | _, _, last => last

/-- What stands outside the literals of such a statement, with gaps for the literals. -/
def around (befores : List String) (last : String) : List (Option Char) :=
  befores.flatMap (fun before => before.toList.map some ++ [none]) ++ last.toList.map some

/-- Text without marks is read as it is. -/
theorem reads_plain {plain : String} (free : mark ∉ plain.toList) :
    Reads plain (plain.toList.map some) [] := by
  refine ⟨plain.toList.map .plain, ?_, ?_, ?_⟩
  · rw [← List.append_nil plain.toList, lex_plain free, lex_nil, Option.map_some, List.append_nil,
      List.append_nil]
  · rw [List.map_map]
    rfl
  · simp [Token.content?]

/-- A quoted value is read before what follows it. -/
theorem Reads.field {before rest : String} {outside : List (Option Char)} {contents : List String}
    (h : Reads rest outside contents) (value : String) (free : mark ∉ before.toList)
    (apart : rest.toList.head? ≠ some mark) :
    Reads (before ++ quote value ++ rest) (before.toList.map some ++ none :: outside)
      (value :: contents) := by
  obtain ⟨tokens, hlex, houtside, hcontents⟩ := h
  refine ⟨before.toList.map .plain ++ .literal value.toList :: tokens, ?_, ?_, ?_⟩
  · rw [String.toList_append, String.toList_append, List.append_assoc, lex_plain free,
      lex_quote value apart, hlex]
    rfl
  · rw [List.map_append, List.map_map, List.map_cons, houtside]
    rfl
  · simp [Token.content?, hcontents]

/-- The text that follows a literal begins without a mark. -/
theorem head?_fill {befores : List String} {last : String} (values : List String)
    (free : ∀ before ∈ befores, mark ∉ before.toList) (apart : ∀ before ∈ befores, before ≠ "")
    (lastFree : mark ∉ last.toList) : (fill befores values last).toList.head? ≠ some mark := by
  have hlast : last.toList.head? ≠ some mark := fun h => lastFree (List.mem_of_mem_head? h)
  cases befores with
  | nil => exact hlast
  | cons before befores =>
    cases values with
    | nil => exact hlast
    | cons value values =>
      have hbefore : before.toList.head?.isSome := by
        rw [List.isSome_head?]
        simpa using apart before List.mem_cons_self
      intro h
      apply free before List.mem_cons_self
      rw [fill, String.append_assoc, String.toList_append, List.head?_append,
        Option.or_of_isSome hbefore] at h
      exact List.mem_of_mem_head? h

/-- **Values are read back from the literals of a statement,** if no mark stands between them and
    something does. -/
theorem reads_fill {befores values : List String} {last : String}
    (same : befores.length = values.length) (free : ∀ before ∈ befores, mark ∉ before.toList)
    (apart : ∀ before ∈ befores.tail, before ≠ "") (lastFree : mark ∉ last.toList) :
    Reads (fill befores values last) (around befores last) values := by
  induction befores generalizing values with
  | nil =>
    cases List.length_eq_zero_iff.mp same.symm
    exact reads_plain lastFree
  | cons before befores ih =>
    cases values with
    | nil => cases same
    | cons value values =>
      have hfree : mark ∉ before.toList := free before List.mem_cons_self
      have hrest (b : String) (hb : b ∈ befores) : mark ∉ b.toList :=
        free b (List.mem_cons_of_mem before hb)
      have hreads : Reads (fill befores values last) (around befores last) values :=
        ih (Nat.succ.inj same) hrest fun b hb => apart b (List.mem_of_mem_tail hb)
      have hshape : around (before :: befores) last =
          before.toList.map some ++ none :: around befores last := by
        simp [around]
      rw [hshape]
      exact hreads.field value hfree (head?_fill values hrest apart lastFree)

end StatSchema.Text.Literal
