import StatSchema.Directive
import StatSchema.Proofs.Text.Cuts
import StatSchema.Proofs.Text.Literals
import StatSchema.Proofs.Text.Reading

/-!
# `StatSchema.Proofs.Directive` — a comment determines its directives

The generator of the public schema sees nothing of an object but its comment. If two lists of directives had
the same comment, it could not tell which of them was meant. They have not, as long as the names in them are
words: a comment is read back line by line, and a line by its words (`readComment_render`). Only a relation
needs more than its words, as its lists of columns could otherwise run into what follows them; the brackets
that close the lists are where its line is cut.

## Contents
- **Lines.** `Directive.Worded`, `Directive.readLine?`; `readLine?_text`, one lemma for each directive.
- **Comments.** `Directive.readComment`, `readComment_render`.
- **Main result.** `comment_determines_directives`.
-/

namespace StatSchema

/-! ## Lines -/

namespace Directive

open Text (IsWord Gap Stops readWords)

/-- All names in the directive are words; there may be any number of columns. -/
def Worded : Directive → Prop
  | .hide | .hideListings => True
  | .rename name => IsWord name
  | .unique columns => ∀ column ∈ columns, IsWord column
  | .relation key =>
    (∀ column ∈ key.columns, IsWord column) ∧ IsWord key.target ∧
      (∀ column ∈ key.targetColumns, IsWord column) ∧ IsWord key.reverseField ∧ IsWord key.forwardField

instance : (d : Directive) → Decidable d.Worded
  | .hide | .hideListings => .isTrue trivial
  | .rename name => inferInstanceAs (Decidable (IsWord name))
  | .unique columns => inferInstanceAs (Decidable (∀ column ∈ columns, IsWord column))
  | .relation key =>
    inferInstanceAs (Decidable ((∀ column ∈ key.columns, IsWord column) ∧ IsWord key.target ∧
      (∀ column ∈ key.targetColumns, IsWord column) ∧ IsWord key.reverseField ∧
        IsWord key.forwardField))

/-- The relation of a line: its columns before the first closing bracket, the target and its columns before
    the second one, and the names of the fields behind it. -/
def readKey? (line : List Char) : Option ForeignKey := do
  let (columns, rest) ← Text.cutFirst [')'] line
  let (target, fields) ← Text.cutFirst [')'] rest
  match readWords columns, readWords target, readWords fields with
  | _ :: columns, _ :: target :: targetColumns, [_, reverseField, _, forwardField] =>
    some ⟨columns, target, targetColumns, reverseField, forwardField⟩
  | _, _, _ => none

/-- The directive of a line: its first word says which one. -/
def readLine? (line : List Char) : Option Directive :=
  match readWords line with
  | ["omit"] => some .hide
  | ["omit", "all"] => some .hideListings
  | ["name", name] => some (.rename name)
  | "unique" :: columns => some (.unique columns)
  | "foreignKey" :: _ => (readKey? line).map .relation
  | _ => none

section Key

variable {key : ForeignKey}

/-- The line of a relation up to the bracket that closes its columns. -/
def columnsPart (key : ForeignKey) : List Char :=
  "@foreignKey (".toList ++ (", ".intercalate key.columns).toList

/-- What follows up to the bracket that closes the columns of the target. -/
def targetPart (key : ForeignKey) : List Char :=
  " references ".toList ++ (key.target.toList ++
    (" (".toList ++ (", ".intercalate key.targetColumns).toList))

/-- What follows that bracket. -/
def fieldsPart (key : ForeignKey) : List Char :=
  "|@foreignFieldName ".toList ++ (key.reverseField.toList ++
    ("|@fieldName ".toList ++ key.forwardField.toList))

theorem toList_relation (key : ForeignKey) :
    (text (.relation key)).toList = columnsPart key ++ ')' :: (targetPart key ++ ')' :: fieldsPart key) := by
  have hreferences : ") references ".toList = ')' :: " references ".toList := by rfl
  have hfields : ")|@foreignFieldName ".toList = ')' :: "|@foreignFieldName ".toList := by rfl
  unfold text columnsPart targetPart fieldsPart
  simp only [String.toList_append, hreferences, hfields, List.append_assoc, List.cons_append]

theorem readWords_columnsPart (h : Worded (.relation key)) {rest : List Char} (stops : Stops rest) :
    readWords (columnsPart key ++ rest) = "foreignKey" :: (key.columns ++ readWords rest) := by
  have heading : Text.Heading "@foreignKey (" "foreignKey" :=
    ⟨['@'], [' ', '('], rfl, by decide, by decide, by decide, by decide⟩
  unfold columnsPart
  rw [List.append_assoc, heading.readWords,
    Text.readWords_joined ", " (by decide) (by decide) h.1 stops]

theorem readWords_targetPart (h : Worded (.relation key)) :
    readWords (targetPart key) = "references" :: key.target :: key.targetColumns := by
  have heading : Text.Heading " references " "references" :=
    ⟨[' '], [' '], rfl, by decide, by decide, by decide, by decide⟩
  have hgap : Gap " (".toList := by decide
  unfold targetPart
  rw [heading.readWords, Text.readWords_word h.2.1 (Text.stops_gap hgap (by decide) _),
    Text.readWords_gap hgap, Text.readWords_all ", " (by decide) (by decide) h.2.2.1]

theorem readWords_fieldsPart (h : Worded (.relation key)) :
    readWords (fieldsPart key) =
      ["foreignFieldName", key.reverseField, "fieldName", key.forwardField] := by
  have first : Text.Heading "|@foreignFieldName " "foreignFieldName" :=
    ⟨['|', '@'], [' '], rfl, by decide, by decide, by decide, by decide⟩
  have second : Text.Heading "|@fieldName " "fieldName" :=
    ⟨['|', '@'], [' '], rfl, by decide, by decide, by decide, by decide⟩
  have hstops : Stops ("|@fieldName ".toList ++ key.forwardField.toList) := by rfl
  unfold fieldsPart
  rw [first.readWords, Text.readWords_word h.2.2.2.1 hstops, second.readWords,
    Text.readWords_single h.2.2.2.2]

/-- No bracket closes before the end of the columns. -/
theorem bracket_notMem_columnsPart (h : Worded (.relation key)) : ')' ∉ columnsPart key := by
  have hcolumns : ')' ∉ (", ".intercalate key.columns).toList :=
    Text.notMem_joined h.1 (by decide) (by decide)
  unfold columnsPart
  rw [List.mem_append, not_or]
  exact ⟨by decide, hcolumns⟩

theorem bracket_notMem_targetPart (h : Worded (.relation key)) : ')' ∉ targetPart key := by
  have htarget : ')' ∉ key.target.toList := Text.notMem_word h.2.1 (by decide)
  have hcolumns : ')' ∉ (", ".intercalate key.targetColumns).toList :=
    Text.notMem_joined h.2.2.1 (by decide) (by decide)
  unfold targetPart
  simp only [List.mem_append, not_or]
  exact ⟨by decide, htarget, by decide, hcolumns⟩

/-- **The line of a relation is read back.** -/
theorem readKey?_text (h : Worded (.relation key)) :
    readKey? (text (.relation key)).toList = some key := by
  have hfirst : Text.cutFirst [')'] (text (.relation key)).toList =
      some (columnsPart key, targetPart key ++ ')' :: fieldsPart key) :=
    Text.cutFirst_char_eq_some_iff.mpr ⟨toList_relation key, bracket_notMem_columnsPart h⟩
  have hsecond : Text.cutFirst [')'] (targetPart key ++ ')' :: fieldsPart key) =
      some (targetPart key, fieldsPart key) :=
    Text.cutFirst_char_eq_some_iff.mpr ⟨rfl, bracket_notMem_targetPart h⟩
  have hcolumns := readWords_columnsPart h Text.stops_nil
  rw [List.append_nil, Text.readWords_nil, List.append_nil] at hcolumns
  simp only [readKey?, hfirst, hsecond, hcolumns, readWords_targetPart h, readWords_fieldsPart h,
    Option.bind_eq_bind, Option.bind_some]

end Key

/-- **A line is read back as its directive.** -/
theorem readLine?_text {d : Directive} (h : d.Worded) : readLine? d.text.toList = some d := by
  cases d with
  | hide => rfl
  | hideListings => rfl
  | rename name =>
    have heading : Text.Heading "@name " "name" :=
      ⟨['@'], [' '], rfl, by decide, by decide, by decide, by decide⟩
    unfold readLine? text
    rw [String.toList_append, heading.readWords, Text.readWords_single h]
    rfl
  | unique columns =>
    have heading : Text.Heading "@unique " "unique" :=
      ⟨['@'], [' '], rfl, by decide, by decide, by decide, by decide⟩
    unfold readLine? text
    rw [String.toList_append, heading.readWords, Text.readWords_all "," (by decide) (by decide) h]
    rfl
  | relation key =>
    have hline : readWords (text (.relation key)).toList =
        "foreignKey" :: (key.columns ++ readWords (')' :: (targetPart key ++ ')' :: fieldsPart key))) := by
      rw [toList_relation]
      exact readWords_columnsPart h rfl
    unfold readLine?
    rw [hline]
    exact congrArg (Option.map Directive.relation) (readKey?_text h)

/-- A directive is one line. -/
theorem newline_notMem_text {d : Directive} (h : d.Worded) : '\n' ∉ d.text.toList := by
  have hword {w : String} (hw : IsWord w) : '\n' ∉ w.toList := Text.notMem_word hw (by decide)
  have hjoined {separator : String} {columns : List String} (hcolumns : ∀ c ∈ columns, IsWord c)
      (free : '\n' ∉ separator.toList) : '\n' ∉ (separator.intercalate columns).toList :=
    Text.notMem_joined hcolumns (by decide) free
  cases d with
  | hide => decide
  | hideListings => decide
  | rename name =>
    unfold text
    rw [String.toList_append, List.mem_append, not_or]
    exact ⟨by decide, hword h⟩
  | unique columns =>
    unfold text
    rw [String.toList_append, List.mem_append, not_or]
    exact ⟨by decide, hjoined h (by decide)⟩
  | relation key =>
    obtain ⟨hcolumns, htarget, htargetColumns, hreverse, hforward⟩ := h
    unfold text
    simp only [String.toList_append, List.mem_append, not_or]
    exact ⟨⟨⟨⟨⟨⟨⟨⟨⟨by decide, hjoined hcolumns (by decide)⟩, by decide⟩, hword htarget⟩, by decide⟩,
      hjoined htargetColumns (by decide)⟩, by decide⟩, hword hreverse⟩, by decide⟩, hword hforward⟩

/-! ## Comments -/

/-- The directives of a comment, one for each line that is a directive; an empty comment has no line. -/
def readComment (comment : String) : List (Option Directive) :=
  if comment = "" then [] else (comment.toList.splitOn '\n').map readLine?

/-- A directive is not empty. -/
theorem text_ne_empty {d : Directive} (h : d.Worded) : d.text ≠ "" := by
  intro hempty
  have hread := readLine?_text h
  rw [hempty] at hread
  cases hread

/-- **A comment is read back as its directives.** -/
theorem readComment_render {ds : List Directive} (h : ∀ d ∈ ds, d.Worded) :
    readComment (render ds) = ds.map some := by
  cases ds with
  | nil => rfl
  | cons d ds =>
    have hd : d.text ≠ "" := text_ne_empty (h d List.mem_cons_self)
    have hne : render (d :: ds) ≠ "" := by
      cases ds <;> simp [render, hd]
    have hlines : (render (d :: ds)).toList.splitOn '\n' =
        ((d :: ds).map text).map String.toList := by
      have hfree : ∀ line ∈ ((d :: ds).map text).map String.toList, '\n' ∉ line := by
        intro line hline
        rw [List.map_map] at hline
        obtain ⟨e, he, rfl⟩ := List.mem_map.mp hline
        exact newline_notMem_text (h e he)
      unfold render
      rw [String.toList_intercalate]
      exact List.splitOn_intercalate '\n' hfree (by simp)
    unfold readComment
    rw [if_neg hne, hlines, List.map_map, List.map_map]
    exact List.map_congr_left fun e he => readLine?_text (h e he)

/-! ## Main result -/

/-- **A comment determines its directives,** and so does the statement that attaches it to an object. -/
theorem comment_determines_directives {ds es : List Directive} (hds : ∀ d ∈ ds, d.Worded)
    (hes : ∀ e ∈ es, e.Worded) :
    (render ds = render es ↔ ds = es) ∧
      ∀ objectType target,
        commentStatement objectType target ds = commentStatement objectType target es ↔ ds = es := by
  have hrender : render ds = render es ↔ ds = es := by
    constructor
    · intro h
      have hread : ds.map some = es.map some := by
        rw [← readComment_render hds, ← readComment_render hes, h]
      exact (List.map_inj_right fun _ _ => Option.some.inj).mp hread
    · rintro rfl
      rfl
  refine ⟨hrender, fun objectType target => ?_⟩
  rw [← hrender]
  constructor
  · intro h
    unfold commentStatement at h
    rw [String.append_right_inj] at h
    exact Text.Literal.quote_injective h
  · intro h
    unfold commentStatement
    rw [h]

/-- A key of two columns that refers to all of `post`, with no column named. -/
def byTwoColumns : List Directive :=
  [.unique [], .relation ⟨["hash", "references"], "post", [], "stats", "post"⟩]

/-- A key of one column, with the same words in the same order. -/
def byOneColumn : List Directive :=
  [.unique [], .relation ⟨["hash"], "references", ["post"], "stats", "post"⟩]

/-- Brackets tell two relations apart whose words are the same. -/
theorem comment_determines_directives_sameWords :
    ((∀ d ∈ byTwoColumns, d.Worded) ∧ ∀ d ∈ byOneColumn, d.Worded) ∧
      readWords (render byTwoColumns).toList = readWords (render byOneColumn).toList ∧
      render byTwoColumns ≠ render byOneColumn ∧
      commentStatement "VIEW" "post_stats" byTwoColumns ≠
        commentStatement "VIEW" "post_stats" byOneColumn := by
  have htwo : ∀ d ∈ byTwoColumns, d.Worded := by decide
  have hone : ∀ d ∈ byOneColumn, d.Worded := by decide
  have hne : byTwoColumns ≠ byOneColumn := by decide
  obtain ⟨hrender, hstatement⟩ := comment_determines_directives htwo hone
  exact ⟨⟨htwo, hone⟩, by decide +kernel, fun h => hne (hrender.mp h),
    fun h => hne ((hstatement "VIEW" "post_stats").mp h)⟩

end Directive

end StatSchema
