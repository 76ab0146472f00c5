import Mathlib.Data.List.TakeWhile
import StatSchema.Proofs.Catalog.Violations

/-!
# `StatSchema.Proofs.Catalog.UniqueIndex` — how many unique indexes a materialized view gets

A concurrent refresh needs exactly one unique index on each materialized view. One is rendered with the
view. The check of a catalog looks for others by one spelling of two keywords, but to SQL the case of
keywords and the blanks between them are all one. So in an accepted catalog there is one statement in the
common spelling, and as many more as there are statements after the view in another spelling.

## Contents
- **Words.** `Text.blankWords`, which trimming leaves alone.
- **Statements.** `createsUniqueIndex`, `spellsUniqueIndex`.
- **Counts.** `uniqueIndexes_counted`.
-/

namespace StatSchema

/-! ## Words -/

namespace Text

/-- The words of a text as blanks separate them. -/
def blankWords (text : List Char) : List (List Char) :=
  (text.splitOnP isBlank).filter (!·.isEmpty)

/-- No word goes across a blank. -/
theorem blankWords_append {c : Char} (blank : isBlank c) (before after : List Char) :
    blankWords (before ++ c :: after) = blankWords before ++ blankWords after := by
  unfold blankWords
  rw [List.splitOnP_append_cons before after blank, List.filter_append]

theorem blankWords_nil : blankWords [] = [] := rfl

theorem blankWords_cons {c : Char} (blank : isBlank c) (text : List Char) :
    blankWords (c :: text) = blankWords text :=
  blankWords_append blank [] text

theorem blankWords_blanks_append {blanks : List Char} (blank : ∀ c ∈ blanks, isBlank c)
    (text : List Char) : blankWords (blanks ++ text) = blankWords text := by
  induction blanks with
  | nil => rfl
  | cons c blanks ih =>
    rw [List.cons_append, blankWords_cons (blank c List.mem_cons_self)]
    exact ih fun d hd => blank d (List.mem_cons_of_mem c hd)

theorem blankWords_append_blanks {blanks : List Char} (blank : ∀ c ∈ blanks, isBlank c)
    (text : List Char) : blankWords (text ++ blanks) = blankWords text := by
  cases blanks with
  | nil => rw [List.append_nil]
  | cons c blanks =>
    have hrest : blankWords (blanks ++ []) = [] :=
      blankWords_blanks_append (fun d hd => blank d (List.mem_cons_of_mem c hd)) []
    rw [List.append_nil] at hrest
    rw [blankWords_append (blank c List.mem_cons_self), hrest, List.append_nil]

theorem blankWords_append_of_last {before : List Char} (blank : before.getLast?.any isBlank = true)
    (after : List Char) : blankWords (before ++ after) = blankWords before ++ blankWords after := by
  cases before using List.reverseRecOn with
  | nil => rfl
  | append_singleton before c =>
    have hc : isBlank c = true := by simpa using blank
    rw [List.append_assoc, List.singleton_append, blankWords_append hc, blankWords_append hc,
      blankWords_nil, List.append_nil]

/-- What trimming takes away is blank. -/
theorem exists_trimChars (text : List Char) :
    ∃ leading trailing, text = leading ++ (trimChars text ++ trailing) ∧
      (∀ c ∈ leading, isBlank c) ∧ ∀ c ∈ trailing, isBlank c := by
  let kept := text.dropWhile isBlank
  refine ⟨text.takeWhile isBlank, (kept.reverse.takeWhile isBlank).reverse, ?_, ?_, ?_⟩
  · rw [trimChars, ← List.reverse_append, List.takeWhile_append_dropWhile, List.reverse_reverse,
      List.takeWhile_append_dropWhile]
  · exact fun c hc => List.mem_takeWhile_imp hc
  · exact fun c hc => List.mem_takeWhile_imp (List.mem_reverse.mp hc)

theorem blankWords_trimChars (text : List Char) : blankWords (trimChars text) = blankWords text := by
  obtain ⟨leading, trailing, htext, hleading, htrailing⟩ := exists_trimChars text
  conv_rhs => rw [htext]
  rw [blankWords_blanks_append hleading, blankWords_append_blanks htrailing]

theorem toList_trim (s : String) : (trim s).toList = trimChars s.toList := String.toList_ofList

theorem trimChars_infix (text : List Char) : trimChars text <:+: text := by
  obtain ⟨leading, trailing, htext, -⟩ := exists_trimChars text
  exact ⟨leading, trailing, by rw [List.append_assoc]; exact htext.symm⟩

end Text

/-! ## Statements -/

/-- The words with which the definition of a unique index begins. -/
def uniqueIndexWords : List (List Char) :=
  ["CREATE".toList, "UNIQUE".toList, "INDEX".toList]

/-- Whether SQL takes the statement for the definition of a unique index: by its first words, in letters
    of either case and with any blanks between them. -/
def createsUniqueIndex (statement : String) : Bool :=
  ((Text.blankWords statement.toList).take 3).map (·.map Char.toUpper) = uniqueIndexWords

/-- Whether the statement defines a unique index in the common spelling: in capitals, with single spaces. -/
def spellsUniqueIndex (statement : String) : Bool :=
  "CREATE UNIQUE INDEX".toList.isPrefixOf statement.toList

theorem createsUniqueIndex_trim (statement : String) :
    createsUniqueIndex (Text.trim statement) = createsUniqueIndex statement := by
  unfold createsUniqueIndex
  rw [Text.toList_trim, Text.blankWords_trimChars]

/-- Three words before a blank tell, whatever follows it. -/
theorem createsUniqueIndex_append {s : String} (rest : String)
    (three : 3 ≤ (Text.blankWords s.toList).length)
    (blank : s.toList.getLast?.any Text.isBlank = true) :
    createsUniqueIndex (s ++ rest) = createsUniqueIndex s := by
  unfold createsUniqueIndex
  rw [String.toList_append, Text.blankWords_append_of_last blank, List.take_append_of_le_length three]

theorem spellsUniqueIndex_append {s : String} (rest : String)
    (long : "CREATE UNIQUE INDEX".toList.length ≤ s.toList.length) :
    spellsUniqueIndex (s ++ rest) = spellsUniqueIndex s := by
  unfold spellsUniqueIndex
  rw [String.toList_append, Bool.eq_iff_iff, List.isPrefixOf_iff_prefix, List.isPrefixOf_iff_prefix]
  exact ⟨fun h => List.prefix_of_prefix_length_le h (List.prefix_append _ _) long,
    List.prefix_append_of_prefix⟩

/-! ## Counts -/

namespace SchemaObject

variable {o : SchemaObject}

/-- The words with which the statements about a materialized view begin: those for its unique index, for
    the view itself and for its comment. -/
def viewOpenings : List String :=
  ["CREATE UNIQUE INDEX ", "CREATE MATERIALIZED VIEW ", "COMMENT ON MATERIALIZED VIEW "]

/-- A property that the openings decide holds of as many statements as it holds of the index and of what
    follows the view. -/
theorem countP_createStatements {p : String → Bool} (materialized : o.kind = .materializedView)
    (told : ∀ opening ∈ viewOpenings, ∀ rest, p (opening ++ rest) = p opening)
    (index : p "CREATE UNIQUE INDEX " = true) (view : p "CREATE MATERIALIZED VIEW " = false)
    (comment : p "COMMENT ON MATERIALIZED VIEW " = false) :
    o.createStatements.countP p = 1 + (o.afterCreate.map Text.trim).countP p := by
  simp only [viewOpenings, List.forall_mem_cons, index, view, comment] at told
  obtain ⟨hindex, hview, hcomment, -⟩ := told
  have hdefinition : o.definition.countP p = 1 := by
    rw [definition, materialized]
    simp only [String.append_assoc, List.countP_cons, List.countP_nil, hindex, hview]
    rfl
  have hnone : o.commentStatements.countP p = 0 := by
    rw [commentStatements, materialized]
    split
    · rfl
    · have htext (target : String) : Directive.commentStatement "MATERIALIZED VIEW" target o.directives =
          "COMMENT ON MATERIALIZED VIEW " ++
            (target ++ (" IS " ++ Text.Literal.quote (Directive.render o.directives))) := by
        have hwords : "COMMENT ON " ++ "MATERIALIZED VIEW" ++ " " = "COMMENT ON MATERIALIZED VIEW " := by
          decide
        rw [Directive.commentStatement, hwords, String.append_assoc, String.append_assoc]
      simp only [ObjectKind.sqlType, htext, List.countP_cons, List.countP_nil, hcomment]
      rfl
  rw [createStatements, List.countP_append, List.countP_append, hdefinition, hnone, Nat.add_zero]

/-- To SQL a materialized view gets its own unique index and those that statements after it create. -/
theorem countP_createsUniqueIndex (materialized : o.kind = .materializedView) :
    o.createStatements.countP createsUniqueIndex = 1 + o.afterCreate.countP createsUniqueIndex := by
  have hlong : ∀ opening ∈ viewOpenings, 3 ≤ (Text.blankWords opening.toList).length ∧
      opening.toList.getLast?.any Text.isBlank = true := by decide
  have hcount : o.createStatements.countP createsUniqueIndex =
      1 + (o.afterCreate.map Text.trim).countP createsUniqueIndex := by
    refine countP_createStatements materialized ?told (by decide) (by decide) (by decide)
    case told =>
      intro opening hopening rest
      obtain ⟨three, blank⟩ := hlong opening hopening
      exact createsUniqueIndex_append rest three blank
  have htrim : createsUniqueIndex ∘ Text.trim = createsUniqueIndex := by
    funext s
    rw [Function.comp_apply, createsUniqueIndex_trim]
  rw [hcount, List.countP_map, htrim]

/-- In the common spelling it gets its own, if no statement after it names a unique index so. -/
theorem countP_spellsUniqueIndex (materialized : o.kind = .materializedView)
    (once : ∀ s ∈ o.afterCreate, ¬ "UNIQUE INDEX".toList <:+: s.toList) :
    o.createStatements.countP spellsUniqueIndex = 1 := by
  have hlong : ∀ opening ∈ viewOpenings,
      "CREATE UNIQUE INDEX".toList.length ≤ opening.toList.length := by decide
  have hnone : (o.afterCreate.map Text.trim).countP spellsUniqueIndex = 0 := by
    rw [List.countP_eq_zero, List.forall_mem_map]
    intro s hs hspells
    apply once s hs
    have hprefix : "CREATE UNIQUE INDEX".toList <+: Text.trimChars s.toList := by
      rwa [spellsUniqueIndex, List.isPrefixOf_iff_prefix, Text.toList_trim] at hspells
    have hkeywords : "UNIQUE INDEX".toList <:+: "CREATE UNIQUE INDEX".toList :=
      ⟨"CREATE ".toList, [], by decide⟩
    exact (hkeywords.trans hprefix.isInfix).trans (Text.trimChars_infix s.toList)
  rw [countP_createStatements materialized ?told (by decide) (by decide) (by decide), hnone]
  case told => exact fun opening hopening rest => spellsUniqueIndex_append rest (hlong opening hopening)

end SchemaObject

/-- **The unique indexes of an accepted catalog.** A materialized view gets one in the common spelling. It
    gets as many more as statements after it create, none of which shows the two keywords that the check
    looks for. -/
theorem uniqueIndexes_counted {c : Catalog} (valid : c.validate = .ok ()) {o : SchemaObject}
    (ho : o ∈ c.objects) (materialized : o.kind = .materializedView) :
    o.createStatements.countP spellsUniqueIndex = 1 ∧
      o.createStatements.countP createsUniqueIndex = 1 + o.afterCreate.countP createsUniqueIndex ∧
      ∀ s ∈ o.afterCreate, createsUniqueIndex s = true → ¬ "UNIQUE INDEX".toList <:+: s.toList := by
  obtain ⟨i, position⟩ := List.mem_iff_getElem?.mp ho
  have honce := (Catalog.validate_eq_ok_iff.mp valid i o position).oneIndex materialized
  exact ⟨SchemaObject.countP_spellsUniqueIndex materialized honce,
    SchemaObject.countP_createsUniqueIndex materialized, fun s hs _ => honce s hs⟩

/-- A view of block heights with a second unique index, which is asked for in small letters. -/
def SchemaObject.indexedTwice : SchemaObject :=
  { materialized "statistic_heights" .keyed .light with
    uniqueKey := ["height"]
    baseTables := ["block"]
    body := "SELECT height FROM block"
    afterCreate := ["create unique index heights_again ON statistic_heights (height)"]
    directives := [.hide] }

/-- It is accepted, and gets two unique indexes. -/
theorem uniqueIndexes_counted_smallLetters :
    (⟨[.indexedTwice]⟩ : Catalog).validate = .ok () ∧
      SchemaObject.indexedTwice.createStatements.countP createsUniqueIndex = 2 := by
  have valid : (⟨[.indexedTwice]⟩ : Catalog).validate = .ok () := by decide +kernel
  refine ⟨valid, ?_⟩
  rw [(uniqueIndexes_counted valid List.mem_cons_self rfl).2.1]
  decide

end StatSchema
