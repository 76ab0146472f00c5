import Mathlib.Data.List.Forall2
import StatSchema.Proofs.Catalog.Violations
import StatSchema.Proofs.Text.Spelling

/-!
# `StatSchema.Proofs.Catalog.Spelling` — the rules of a catalog, checked on characters

Whether a catalog is lawful is a question about its names and its SQL. Here it is put to the characters of
the texts: a `Spelling` holds those of one object, and `Spelling.Fits` looks its names up among the words
of its statements. A catalog whose spelled objects fit is accepted.

## Contents
- **Tables.** `Lexicon`, `Lexicon.hasTable_iff`: the known tables, spelled.
- **Objects.** `Spelling`, `SchemaObject.SpelledBy`, `SpelledBy.mentions_iff`.
- **Check.** `IsName`, `Spelling.KeyFits`, `Spelling.ReadsFit`, `Spelling.Fits` for one object;
  `Spelling.fitFrom` for a list of objects, `Spelling.lawful_of_fitFrom`.
- **Verdict.** `Catalog.validate_of_fit`.
-/

namespace StatSchema

open Text (Spells SpellsAll AllWord)

/-! ## Tables -/

/-- The number of the partition table whose name, spelled `cs`, begins with `stem`. -/
def partitionNumber? (stem cs : List Char) : Option Nat :=
  match Text.dropLeading? stem cs with
  | some [tens, ones] => (Text.unsigned? partitionCount [tens, ones]).filter (1 ≤ ·)
  | _ => none

/-- The texts that the rules of a catalog speak of, spelled. -/
structure Lexicon where
  tables : List (List Char)
  stem : List Char
  uniqueIndex : List Char
  tables_spelled : SpellsAll baseTables tables
  stem_spelled : Spells partitionStem stem
  uniqueIndex_spelled : Spells "UNIQUE INDEX" uniqueIndex

/-- Whether the lexicon has a table of the name spelled `cs`. -/
def Lexicon.HasTable (lexicon : Lexicon) (cs : List Char) : Prop :=
  cs ∈ lexicon.tables ∨ (partitionNumber? lexicon.stem cs).isSome = true

instance (lexicon : Lexicon) (cs : List Char) : Decidable (lexicon.HasTable cs) :=
  inferInstanceAs (Decidable (_ ∨ _))

/-- The lexicon has the known tables. -/
theorem Lexicon.hasTable_iff (lexicon : Lexicon) {table : String} {cs : List Char}
    (spelled : Spells table cs) : lexicon.HasTable cs ↔ KnownTable table := by
  have hnumber : parsePartitionTable? table = partitionNumber? lexicon.stem cs := by
    unfold Spells at spelled
    rw [← spelled, ← lexicon.stem_spelled]
    rfl
  rw [HasTable, KnownTable, hnumber, spelled.mem_iff lexicon.tables_spelled]

/-! ## Objects -/

/-- The characters of an object's names and statements. -/
structure Spelling where
  name : List Char
  dependsOn : List (List Char)
  baseTables : List (List Char)
  body : List Char
  afterCreate : List (List Char)

/-- The words of the object's statements. -/
def Spelling.words (s : Spelling) : List (List Char) :=
  (s.body :: s.afterCreate).flatMap Text.words

/-- The object consists of the characters of the spelling. -/
structure SchemaObject.SpelledBy (o : SchemaObject) (s : Spelling) : Prop where
  name : Spells o.name s.name
  dependsOn : SpellsAll o.dependsOn s.dependsOn
  baseTables : SpellsAll o.baseTables s.baseTables
  body : Spells o.body s.body
  afterCreate : SpellsAll o.afterCreate s.afterCreate

variable {o : SchemaObject} {s : Spelling}

/-- An object is spelled field by field. -/
theorem SchemaObject.SpelledBy.of_fields {name body : List Char}
    {dependsOn baseTables afterCreate : List (List Char)} (hname : Spells o.name name)
    (hdependsOn : SpellsAll o.dependsOn dependsOn) (hbaseTables : SpellsAll o.baseTables baseTables)
    (hbody : Spells o.body body) (hafterCreate : SpellsAll o.afterCreate afterCreate) :
    o.SpelledBy ⟨name, dependsOn, baseTables, body, afterCreate⟩ :=
  ⟨hname, hdependsOn, hbaseTables, hbody, hafterCreate⟩

/-- An object mentions a name when its characters are a word of its statements. -/
theorem SchemaObject.SpelledBy.mentions_iff (spelled : o.SpelledBy s) {name : String} {cs : List Char}
    (hname : Spells name cs) (word : AllWord cs) (nonempty : cs ≠ []) :
    o.mentions name = true ↔ cs ∈ s.words := by
  have hafter : o.afterCreate.any (Text.mentions · name) = true ↔
      ∃ text ∈ s.afterCreate, cs ∈ Text.words text := by
    rw [← spelled.afterCreate]
    simp [Text.Spells.mentions_iff rfl hname word nonempty]
  rw [SchemaObject.mentions, Bool.or_eq_true, spelled.body.mentions_iff hname word nonempty, hafter]
  simp [Spelling.words]

/-! ## Check -/

/-- The characters of a name: word characters, at least one. -/
def IsName (cs : List Char) : Prop := AllWord cs ∧ cs ≠ []

-- The instance is named, since another one goes through all characters that there are.
instance (cs : List Char) : Decidable (IsName cs) :=
  have : Decidable (AllWord cs) := List.decidableBAll (fun c => Text.isWordChar c = true) cs
  inferInstanceAs (Decidable (AllWord cs ∧ cs ≠ []))

/-- The unique key fits the kind and the shape of the object, which declares no other unique index. -/
def Spelling.KeyFits (s : Spelling) (o : SchemaObject) (uniqueIndex : List Char) : Prop :=
  (o.kind = .materializedView → o.uniqueKey ≠ [] ∧ (o.shape = .singleton → o.uniqueKey = ["id"]) ∧
    (o.shape = .series → o.uniqueKey = ["day"] ∨ o.uniqueKey = ["month"]) ∧
    ∀ text ∈ s.afterCreate, Text.contains uniqueIndex text = false) ∧
  (o.kind ≠ .materializedView → o.kind ≠ .table → o.uniqueKey = [])

instance (s : Spelling) (o : SchemaObject) (uniqueIndex : List Char) :
    Decidable (s.KeyFits o uniqueIndex) :=
  inferInstanceAs (Decidable (_ ∧ _))

/-- The object reads what it declares, and of the names `all` nothing else. -/
def Spelling.ReadsFit (s : Spelling) (all : List (List Char)) : Prop :=
  (∀ name ∈ s.dependsOn ++ s.baseTables, IsName name ∧ name ∈ s.words) ∧
    ∀ word ∈ s.words, word ∈ all → word ∈ s.name :: s.dependsOn

instance (s : Spelling) (all : List (List Char)) : Decidable (s.ReadsFit all) :=
  inferInstanceAs (Decidable (_ ∧ _))

/-- The spelled object keeps the rules of an object that is created after objects of the names `earlier`,
    in a catalog of the names `all`. -/
def Spelling.Fits (s : Spelling) (o : SchemaObject) (lexicon : Lexicon) (earlier all : List (List Char)) :
    Prop :=
  s.name ∉ earlier ∧ (∀ dependency ∈ s.dependsOn, dependency ∈ earlier) ∧
    (∀ table ∈ s.baseTables, lexicon.HasTable table) ∧ o.directives ≠ [] ∧
    s.KeyFits o lexicon.uniqueIndex ∧ s.ReadsFit all

instance (s : Spelling) (o : SchemaObject) (lexicon : Lexicon) (earlier all : List (List Char)) :
    Decidable (s.Fits o lexicon earlier all) :=
  inferInstanceAs (Decidable (_ ∧ _))

/-- Whether every spelled object fits, after those of the names `earlier`. -/
def Spelling.fitFrom (lexicon : Lexicon) (all : List (List Char)) :
    List (List Char) → List SchemaObject → List Spelling → Bool
  | earlier, o :: objects, s :: spellings =>
    decide (s.Fits o lexicon earlier all) && fitFrom lexicon all (earlier ++ [s.name]) objects spellings
  | _, _, _ => true

/-- A spelled object that fits is lawful. -/
theorem SchemaObject.SpelledBy.lawful (spelled : o.SpelledBy s) {lexicon : Lexicon}
    {before all : List SchemaObject} {earlier names : List (List Char)}
    (hearlier : SpellsAll (before.map (·.name)) earlier) (hnames : SpellsAll (all.map (·.name)) names)
    (named : ∀ name ∈ names, IsName name) (fits : s.Fits o lexicon earlier names) :
    o.Lawful before all := by
  obtain ⟨fresh, created, known, commented, ⟨key, keyless⟩, read, declared⟩ := fits
  have hfresh : o.name ∉ before.map (·.name) := mt (spelled.name.mem_iff hearlier).mp fresh
  have hread {name : String} {cs : List Char} (hname : Spells name cs)
      (hcs : cs ∈ s.dependsOn ++ s.baseTables) : o.mentions name = true := by
    obtain ⟨⟨word, nonempty⟩, hword⟩ := read cs hcs
    exact (spelled.mentions_iff hname word nonempty).mpr hword
  have hspelled {name : String} {names' : List String} {css : List (List Char)}
      (hall : SpellsAll names' css) (hname : name ∈ names') : name.toList ∈ css :=
    (Text.Spells.mem_iff rfl hall).mp hname
  exact {
    named := fun p hp heq => hfresh (heq ▸ List.mem_map_of_mem hp)
    keyed := fun materialized => (key materialized).1
    singleton := fun materialized => (key materialized).2.1
    series := fun materialized => (key materialized).2.2.1
    oneIndex := by
      intro materialized text htext declares
      have habsent := (key materialized).2.2.2 _ (hspelled spelled.afterCreate htext)
      rw [lexicon.uniqueIndex_spelled, ← Text.contains_iff_infix, habsent] at declares
      cases declares
    keyless := keyless
    created := by
      intro dependency hdependency
      have hbefore : dependency ∈ before.map (·.name) :=
        (Text.Spells.mem_iff rfl hearlier).mpr (created _ (hspelled spelled.dependsOn hdependency))
      refine ⟨List.mem_map.mp hbefore, ?_⟩
      rintro rfl
      exact hfresh hbefore
    read := fun dependency h => hread rfl (List.mem_append_left _ (hspelled spelled.dependsOn h))
    declared := by
      intro p hp hother mentioned
      -- A name that is mentioned is a word, and the words that are names are declared or the object's own.
      have hp' : p.name.toList ∈ names := hspelled hnames (List.mem_map_of_mem hp)
      obtain ⟨word, nonempty⟩ := named _ hp'
      have hword := (spelled.mentions_iff rfl word nonempty).mp mentioned
      rcases List.mem_cons.mp (declared _ hword hp') with hself | hdeclared
      · exact absurd ((Text.Spells.eq_iff rfl spelled.name).mpr hself) hother
      · exact (Text.Spells.mem_iff rfl spelled.dependsOn).mpr hdeclared
    known := fun table h => (lexicon.hasTable_iff rfl).mp (known _ (hspelled spelled.baseTables h))
    tableRead := fun table h => hread rfl (List.mem_append_right _ (hspelled spelled.baseTables h))
    commented }

/-! ## Verdict -/

/-- The spellings show the names. -/
theorem Spelling.spellsAll_names {objects : List SchemaObject} {spellings : List Spelling}
    (spelled : List.Forall₂ SchemaObject.SpelledBy objects spellings) :
    SpellsAll (objects.map (·.name)) (spellings.map (·.name)) := by
  induction spelled with
  | nil => exact SpellsAll.nil
  | cons hp hrest ih => exact SpellsAll.cons hp.name ih

/-- Spelled objects that fit one after the other are lawful at their positions. -/
theorem Spelling.lawful_of_fitFrom {lexicon : Lexicon} {before objects all : List SchemaObject}
    {earlier names : List (List Char)} {spellings : List Spelling}
    (spelled : List.Forall₂ SchemaObject.SpelledBy objects spellings)
    (hearlier : SpellsAll (before.map (·.name)) earlier) (hnames : SpellsAll (all.map (·.name)) names)
    (named : ∀ name ∈ names, IsName name)
    (fit : Spelling.fitFrom lexicon names earlier objects spellings = true) (i : Nat) (o : SchemaObject)
    (position : objects[i]? = some o) : o.Lawful (before ++ objects.take i) all := by
  induction spelled generalizing before earlier i with
  | nil => cases position
  | @cons p s objects spellings hp hrest ih =>
    rw [fitFrom, Bool.and_eq_true, decide_eq_true_iff] at fit
    cases i with
    | zero =>
      cases position
      rw [List.take_zero, List.append_nil]
      exact hp.lawful hearlier hnames named fit.1
    | succ i =>
      have hnext : SpellsAll ((before ++ [p]).map (·.name)) (earlier ++ [s.name]) := by
        unfold SpellsAll at *
        have hname : p.name.toList = s.name := hp.name
        simp [hearlier, hname]
      have h := ih hnext fit.2 i position
      rwa [List.append_assoc] at h

/-- **A catalog is accepted when its spelled objects fit.** -/
theorem Catalog.validate_of_fit {c : Catalog} {spellings : List Spelling} {lexicon : Lexicon}
    (spelled : List.Forall₂ SchemaObject.SpelledBy c.objects spellings)
    (named : ∀ s ∈ spellings, IsName s.name)
    (fit : Spelling.fitFrom lexicon (spellings.map (·.name)) [] c.objects spellings = true) :
    c.validate = .ok () := by
  have hnone : SpellsAll (([] : List SchemaObject).map (·.name)) [] := SpellsAll.nil
  have hnamed : ∀ name ∈ spellings.map (·.name), IsName name := by
    intro name hname
    obtain ⟨s, hs, rfl⟩ := List.mem_map.mp hname
    exact named s hs
  rw [Catalog.validate_eq_ok_iff]
  exact Spelling.lawful_of_fitFrom spelled hnone (Spelling.spellsAll_names spelled) hnamed fit

end StatSchema
