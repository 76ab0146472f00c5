import Mathlib.Data.List.Induction
import StatSchema.Catalog.Problem

/-!
# `StatSchema.Proofs.Catalog.Violations` — a catalog is accepted when it breaks no rule

The rules of a catalog are stated here without the checks that decide them: which objects keep them
(`Catalog.Lawful`), and by what and where they are broken (`Catalog.Breaks`). The verdict on a catalog is
that it is lawful, or it reports one problem for each place where a rule is broken, in the order of the
places: object by object, rule by rule, entry by entry.

## Contents
- **Rules.** `SchemaObject.Lawful`, `Catalog.Lawful`.
- **Violations.** `Place`, `SchemaObject.Breaks`, `Catalog.Breaks`; `Catalog.lawful_iff`.
- **Reports.** `Lists`, `Reports` and its laws.
- **Checks.** `SchemaObject.reports_problems`, `Catalog.reports_problems`.
- **Verdict.** `Catalog.validate_eq_ok_iff`, `Catalog.validate_lists`.
-/

namespace StatSchema

theorem Text.contains_iff_infix {part text : List Char} :
    Text.contains part text = true ↔ part <:+: text := by
  induction text with
  | nil => rw [Text.contains, List.isEmpty_iff, List.infix_nil]
  | cons c text ih =>
    rw [Text.contains, Bool.or_eq_true, List.isPrefixOf_iff_prefix, ih, List.infix_cons_iff]

/-! ## Rules -/

/-- A table of the explorer: it is known by its name, or it is a partition table. -/
def KnownTable (table : String) : Prop :=
  table ∈ baseTables ∨ (parsePartitionTable? table).isSome = true

theorem isBaseTable_iff {table : String} : isBaseTable table = true ↔ KnownTable table := by
  rw [isBaseTable, KnownTable, Bool.or_eq_true, decide_eq_true_iff]

/-- **The rules of an object** that is created after the objects `before`, in a catalog of the objects
    `all`. -/
structure SchemaObject.Lawful (o : SchemaObject) (before all : List SchemaObject) : Prop where
  named : ∀ p ∈ before, p.name ≠ o.name
  keyed : o.kind = .materializedView → o.uniqueKey ≠ []
  singleton : o.kind = .materializedView → o.shape = .singleton → o.uniqueKey = ["id"]
  series : o.kind = .materializedView → o.shape = .series →
    o.uniqueKey = ["day"] ∨ o.uniqueKey = ["month"]
  oneIndex : o.kind = .materializedView → ∀ s ∈ o.afterCreate,
    ¬ "UNIQUE INDEX".toList <:+: s.toList
  /-- Only a materialized view or a table has a unique key. -/
  keyless : o.kind ≠ .materializedView → o.kind ≠ .table → o.uniqueKey = []
  created : ∀ dependency ∈ o.dependsOn, (∃ p ∈ before, p.name = dependency) ∧ dependency ≠ o.name
  read : ∀ dependency ∈ o.dependsOn, o.mentions dependency = true
  declared : ∀ p ∈ all, p.name ≠ o.name → o.mentions p.name = true → p.name ∈ o.dependsOn
  known : ∀ table ∈ o.baseTables, KnownTable table
  tableRead : ∀ table ∈ o.baseTables, o.mentions table = true
  commented : o.directives ≠ []

/-- **The rules of a catalog**: each object keeps the rules of an object at its position. -/
def Catalog.Lawful (c : Catalog) : Prop :=
  ∀ (i : Nat) (o : SchemaObject), c.objects[i]? = some o →
    o.Lawful (c.objects.take i) c.objects

/-! ## Violations -/

/-- Where a rule is broken: the position of the object, then the number of the rule, and for a rule of
    entries the position of the entry and the number of what is wrong with it. -/
abbrev Place := List Nat

/-- Places are ordered as in a dictionary. -/
def Place.Before : Place → Place → Prop :=
  List.Lex (· < ·)

/-- **How an object breaks its rules**, with the place among its rules and the problem that reports it. -/
inductive SchemaObject.Breaks (o : SchemaObject) (before all : List SchemaObject) :
    Place → Problem → Prop where
  | declaredTwice {p : SchemaObject} (earlier : p ∈ before) (named : p.name = o.name) :
      Breaks o before all [0] (.declaredTwice o.name)
  | noUniqueKey (materialized : o.kind = .materializedView) (key : o.uniqueKey = []) :
      Breaks o before all [1] (.noUniqueKey o.name)
  | singletonKey (materialized : o.kind = .materializedView) (shape : o.shape = .singleton)
      (key : o.uniqueKey ≠ ["id"]) : Breaks o before all [2] (.singletonKey o.name)
  | seriesKey (materialized : o.kind = .materializedView) (shape : o.shape = .series)
      (day : o.uniqueKey ≠ ["day"]) (month : o.uniqueKey ≠ ["month"]) :
      Breaks o before all [3] (.seriesKey o.name)
  | secondUniqueIndex {s : String} (materialized : o.kind = .materializedView)
      (statement : s ∈ o.afterCreate) (declares : "UNIQUE INDEX".toList <:+: s.toList) :
      Breaks o before all [4] (.secondUniqueIndex o.name)
  | keyWithoutRows (other : o.kind ≠ .materializedView) (noTable : o.kind ≠ .table)
      (key : o.uniqueKey ≠ []) : Breaks o before all [5] (.keyWithoutRows o.name)
  | notCreatedBefore {j : Nat} {dependency : String} (entry : o.dependsOn[j]? = some dependency)
      (absent : (∀ p ∈ before, p.name ≠ dependency) ∨ dependency = o.name) :
      Breaks o before all [6, j, 0] (.notCreatedBefore o.name dependency)
  | neverRead {j : Nat} {dependency : String} (entry : o.dependsOn[j]? = some dependency)
      (unread : o.mentions dependency = false) :
      Breaks o before all [6, j, 1] (.neverRead o.name dependency)
  | undeclared {j : Nat} {p : SchemaObject} (entry : all[j]? = some p) (other : p.name ≠ o.name)
      (mentioned : o.mentions p.name = true) (missing : p.name ∉ o.dependsOn) :
      Breaks o before all [7, j] (.undeclared o.name p.name)
  | unknownTable {j : Nat} {table : String} (entry : o.baseTables[j]? = some table)
      (unknown : ¬ KnownTable table) : Breaks o before all [8, j] (.unknownTable o.name table)
  | tableNeverRead {j : Nat} {table : String} (entry : o.baseTables[j]? = some table)
      (known : KnownTable table) (unread : o.mentions table = false) :
      Breaks o before all [8, j] (.tableNeverRead o.name table)
  | withoutDirective (none : o.directives = []) :
      Breaks o before all [9] (.withoutDirective o.name)

/-- **How a catalog breaks its rules**: an object of it does. -/
def Catalog.Breaks (c : Catalog) (place : Place) (problem : Problem) : Prop :=
  ∃ i o rest, c.objects[i]? = some o ∧ place = i :: rest ∧
    o.Breaks (c.objects.take i) c.objects rest problem

namespace SchemaObject

variable {o : SchemaObject} {before all : List SchemaObject} {place : Place} {problem : Problem}

/-- A lawful object breaks no rule. -/
theorem Lawful.not_breaks (lawful : o.Lawful before all) : ¬ o.Breaks before all place problem := by
  intro h
  cases h with
  | declaredTwice earlier named => exact lawful.named _ earlier named
  | noUniqueKey materialized key => exact lawful.keyed materialized key
  | singletonKey materialized shape key => exact key (lawful.singleton materialized shape)
  | seriesKey materialized shape day month => exact (lawful.series materialized shape).elim day month
  | secondUniqueIndex materialized statement declares =>
    exact lawful.oneIndex materialized _ statement declares
  | keyWithoutRows other noTable key => exact key (lawful.keyless other noTable)
  | notCreatedBefore entry absent =>
    obtain ⟨⟨p, hp, hname⟩, hother⟩ := lawful.created _ (List.mem_of_getElem? entry)
    exact absent.elim (fun hnone => hnone p hp hname) hother
  | neverRead entry unread =>
    have hread := lawful.read _ (List.mem_of_getElem? entry)
    rw [unread] at hread
    cases hread
  | undeclared entry other mentioned missing =>
    exact missing (lawful.declared _ (List.mem_of_getElem? entry) other mentioned)
  | unknownTable entry unknown => exact unknown (lawful.known _ (List.mem_of_getElem? entry))
  | tableNeverRead entry known unread =>
    have hread := lawful.tableRead _ (List.mem_of_getElem? entry)
    rw [unread] at hread
    cases hread
  | withoutDirective none => exact lawful.commented none

/-- An object that breaks no rule is lawful. -/
theorem lawful_of_not_breaks (h : ∀ place problem, ¬ o.Breaks before all place problem) :
    o.Lawful before all where
  named p earlier named := h _ _ (.declaredTwice earlier named)
  keyed materialized key := h _ _ (.noUniqueKey materialized key)
  singleton materialized shape := by
    by_contra key
    exact h _ _ (.singletonKey materialized shape key)
  series materialized shape := by
    by_contra key
    exact h _ _ (.seriesKey materialized shape (fun day => key (.inl day)) fun month => key (.inr month))
  oneIndex materialized s statement declares :=
    h _ _ (.secondUniqueIndex materialized statement declares)
  keyless other noTable := by
    by_contra key
    exact h _ _ (.keyWithoutRows other noTable key)
  created dependency listed := by
    obtain ⟨j, entry⟩ := List.mem_iff_getElem?.mp listed
    constructor
    · by_contra hnone
      exact h _ _ (.notCreatedBefore entry (.inl fun p hp hname => hnone ⟨p, hp, hname⟩))
    · exact fun hself => h _ _ (.notCreatedBefore entry (.inr hself))
  read dependency listed := by
    obtain ⟨j, entry⟩ := List.mem_iff_getElem?.mp listed
    by_contra unread
    exact h _ _ (.neverRead entry (Bool.eq_false_iff.mpr unread))
  declared p listed other mentioned := by
    obtain ⟨j, entry⟩ := List.mem_iff_getElem?.mp listed
    by_contra missing
    exact h _ _ (.undeclared entry other mentioned missing)
  known table listed := by
    obtain ⟨j, entry⟩ := List.mem_iff_getElem?.mp listed
    by_contra unknown
    exact h _ _ (.unknownTable entry unknown)
  tableRead table listed := by
    obtain ⟨j, entry⟩ := List.mem_iff_getElem?.mp listed
    by_contra unread
    by_cases known : KnownTable table
    · exact h _ _ (.tableNeverRead entry known (Bool.eq_false_iff.mpr unread))
    · exact h _ _ (.unknownTable entry known)
  commented none := h _ _ (.withoutDirective none)

end SchemaObject

/-- **A catalog is lawful when it breaks no rule anywhere.** -/
theorem Catalog.lawful_iff {c : Catalog} :
    c.Lawful ↔ ∀ place problem, ¬ c.Breaks place problem := by
  constructor
  · rintro lawful _ problem ⟨i, o, rest, position, rfl, h⟩
    exact (lawful i o position).not_breaks h
  · intro h i o position
    exact SchemaObject.lawful_of_not_breaks fun rest problem hbreaks =>
      h (i :: rest) problem ⟨i, o, rest, position, rfl, hbreaks⟩

/-! ## Reports -/

/-- **A list of what is broken**: all of it, each place once, in the order of the places. -/
structure Lists (broken : Place → Problem → Prop) (found : List (Place × Problem)) : Prop where
  ordered : found.Pairwise fun f g => f.1.Before g.1
  exact : ∀ place problem, (place, problem) ∈ found ↔ broken place problem

/-- Problems report what is broken when they are those of a list of it. -/
def Reports (broken : Place → Problem → Prop) (problems : List Problem) : Prop :=
  ∃ found, Lists broken found ∧ found.map (·.2) = problems

namespace Reports

variable {broken : Place → Problem → Prop} {problems : List Problem}

protected theorem congr {broken' : Place → Problem → Prop}
    (h : ∀ place problem, broken place problem ↔ broken' place problem)
    (reports : Reports broken problems) : Reports broken' problems := by
  obtain ⟨found, ⟨ordered, exact⟩, hproblems⟩ := reports
  exact ⟨found, ⟨ordered, fun place problem => (exact place problem).trans (h place problem)⟩,
    hproblems⟩

/-- One rule at one place, which a check decides. -/
protected theorem when {rule : Bool} {problem : Problem} {holds : Prop}
    (decides : rule = true ↔ holds)
    (sound : ∀ place p, broken place p → place = [] ∧ p = problem ∧ holds)
    (complete : holds → broken [] problem) : Reports broken (Problem.when rule problem) := by
  cases rule with
  | true =>
    refine ⟨[([], problem)], ⟨List.pairwise_singleton _ _, fun place p => ?_⟩, rfl⟩
    rw [List.mem_singleton, Prod.mk.injEq]
    constructor
    · rintro ⟨rfl, rfl⟩
      exact complete (decides.mp rfl)
    · intro h
      obtain ⟨hplace, hproblem, -⟩ := sound place p h
      exact ⟨hplace, hproblem⟩
  | false =>
    refine ⟨[], ⟨.nil, fun place p => ⟨fun h => absurd h List.not_mem_nil, fun h => ?_⟩⟩, rfl⟩
    exact absurd (decides.mpr (sound place p h).2.2) Bool.false_ne_true

/-- Parts that are numbered from zero, the first number of a place being that of the part. -/
theorem flatten_parts {parts : List (List Problem)}
    (h : ∀ i ps, parts[i]? = some ps → Reports (fun rest p => broken (i :: rest) p) ps) :
    Reports (fun place p => ∃ i rest, i < parts.length ∧ place = i :: rest ∧ broken place p)
      parts.flatten := by
  -- Induction from the back, as a part keeps its number when others follow it.
  induction parts using List.reverseRecOn with
  | nil =>
    refine ⟨[], ⟨.nil, fun place p => ?_⟩, rfl⟩
    simp
  | append_singleton parts last ih =>
    obtain ⟨found, ⟨ordered, exact⟩, hproblems⟩ := ih fun i ps hi => by
      refine h i ps ?_
      rw [List.getElem?_append_left (List.getElem?_eq_some_iff.mp hi).1]
      exact hi
    obtain ⟨found', ⟨ordered', exact'⟩, hproblems'⟩ := h parts.length last List.getElem?_concat_length
    refine ⟨found ++ found'.map fun f => (parts.length :: f.1, f.2), ⟨?ordered, ?exact⟩, ?problems⟩
    case ordered =>
      refine List.pairwise_append.mpr ⟨ordered, ?_, ?_⟩
      · exact ordered'.map _ fun f g hfg => .cons hfg
      · -- what was found in the parts before has a smaller number in front
        rintro ⟨place, p⟩ hf _ hg
        obtain ⟨i, rest, hi, rfl, -⟩ := (exact place p).mp hf
        obtain ⟨g, -, rfl⟩ := List.mem_map.mp hg
        exact .rel hi
    case exact =>
      intro place p
      rw [List.mem_append, exact, List.length_append, List.length_singleton]
      constructor
      · rintro (⟨i, rest, hi, rfl, hp⟩ | hlast)
        · exact ⟨i, rest, by omega, rfl, hp⟩
        · obtain ⟨⟨rest, p'⟩, hrest, heq⟩ := List.mem_map.mp hlast
          cases heq
          exact ⟨parts.length, rest, by omega, rfl, (exact' rest p').mp hrest⟩
      · rintro ⟨i, rest, hi, rfl, hp⟩
        by_cases hlast : i = parts.length
        · subst hlast
          exact .inr (List.mem_map.mpr ⟨(rest, p), (exact' rest p).mpr hp, rfl⟩)
        · exact .inl ⟨i, rest, by omega, rfl, hp⟩
    case problems =>
      rw [List.map_append, hproblems, List.map_map, List.flatten_concat, ← hproblems']
      rfl

/-- **Parts report what is broken** if each reports it with its own number in front. -/
protected theorem flatten {parts : List (List Problem)}
    (numbered : ∀ place p, broken place p → ∃ i rest, i < parts.length ∧ place = i :: rest)
    (h : ∀ i ps, parts[i]? = some ps → Reports (fun rest p => broken (i :: rest) p) ps) :
    Reports broken parts.flatten := by
  refine (flatten_parts h).congr fun place p => ⟨?_, fun hp => ?_⟩
  · rintro ⟨i, rest, -, -, hp⟩
    exact hp
  · obtain ⟨i, rest, hi, hplace⟩ := numbered place p hp
    exact ⟨i, rest, hi, hplace, hp⟩

/-- Two parts. -/
protected theorem append {first second : List Problem}
    (numbered : ∀ place p, broken place p → ∃ i rest, i < 2 ∧ place = i :: rest)
    (hfirst : Reports (fun rest p => broken (0 :: rest) p) first)
    (hsecond : Reports (fun rest p => broken (1 :: rest) p) second) :
    Reports broken (first ++ second) := by
  have hparts : first ++ second = [first, second].flatten := by
    rw [List.flatten_cons, List.flatten_singleton]
  rw [hparts]
  refine Reports.flatten numbered fun i ps hi => ?_
  match i, hi with
  | 0, rfl => exact hfirst
  | 1, rfl => exact hsecond

/-- A rule for each of some entries. -/
protected theorem flatMap {α : Type} {entries : List α} {check : α → List Problem}
    (numbered : ∀ place p, broken place p →
      ∃ j entry rest, entries[j]? = some entry ∧ place = j :: rest)
    (h : ∀ j entry, entries[j]? = some entry →
      Reports (fun rest p => broken (j :: rest) p) (check entry)) :
    Reports broken (entries.flatMap check) := by
  rw [List.flatMap_def]
  refine Reports.flatten (fun place p hp => ?_) fun j ps hj => ?_
  · obtain ⟨j, entry, rest, hentry, hplace⟩ := numbered place p hp
    have hj : j < entries.length := (List.getElem?_eq_some_iff.mp hentry).1
    exact ⟨j, rest, by rwa [List.length_map], hplace⟩
  · rw [List.getElem?_map] at hj
    obtain ⟨entry, hentry, rfl⟩ := Option.map_eq_some_iff.mp hj
    exact h j entry hentry

/-- What is reported is nothing when nothing is broken. -/
theorem eq_nil_iff (reports : Reports broken problems) :
    problems = [] ↔ ∀ place p, ¬ broken place p := by
  obtain ⟨found, ⟨-, exact⟩, rfl⟩ := reports
  rw [List.map_eq_nil_iff, List.eq_nil_iff_forall_not_mem]
  constructor
  · exact fun h place p hp => h (place, p) ((exact place p).mpr hp)
  · exact fun h f hf => h f.1 f.2 ((exact f.1 f.2).mp hf)

end Reports

/-! ## Checks -/

namespace SchemaObject

variable {o : SchemaObject} {before all : List SchemaObject}

/-- The checks of an object, one after the other. -/
def checks (o : SchemaObject) (before all : List SchemaObject) : List (List Problem) :=
  [Problem.when (o.name ∈ before.map (·.name)) (.declaredTwice o.name),
   Problem.when (o.isMaterialized && o.uniqueKey.isEmpty) (.noUniqueKey o.name),
   Problem.when (o.isMaterialized && (o.shape = .singleton && o.uniqueKey ≠ ["id"]))
     (.singletonKey o.name),
   Problem.when
     (o.isMaterialized && (o.shape = .series && o.uniqueKey ≠ ["day"] && o.uniqueKey ≠ ["month"]))
     (.seriesKey o.name),
   Problem.when
     (o.isMaterialized &&
       o.afterCreate.any fun s => Text.contains "UNIQUE INDEX".toList s.toList)
     (.secondUniqueIndex o.name),
   Problem.when (!o.isMaterialized && (!o.uniqueKey.isEmpty && o.kind ≠ .table))
     (.keyWithoutRows o.name),
   o.dependencyProblems (before.map (·.name)),
   o.undeclaredProblems (all.map (·.name)),
   o.baseTableProblems,
   Problem.when o.directives.isEmpty (.withoutDirective o.name)]

theorem problems_eq_checks :
    o.problems (before.map (·.name)) (all.map (·.name)) = (o.checks before all).flatten := by
  -- The checks ask in each rule what the program asks once: whether the object is materialized.
  have hfalse (problem : Problem) : Problem.when false problem = [] := rfl
  unfold problems keyProblems checks
  cases o.isMaterialized <;> simp [hfalse]

theorem isMaterialized_iff : o.isMaterialized = true ↔ o.kind = .materializedView := by
  rw [isMaterialized, decide_eq_true_iff]

theorem reports_name :
    Reports (fun rest p => o.Breaks before all (0 :: rest) p)
      (Problem.when (o.name ∈ before.map (·.name)) (.declaredTwice o.name)) := by
  have hrule : decide (o.name ∈ before.map (·.name)) = true ↔ ∃ p ∈ before, p.name = o.name := by
    rw [decide_eq_true_iff, List.mem_map]
  refine Reports.when hrule ?_ fun ⟨p, earlier, named⟩ => .declaredTwice earlier named
  intro place p h
  cases h with
  | declaredTwice earlier named => exact ⟨rfl, rfl, _, earlier, named⟩

theorem reports_key :
    Reports (fun rest p => o.Breaks before all (1 :: rest) p)
      (Problem.when (o.isMaterialized && o.uniqueKey.isEmpty) (.noUniqueKey o.name)) := by
  have hrule : (o.isMaterialized && o.uniqueKey.isEmpty) = true ↔
      o.kind = .materializedView ∧ o.uniqueKey = [] := by
    simp [isMaterialized_iff]
  refine Reports.when hrule ?_ fun ⟨materialized, key⟩ => .noUniqueKey materialized key
  intro place p h
  cases h with
  | noUniqueKey materialized key => exact ⟨rfl, rfl, materialized, key⟩

theorem reports_singleton :
    Reports (fun rest p => o.Breaks before all (2 :: rest) p)
      (Problem.when (o.isMaterialized && (o.shape = .singleton && o.uniqueKey ≠ ["id"]))
        (.singletonKey o.name)) := by
  have hrule : (o.isMaterialized && (o.shape = .singleton && o.uniqueKey ≠ ["id"])) = true ↔
      o.kind = .materializedView ∧ o.shape = .singleton ∧ o.uniqueKey ≠ ["id"] := by
    simp [isMaterialized_iff]
  refine Reports.when hrule ?_ fun ⟨materialized, shape, key⟩ =>
    .singletonKey materialized shape key
  intro place p h
  cases h with
  | singletonKey materialized shape key => exact ⟨rfl, rfl, materialized, shape, key⟩

theorem reports_series :
    Reports (fun rest p => o.Breaks before all (3 :: rest) p)
      (Problem.when
        (o.isMaterialized && (o.shape = .series && o.uniqueKey ≠ ["day"] && o.uniqueKey ≠ ["month"]))
        (.seriesKey o.name)) := by
  have hrule : (o.isMaterialized &&
        (o.shape = .series && o.uniqueKey ≠ ["day"] && o.uniqueKey ≠ ["month"])) = true ↔
      o.kind = .materializedView ∧ (o.shape = .series ∧ o.uniqueKey ≠ ["day"]) ∧
        o.uniqueKey ≠ ["month"] := by
    simp [isMaterialized_iff]
  refine Reports.when hrule ?_ fun ⟨materialized, ⟨shape, day⟩, month⟩ =>
    .seriesKey materialized shape day month
  intro place p h
  cases h with
  | seriesKey materialized shape day month =>
    exact ⟨rfl, rfl, materialized, ⟨shape, day⟩, month⟩

theorem reports_indexes :
    Reports (fun rest p => o.Breaks before all (4 :: rest) p)
      (Problem.when
        (o.isMaterialized &&
          o.afterCreate.any fun s => Text.contains "UNIQUE INDEX".toList s.toList)
        (.secondUniqueIndex o.name)) := by
  have hrule : (o.isMaterialized &&
        o.afterCreate.any fun s => Text.contains "UNIQUE INDEX".toList s.toList) = true ↔
      o.kind = .materializedView ∧
        ∃ s ∈ o.afterCreate, "UNIQUE INDEX".toList <:+: s.toList := by
    rw [Bool.and_eq_true, isMaterialized_iff, List.any_eq_true]
    simp only [Text.contains_iff_infix]
  refine Reports.when hrule ?_ fun ⟨materialized, s, statement, declares⟩ =>
    .secondUniqueIndex materialized statement declares
  intro place p h
  cases h with
  | secondUniqueIndex materialized statement declares =>
    exact ⟨rfl, rfl, materialized, _, statement, declares⟩

theorem reports_otherKey :
    Reports (fun rest p => o.Breaks before all (5 :: rest) p)
      (Problem.when (!o.isMaterialized && (!o.uniqueKey.isEmpty && o.kind ≠ .table))
        (.keyWithoutRows o.name)) := by
  have hrule : (!o.isMaterialized && (!o.uniqueKey.isEmpty && o.kind ≠ .table)) = true ↔
      o.kind ≠ .materializedView ∧ o.uniqueKey ≠ [] ∧ o.kind ≠ .table := by
    simp [isMaterialized]
  refine Reports.when hrule ?_ fun ⟨other, key, noTable⟩ => .keyWithoutRows other noTable key
  intro place p h
  cases h with
  | keyWithoutRows other noTable key => exact ⟨rfl, rfl, other, key, noTable⟩

/-- The rules of the dependencies, two for each. -/
theorem reports_dependencies :
    Reports (fun rest p => o.Breaks before all (6 :: rest) p)
      (o.dependencyProblems (before.map (·.name))) := by
  apply Reports.flatMap
  · rintro place p (_ | _)
    · exact ⟨_, _, _, ‹_›, rfl⟩
    · exact ⟨_, _, _, ‹_›, rfl⟩
  intro j dependency entry
  apply Reports.append
  · rintro place p (_ | _)
    · exact ⟨0, _, by decide, rfl⟩
    · exact ⟨1, _, by decide, rfl⟩
  · have hrule : (dependency ∉ before.map (·.name) || dependency = o.name) = true ↔
        (∀ p ∈ before, p.name ≠ dependency) ∨ dependency = o.name := by
      simp
    refine Reports.when hrule ?_ (.notCreatedBefore entry)
    intro place p h
    cases h with
    | notCreatedBefore entry' absent =>
      cases entry.symm.trans entry'
      exact ⟨rfl, rfl, absent⟩
  · refine Reports.when (Bool.not_eq_true' _).to_iff ?_ (.neverRead entry)
    intro place p h
    cases h with
    | neverRead entry' unread =>
      cases entry.symm.trans entry'
      exact ⟨rfl, rfl, unread⟩

/-- The rule that what is read is declared, for each object. -/
theorem reports_readings :
    Reports (fun rest p => o.Breaks before all (7 :: rest) p)
      (o.undeclaredProblems (all.map (·.name))) := by
  unfold undeclaredProblems
  rw [List.flatMap_map]
  apply Reports.flatMap
  · rintro place p ⟨⟩
    exact ⟨_, _, _, ‹_›, rfl⟩
  intro j other entry
  have hrule : (other.name ≠ o.name && o.mentions other.name && other.name ∉ o.dependsOn) = true ↔
      (other.name ≠ o.name ∧ o.mentions other.name = true) ∧ other.name ∉ o.dependsOn := by
    simp
  refine Reports.when hrule ?_ fun ⟨⟨ne, mentioned⟩, missing⟩ =>
    .undeclared entry ne mentioned missing
  intro place p h
  cases h with
  | undeclared entry' ne mentioned missing =>
    cases entry.symm.trans entry'
    exact ⟨rfl, rfl, ⟨ne, mentioned⟩, missing⟩

/-- The rules of the base tables, of which one at most is broken for each. -/
theorem reports_tables :
    Reports (fun rest p => o.Breaks before all (8 :: rest) p) o.baseTableProblems := by
  apply Reports.flatMap
  · rintro place p (_ | _)
    · exact ⟨_, _, _, ‹_›, rfl⟩
    · exact ⟨_, _, _, ‹_›, rfl⟩
  intro j table entry
  by_cases known : KnownTable table
  · rw [if_pos (isBaseTable_iff.mpr known)]
    refine Reports.when (Bool.not_eq_true' _).to_iff ?_ (.tableNeverRead entry known)
    intro place p h
    cases h with
    | unknownTable entry' unknown =>
      cases entry.symm.trans entry'
      exact absurd known unknown
    | tableNeverRead entry' _ unread =>
      cases entry.symm.trans entry'
      exact ⟨rfl, rfl, unread⟩
  · have hwhen : [Problem.unknownTable o.name table] =
        Problem.when true (.unknownTable o.name table) := rfl
    rw [if_neg (mt isBaseTable_iff.mp known), hwhen]
    refine Reports.when (iff_of_true rfl known) ?_ (.unknownTable entry)
    intro place p h
    cases h with
    | unknownTable entry' _ =>
      cases entry.symm.trans entry'
      exact ⟨rfl, rfl, known⟩
    | tableNeverRead entry' known' _ =>
      cases entry.symm.trans entry'
      exact absurd known' known

theorem reports_directives :
    Reports (fun rest p => o.Breaks before all (9 :: rest) p)
      (Problem.when o.directives.isEmpty (.withoutDirective o.name)) := by
  refine Reports.when List.isEmpty_iff ?_ .withoutDirective
  intro place p h
  cases h with
  | withoutDirective none => exact ⟨rfl, rfl, none⟩

/-- The places of an object are numbered by its checks. -/
theorem Breaks.numbered {place : Place} {p : Problem} (h : o.Breaks before all place p) :
    ∃ i rest, i < (o.checks before all).length ∧ place = i :: rest := by
  have hlength : (o.checks before all).length = 10 := rfl
  rw [hlength]
  cases h <;> exact ⟨_, _, by decide, rfl⟩

/-- **The checks of an object report how it breaks its rules.** -/
theorem reports_problems :
    Reports (o.Breaks before all) (o.problems (before.map (·.name)) (all.map (·.name))) := by
  rw [problems_eq_checks]
  refine Reports.flatten (fun place p h => h.numbered) fun i ps hi => ?_
  match i, hi with
  | 0, rfl => exact reports_name
  | 1, rfl => exact reports_key
  | 2, rfl => exact reports_singleton
  | 3, rfl => exact reports_series
  | 4, rfl => exact reports_indexes
  | 5, rfl => exact reports_otherKey
  | 6, rfl => exact reports_dependencies
  | 7, rfl => exact reports_readings
  | 8, rfl => exact reports_tables
  | 9, rfl => exact reports_directives

end SchemaObject

namespace Catalog

variable {c : Catalog}

/-- The problems of a catalog are those of its objects, each at its position. -/
theorem problemsAfter_eq (everyName : List String) (before objects : List SchemaObject) :
    problemsAfter everyName (before.map (·.name)) objects =
      (objects.mapIdx fun i o =>
        o.problems ((before ++ objects.take i).map (·.name)) everyName).flatten := by
  induction objects generalizing before with
  | nil => rfl
  | cons o rest ih =>
    have hrest := ih (before ++ [o])
    rw [List.map_append, List.map_singleton] at hrest
    rw [problemsAfter, hrest, List.mapIdx_cons, List.flatten_cons, List.take_zero, List.append_nil]
    simp only [List.take_succ_cons, List.append_assoc, List.singleton_append]

/-- **The problems of a catalog report how it breaks its rules.** -/
theorem reports_problems (c : Catalog) : Reports c.Breaks c.problems := by
  have hproblems : c.problems = (c.objects.mapIdx fun i o =>
      o.problems ((c.objects.take i).map (·.name)) c.names).flatten :=
    problemsAfter_eq c.names [] c.objects
  rw [hproblems]
  refine Reports.flatten ?_ fun i ps hi => ?_
  · rintro place p ⟨i, o, rest, position, rfl, -⟩
    refine ⟨i, rest, ?_, rfl⟩
    rw [List.length_mapIdx]
    exact (List.getElem?_eq_some_iff.mp position).1
  · rw [List.getElem?_mapIdx] at hi
    obtain ⟨o, position, rfl⟩ := Option.map_eq_some_iff.mp hi
    refine SchemaObject.reports_problems.congr fun rest p => ⟨fun h => ?_, ?_⟩
    · exact ⟨i, o, rest, position, rfl, h⟩
    · rintro ⟨i', o', rest', position', hplace, h⟩
      cases hplace
      cases position.symm.trans position'
      exact h

/-! ## Verdict -/

/-- A catalog is accepted when it has no problems. -/
theorem validate_eq_ok_iff_problems : c.validate = .ok () ↔ c.problems = [] := by
  unfold validate
  split
  · next h => exact ⟨fun _ => h, fun _ => rfl⟩
  · next h => exact ⟨fun ok => (by cases ok), fun hnil => absurd hnil h⟩

/-- **A catalog is accepted when it is lawful.** -/
theorem validate_eq_ok_iff : c.validate = .ok () ↔ c.Lawful := by
  rw [validate_eq_ok_iff_problems, c.reports_problems.eq_nil_iff, lawful_iff]

/-- A catalog that is not accepted is refused with all its problems. -/
theorem validate_of_problems (h : c.problems ≠ []) :
    c.validate = .error (.catalog ("; ".intercalate (c.problems.map Problem.message))) := by
  unfold validate
  split
  · next hnil => exact absurd hnil h
  · rfl

/-- **The verdict on a catalog is exact.** It is accepted if and only if it is lawful; if it is not, it is
    refused with the messages of the problems, one for each place where a rule is broken, in the order of
    the places. -/
theorem validate_lists (c : Catalog) :
    (c.validate = .ok () ↔ c.Lawful) ∧
      (¬ c.Lawful → ∃ found, Lists c.Breaks found ∧
        c.validate = .error (.catalog ("; ".intercalate (found.map (·.2.message))))) := by
  refine ⟨validate_eq_ok_iff, fun unlawful => ?_⟩
  obtain ⟨found, hlists, hproblems⟩ := c.reports_problems
  refine ⟨found, hlists, ?_⟩
  have hsome : c.problems ≠ [] := fun hnil =>
    unlawful (validate_eq_ok_iff.mp (validate_eq_ok_iff_problems.mpr hnil))
  rw [validate_of_problems hsome, ← hproblems, List.map_map]
  rfl

/-- A view that depends on itself breaks two rules there, and one more as it has no comment. -/
example : (⟨[{ SchemaObject.view "own" .keyed with dependsOn := ["own"] }]⟩ : Catalog).validate =
    .error (.catalog ("own depends on own which is not created before it; "
      ++ "own declares own but never reads it; own has no schema annotation")) := by rfl

end Catalog

end StatSchema
