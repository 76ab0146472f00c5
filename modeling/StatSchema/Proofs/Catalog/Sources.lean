import Mathlib.Data.List.Nodup
import StatSchema.Catalog.Sources

/-!
# `StatSchema.Proofs.Catalog.Sources` — what an object reaches

An object reaches the materialized views to which a path of declared dependencies leads that goes through
plain views only. To follow all paths no object is needed twice: a path that comes back to an object can
be cut there. So what the names on a stack lead to can be worked out one name after the other, and the
objects of the names that have been visited can be left out of account.

## Contents
- **Paths.** `Catalog.Leads`, `Catalog.Reaches`; `Path`, `reaches_iff_path`; `Leads.remove`.
- **Names.** `eq_of_name`, `latestOf?_of_mem`.
- **Stacks.** `Found`, `found_cons`.
-/

namespace StatSchema.Catalog

/-! ## Paths -/

/-- A name leads to a materialized view: it is its name, or that of a plain view with a dependency that
    leads there. All of these are among `objects`. -/
inductive Leads (objects : List SchemaObject) : String → SchemaObject → Prop where
  | here {w : SchemaObject} (member : w ∈ objects) (materialized : w.kind = .materializedView) :
      Leads objects w.name w
  | through {p w : SchemaObject} {name : String} (member : p ∈ objects) (plain : p.kind = .view)
      (declared : name ∈ p.dependsOn) (rest : Leads objects name w) : Leads objects p.name w

/-- An object reaches a materialized view through its dependencies, looking through plain views. -/
def Reaches (c : Catalog) (o w : SchemaObject) : Prop :=
  ∃ name ∈ o.dependsOn, Leads c.objects name w

namespace Leads

variable {objects objects' : List SchemaObject} {name : String} {o w : SchemaObject}

theorem mem (h : Leads objects name w) : w ∈ objects ∧ w.kind = .materializedView := by
  induction h with
  | here member materialized => exact ⟨member, materialized⟩
  | through _ _ _ _ ih => exact ih

theorem mono (h : Leads objects name w) (sub : ∀ o ∈ objects, o ∈ objects') :
    Leads objects' name w := by
  induction h with
  | here member materialized => exact .here (sub _ member) materialized
  | through member plain declared _ ih => exact .through (sub _ member) plain declared ih

/-- The name that leads somewhere is that of an object. -/
theorem exists_object (h : Leads objects name w) : ∃ o ∈ objects, o.name = name := by
  cases h with
  | here member _ => exact ⟨w, member, rfl⟩
  | through member _ _ _ => exact ⟨_, member, rfl⟩

theorem mem_without {o : SchemaObject} {name : String} :
    o ∈ without objects name ↔ o ∈ objects ∧ o.name ≠ name := by
  rw [without, List.mem_filter, decide_eq_true_iff]

/-- A path through a name goes on from there without coming back: what leads to a view still does when
    the objects of one name are removed, or it is such a view, or a plain view of that name has a
    dependency that still leads there. -/
theorem remove (h : Leads objects name w) (removed : String) :
    Leads (without objects removed) name w ∨ w.name = removed ∨
      ∃ p ∈ objects, p.name = removed ∧ p.kind = .view ∧
        ∃ next ∈ p.dependsOn, Leads (without objects removed) next w := by
  induction h with
  | @here w member materialized =>
    by_cases hname : w.name = removed
    · exact .inr (.inl hname)
    · exact .inl (.here (mem_without.mpr ⟨member, hname⟩) materialized)
  | @through p w name member plain declared rest ih =>
    rcases ih with hrest | hname | hp
    · by_cases hname : p.name = removed
      · exact .inr (.inr ⟨p, member, hname, plain, name, declared, hrest⟩)
      · exact .inl (.through (mem_without.mpr ⟨member, hname⟩) plain declared hrest)
    · exact .inr (.inl hname)
    · exact .inr (.inr hp)

theorem of_without (h : Leads (without objects o.name) name w) : Leads objects name w :=
  h.mono fun _ ho => (mem_without.mp ho).1

end Leads

theorem Reaches.mem {c : Catalog} {o w : SchemaObject} (h : c.Reaches o w) : w ∈ c.materializedViews := by
  obtain ⟨name, -, hleads⟩ := h
  exact List.mem_filter.mpr ⟨hleads.mem.1, decide_eq_true hleads.mem.2⟩

/-- A path of declared dependencies from an object to a materialized view, with only plain views
    `between`. -/
structure Path (c : Catalog) (o : SchemaObject) (between : List SchemaObject) (w : SchemaObject) :
    Prop where
  linked : (o :: (between ++ [w])).IsChain fun p q => q.name ∈ p.dependsOn
  plain : ∀ p ∈ between, p ∈ c.objects ∧ p.kind = .view
  target : w ∈ c.objects ∧ w.kind = .materializedView

theorem path_nil {c : Catalog} {o w : SchemaObject} :
    c.Path o [] w ↔ w.name ∈ o.dependsOn ∧ w ∈ c.objects ∧ w.kind = .materializedView := by
  constructor
  · intro h
    exact ⟨by simpa using h.linked, h.target⟩
  · rintro ⟨declared, target⟩
    exact ⟨by simpa using declared, fun p hp => absurd hp List.not_mem_nil, target⟩

theorem path_cons {c : Catalog} {o p w : SchemaObject} {between : List SchemaObject} :
    c.Path o (p :: between) w ↔
      p.name ∈ o.dependsOn ∧ p ∈ c.objects ∧ p.kind = .view ∧ c.Path p between w := by
  constructor
  · intro h
    obtain ⟨declared, linked⟩ := List.isChain_cons_cons.mp h.linked
    obtain ⟨⟨member, plain⟩, rest⟩ := List.forall_mem_cons.mp h.plain
    exact ⟨declared, member, plain, linked, rest, h.target⟩
  · rintro ⟨declared, member, plain, h⟩
    exact ⟨List.isChain_cons_cons.mpr ⟨declared, h.linked⟩,
      List.forall_mem_cons.mpr ⟨⟨member, plain⟩, h.plain⟩, h.target⟩

/-- An object reaches the materialized views to which a path leads. -/
theorem reaches_iff_path {c : Catalog} {o w : SchemaObject} :
    c.Reaches o w ↔ ∃ between, c.Path o between w := by
  constructor
  · rintro ⟨name, declared, hleads⟩
    induction hleads generalizing o with
    | here member materialized => exact ⟨[], path_nil.mpr ⟨declared, member, materialized⟩⟩
    | @through p w next member plain inner _ ih =>
      obtain ⟨between, hpath⟩ := ih inner
      exact ⟨p :: between, path_cons.mpr ⟨declared, member, plain, hpath⟩⟩
  · rintro ⟨between, hpath⟩
    induction between generalizing o with
    | nil =>
      obtain ⟨declared, member, materialized⟩ := path_nil.mp hpath
      exact ⟨w.name, declared, .here member materialized⟩
    | cons p between ih =>
      obtain ⟨declared, member, plain, hrest⟩ := path_cons.mp hpath
      obtain ⟨name, inner, hleads⟩ := ih hrest
      exact ⟨p.name, declared, .through member plain inner hleads⟩

/-! ## Names -/

variable {objects : List SchemaObject} {o : SchemaObject} {name : String}

theorem eq_of_name (distinct : (objects.map (·.name)).Nodup) {o p : SchemaObject} (ho : o ∈ objects)
    (hp : p ∈ objects) (h : o.name = p.name) : o = p :=
  List.inj_on_of_nodup_map distinct ho hp h

theorem latestOf?_eq_none_iff : latestOf? objects name = none ↔ ∀ o ∈ objects, o.name ≠ name := by
  simp [latestOf?]

theorem latestOf?_of_mem (distinct : (objects.map (·.name)).Nodup) (ho : o ∈ objects) :
    latestOf? objects o.name = some o := by
  cases h : latestOf? objects o.name with
  | none => exact absurd rfl (latestOf?_eq_none_iff.mp h o ho)
  | some p =>
    obtain ⟨hp, hname⟩ := mem_of_latestOf? h
    rw [eq_of_name distinct hp ho hname]

/-! ## Stacks -/

/-- What a stack of names leads to. -/
def Found (objects : List SchemaObject) (stack : List String) (source : String) : Prop :=
  ∃ name ∈ stack, ∃ w, Leads objects name w ∧ w.name = source

theorem found_cons_of_absent {stack : List String} {source : String}
    (absent : latestOf? objects name = none) :
    Found objects (name :: stack) source ↔ Found objects stack source := by
  constructor
  · rintro ⟨n, hn, w, hleads, hw⟩
    rcases List.mem_cons.mp hn with rfl | hn
    · obtain ⟨o, ho, hname⟩ := hleads.exists_object
      exact absurd hname (latestOf?_eq_none_iff.mp absent o ho)
    · exact ⟨n, hn, w, hleads, hw⟩
  · rintro ⟨n, hn, found⟩
    exact ⟨n, List.mem_cons_of_mem name hn, found⟩

/-- **One step of the search.** What the name of an object and the rest of the stack lead to is the
    object, if it is materialized, what its dependencies lead to, if it is a plain view, and what the
    rest leads to; in all of this the object itself is not needed again. -/
theorem found_cons (distinct : (objects.map (·.name)).Nodup) (ho : o ∈ objects) {stack : List String}
    {source : String} :
    Found objects (o.name :: stack) source ↔
      (o.kind = .materializedView ∧ source = o.name) ∨
        (o.kind = .view ∧ Found (without objects o.name) o.dependsOn source) ∨
          Found (without objects o.name) stack source := by
  constructor
  · rintro ⟨n, hn, w, hleads, rfl⟩
    -- The path avoids the object, ends at it, or can be cut so that it starts with a dependency of it.
    rcases hleads.remove o.name with hrest | hname | ⟨p, hp, hname, plain, next, hnext, hrest⟩
    · rcases List.mem_cons.mp hn with rfl | hn
      · obtain ⟨p, hp, hname⟩ := hrest.exists_object
        exact absurd hname (Leads.mem_without.mp hp).2
      · exact .inr (.inr ⟨n, hn, w, hrest, rfl⟩)
    · obtain rfl := eq_of_name distinct hleads.mem.1 ho hname
      exact .inl ⟨hleads.mem.2, rfl⟩
    · obtain rfl := eq_of_name distinct hp ho hname
      exact .inr (.inl ⟨plain, next, hnext, w, hrest, rfl⟩)
  · rintro (⟨materialized, rfl⟩ | ⟨plain, n, hn, w, hleads, rfl⟩ | ⟨n, hn, w, hleads, rfl⟩)
    · exact ⟨o.name, List.mem_cons_self, o, .here ho materialized, rfl⟩
    · exact ⟨o.name, List.mem_cons_self, w, .through ho plain hn hleads.of_without, rfl⟩
    · exact ⟨n, List.mem_cons_of_mem _ hn, w, hleads.of_without, rfl⟩

theorem found_nil (source : String) : ¬ Found objects [] source := by
  rintro ⟨name, hname, -⟩
  exact List.not_mem_nil hname

theorem found_append {names stack : List String} {source : String} :
    Found objects (names ++ stack) source ↔
      Found objects names source ∨ Found objects stack source := by
  simp only [Found, List.mem_append, or_and_right, exists_or]

theorem found_perm {stack stack' : List String} {source : String} (h : stack.Perm stack') :
    Found objects stack source ↔ Found objects stack' source := by
  simp only [Found, h.mem_iff]

end StatSchema.Catalog
