import Mathlib.Data.List.Nodup
import StatSchema.Proofs.Catalog.Violations

/-!
# `StatSchema.Proofs.Catalog.Rules` — what an accepted catalog promises

An accepted catalog keeps each rule at each position. Here are the rules that order its objects: names
are distinct, dependencies point backwards, and whatever an object mentions it declares. They do not
depend on what comes after, so the first objects of an accepted catalog are one themselves.

## Contents
- **Order.** `Catalog.Orderly`, `Catalog.orderly_of_validate`.
- **Beginnings.** `Catalog.validate_take`, `Catalog.Orderly.not_mentions`.
-/

namespace StatSchema

/-- With fewer objects around it an object keeps its rules. -/
theorem SchemaObject.Lawful.mono {o : SchemaObject} {before all all' : List SchemaObject}
    (lawful : o.Lawful before all) (sub : ∀ p ∈ all', p ∈ all) : o.Lawful before all' :=
  { lawful with declared := fun p hp => lawful.declared p (sub p hp) }

namespace Catalog

variable {c : Catalog}

/-! ## Order -/

/-- The objects of a catalog are ordered by what they read. -/
structure Orderly (c : Catalog) : Prop where
  distinct : c.names.Nodup
  /-- A dependency is the name of an object before. -/
  backward : ∀ before o after, c.objects = before ++ o :: after →
    ∀ dependency ∈ o.dependsOn, dependency ∈ before.map (·.name)
  /-- What an object mentions it depends on. -/
  declared : ∀ o ∈ c.objects, ∀ other ∈ c.objects, other.name ≠ o.name → o.mentions other.name →
    other.name ∈ o.dependsOn

/-- A lawful catalog has lawful objects. -/
theorem Lawful.object {before after : List SchemaObject} {o : SchemaObject} (lawful : c.Lawful)
    (position : c.objects = before ++ o :: after) : o.Lawful before c.objects := by
  have h : o.Lawful (c.objects.take before.length) c.objects := by
    apply lawful
    rw [position, List.getElem?_append_right (Nat.le_refl _), Nat.sub_self]
    rfl
  rwa [position, List.take_left, ← position] at h

/-- **An accepted catalog is orderly.** -/
theorem orderly_of_validate (valid : c.validate = .ok ()) : c.Orderly := by
  have lawful : c.Lawful := validate_eq_ok_iff.mp valid
  refine ⟨?distinct, ?backward, ?declared⟩
  case distinct =>
    rw [names, List.Nodup, List.pairwise_map, List.pairwise_iff_getElem]
    intro i j hi hj hij
    have hmem : c.objects[i] ∈ c.objects.take j := List.mem_take_iff_getElem.mpr ⟨i, by omega, rfl⟩
    exact (lawful j c.objects[j] (List.getElem?_eq_getElem hj)).named _ hmem
  case backward =>
    intro before o after position dependency declared
    obtain ⟨⟨p, hp, hname⟩, -⟩ := (lawful.object position).created dependency declared
    exact hname ▸ List.mem_map_of_mem hp
  case declared =>
    intro o ho other hother ne mentioned
    obtain ⟨before, after, position⟩ := List.append_of_mem ho
    exact (lawful.object position).declared other hother ne mentioned

/-! ## Beginnings -/

/-- The first objects of a lawful catalog are a lawful catalog. -/
theorem Lawful.take (lawful : c.Lawful) (k : Nat) : Lawful ⟨c.objects.take k⟩ := by
  intro i o position
  rw [List.getElem?_take] at position
  split at position
  · next hi =>
    have hbefore : (c.objects.take k).take i = c.objects.take i := by
      rw [List.take_take, Nat.min_eq_left (Nat.le_of_lt hi)]
    rw [hbefore]
    exact (lawful i o position).mono fun p hp => List.mem_of_mem_take hp
  · cases position

/-- **The first objects of an accepted catalog are accepted.** -/
theorem validate_take (valid : c.validate = .ok ()) (k : Nat) :
    (⟨c.objects.take k⟩ : Catalog).validate = .ok () :=
  validate_eq_ok_iff.mpr ((validate_eq_ok_iff.mp valid).take k)

/-- **The first objects mention none of the others.** What they mention they declare, what they declare
    comes before them, and names are distinct. -/
theorem Orderly.not_mentions (orderly : c.Orderly) {before after : List SchemaObject}
    (split : c.objects = before ++ after) {o p : SchemaObject} (ho : o ∈ before) (hp : p ∈ after) :
    o.mentions p.name = false := by
  have hdistinct : (before.map (·.name) ++ after.map (·.name)).Nodup := by
    rw [← List.map_append, ← split]
    exact orderly.distinct
  have hfirst {name : String} (hname : name ∈ before.map (·.name)) : p.name ≠ name :=
    fun heq => (List.nodup_append.mp hdistinct).2.2 name hname p.name (List.mem_map_of_mem hp) heq.symm
  by_contra mentioned
  have hdeclared : p.name ∈ o.dependsOn := by
    apply orderly.declared o _ p _ (hfirst (List.mem_map_of_mem ho))
    · exact Bool.not_eq_false _ ▸ mentioned
    · exact split ▸ List.mem_append_left after ho
    · exact split ▸ List.mem_append_right before hp
  obtain ⟨left, right, rfl⟩ := List.append_of_mem ho
  rw [List.append_assoc, List.cons_append] at split
  have hbefore : p.name ∈ left.map (·.name) := orderly.backward left o _ split p.name hdeclared
  refine hfirst ?_ rfl
  rw [List.map_append]
  exact List.mem_append_left _ hbefore

end Catalog

end StatSchema
