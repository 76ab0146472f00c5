import StatSchema.Proofs.Block.Atomicity
import StatSchema.Proofs.Catalog.Opening

/-!
# `StatSchema.Proofs.Migration.Schema` — which objects are installed

The objects that a database holds are what the statements kept by the server have made of them: the
statements of an object add it, its `DROP` removes it (`Installs`). Statements do this in one way at
most, since they tell the objects apart. On this reading a run takes the schema from one list of objects
to another (`Evolves`), and does so without ever adding what is there or removing what is not, also
within a transaction that is rolled back later.

## Contents
- **Installing.** `Installs`, `Installs.unique`.
- **Runs.** `Extends`, `Evolves` and its laws, `runStatements_evolves`.
-/

namespace StatSchema

/-! ## Installing -/

/-- **Statements take the installed objects from one list to another.** An object of `objects` is created
    when it is absent and dropped when it is held; settings change nothing. -/
inductive Installs (objects : List SchemaObject) :
    List SchemaObject → List String → List SchemaObject → Prop where
  | done (present : List SchemaObject) : Installs objects present [] present
  | setting {present after : List SchemaObject} {statements : List String} (millis : Nat)
      (rest : Installs objects present statements after) :
      Installs objects present (setTimeout millis :: statements) after
  | create {present after : List SchemaObject} {statements : List String} {o : SchemaObject}
      (known : o ∈ objects) (absent : o ∉ present)
      (rest : Installs objects (present ++ [o]) statements after) :
      Installs objects present (o.createStatements ++ statements) after
  | drop {present after : List SchemaObject} {statements : List String} {o : SchemaObject}
      (known : o ∈ objects) (held : o ∈ present)
      (rest : Installs objects (present.erase o) statements after) :
      Installs objects present (o.dropStatement :: statements) after

namespace Installs

variable {objects present middle after after' : List SchemaObject} {xs ys : List String}
  {o : SchemaObject}

protected theorem append (h : Installs objects present xs middle)
    (h' : Installs objects middle ys after) : Installs objects present (xs ++ ys) after := by
  induction h with
  | done => exact h'
  | setting millis _ ih => exact .setting millis (ih h')
  | create known absent _ ih =>
    rw [List.append_assoc]
    exact .create known absent (ih h')
  | drop known held _ ih => exact .drop known held (ih h')

/-- The letter with which the first of the statements begins. -/
def leading (statements : List String) : Option Char :=
  statements.head?.bind (·.toList.head?)

theorem leading_setTimeout (millis : Nat) (xs : List String) :
    leading (setTimeout millis :: xs) = some 'S' := by
  have hword : "SET LOCAL statement_timeout = ".toList.head? = some 'S' := by decide
  show ("SET LOCAL statement_timeout = " ++ toString millis).toList.head? = some 'S'
  rw [String.toList_append, List.head?_append, hword]
  rfl

theorem leading_drop (o : SchemaObject) (xs : List String) :
    leading (o.dropStatement :: xs) = some 'D' := by
  show o.dropStatement.toList.head? = some 'D'
  rw [SchemaObject.dropStatement, String.append_assoc, String.append_assoc, String.toList_append,
    List.head?_append]
  rfl

theorem leading_create (opens : o.Opens) (xs : List String) :
    leading (o.createStatements ++ xs) = some 'C' := by
  obtain ⟨head, rest, tail, hcreate, hhead⟩ := opens
  rw [hcreate]
  show head.toList.head? = some 'C'
  rw [hhead, List.head?_append]
  cases o.kind <;> rfl

/-- No statements change nothing. -/
theorem of_nil (legible : Legible objects) (h : Installs objects present [] after) :
    after = present := by
  generalize hys : ([] : List String) = ys at h
  have hleading : leading ys = none := hys ▸ rfl
  cases h with
  | done => rfl
  | setting => cases hys
  | create known =>
    rw [leading_create (legible.opens _ known)] at hleading
    cases hleading
  | drop => cases hys

/-- Statements that begin with a setting go on as they would without it. -/
theorem of_setting (legible : Legible objects) {millis : Nat}
    (h : Installs objects present (setTimeout millis :: xs) after) :
    Installs objects present xs after := by
  generalize hys : setTimeout millis :: xs = ys at h
  -- A setting begins with S, the creation of an object with C, its removal with D.
  have hleading := leading_setTimeout millis xs
  rw [hys] at hleading
  cases h with
  | done => cases hys
  | setting _ rest => exact (List.cons.inj hys).2 ▸ rest
  | create known =>
    rw [leading_create (legible.opens _ known)] at hleading
    cases hleading
  | drop =>
    rw [leading_drop] at hleading
    cases hleading

/-- Statements that begin with those of an object create it. -/
theorem of_create (legible : Legible objects) (known : o ∈ objects)
    (h : Installs objects present (o.createStatements ++ xs) after) :
    Installs objects (present ++ [o]) xs after := by
  generalize hys : o.createStatements ++ xs = ys at h
  have hleading := leading_create (legible.opens o known) xs
  rw [hys] at hleading
  cases h with
  | done => cases hleading
  | setting =>
    rw [leading_setTimeout] at hleading
    cases hleading
  | create known' _ rest =>
    obtain rfl := legible.eq_of_create known known' hys
    rw [List.append_cancel_left hys]
    exact rest
  | drop =>
    rw [leading_drop] at hleading
    cases hleading

/-- Statements that begin with the removal of an object drop it. -/
theorem of_drop (legible : Legible objects) (known : o ∈ objects)
    (h : Installs objects present (o.dropStatement :: xs) after) :
    Installs objects (present.erase o) xs after := by
  generalize hys : o.dropStatement :: xs = ys at h
  have hleading := leading_drop o xs
  rw [hys] at hleading
  cases h with
  | done => cases hys
  | setting =>
    rw [leading_setTimeout] at hleading
    cases hleading
  | create known' =>
    rw [leading_create (legible.opens _ known')] at hleading
    cases hleading
  | drop known' _ rest =>
    obtain ⟨hdrop, hrest⟩ := List.cons.inj hys
    obtain rfl := legible.eq_of_drop known known' hdrop
    exact hrest ▸ rest

/-- **Statements lead to one list of objects at most.** -/
theorem unique (legible : Legible objects) (h : Installs objects present xs after)
    (h' : Installs objects present xs after') : after' = after := by
  induction h with
  | done => exact h'.of_nil legible
  | setting _ _ ih => exact ih (h'.of_setting legible)
  | create known _ _ ih => exact ih (h'.of_create legible known)
  | drop known _ _ ih => exact ih (h'.of_drop legible known)

end Installs

/-! ## Runs -/

/-- What has been done is the beginning of statements that install objects. -/
def Extends (objects : List SchemaObject) (done : List String) : Prop :=
  ∃ rest after, Installs objects [] (done ++ rest) after

/-- **Events take the installed objects from one list to another,** and what has been done can be
    continued to an installation at every moment. -/
def Evolves (objects present : List SchemaObject) (events : List Event)
    (after : List SchemaObject) : Prop :=
  ∃ xs, Keeps events xs ∧ Installs objects present xs after ∧
    ∀ before, Installs objects [] before present → Always (Extends objects) before events

namespace Evolves

variable {objects present middle after : List SchemaObject} {es fs : List Event}

protected theorem nil (objects present : List SchemaObject) : Evolves objects present [] present := by
  refine ⟨[], .nil, .done present, fun before h => .nil ⟨[], present, ?_⟩⟩
  rw [List.append_nil]
  exact h

protected theorem append (h : Evolves objects present es middle)
    (h' : Evolves objects middle fs after) : Evolves objects present (es ++ fs) after := by
  obtain ⟨xs, keeps, installs, always⟩ := h
  obtain ⟨ys, keeps', installs', always'⟩ := h'
  refine ⟨xs ++ ys, keeps.append keeps', installs.append installs', fun before hbefore => ?_⟩
  exact (always before hbefore).append keeps (always' _ (hbefore.append installs))

/-- An event that concerns no statement. -/
protected theorem skip {e : Event} (silent : ∀ j : Journal, j.record e.act = j)
    (h : Evolves objects present es after) : Evolves objects present (e :: es) after := by
  obtain ⟨xs, keeps, installs, always⟩ := h
  exact ⟨xs, keeps.skip silent, installs, fun before hbefore => (always before hbefore).skip silent⟩

/-- A transaction that is committed. -/
protected theorem committed (h : Evolves objects present es after) (t₁ t₂ : Instant) (d₁ d₂ : Nat) :
    Evolves objects present (⟨t₁, .began d₁⟩ :: es ++ [⟨t₂, .committed d₂⟩]) after := by
  obtain ⟨xs, keeps, installs, always⟩ := h
  exact ⟨xs, keeps.committed t₁ t₂ d₁ d₂, installs,
    fun before hbefore => (always before hbefore).committed keeps t₁ t₂ d₁ d₂⟩

/-- A transaction that is rolled back. -/
protected theorem rolledBack (h : Evolves objects present es after) (t₁ t₂ : Instant) (d₁ d₂ : Nat) :
    Evolves objects present (⟨t₁, .began d₁⟩ :: es ++ [⟨t₂, .rolledBack d₂⟩]) present := by
  obtain ⟨xs, keeps, installs, always⟩ := h
  exact ⟨[], keeps.rolledBack t₁ t₂ d₁ d₂, .done present,
    fun before hbefore => (always before hbefore).rolledBack keeps t₁ t₂ d₁ d₂⟩

end Evolves

/-- **A block of statements evolves the schema if it succeeds,** and else leaves it as it was. -/
theorem runStatements_evolves (policy : Policy) (label : String)
    {objects present after : List SchemaObject} {statements : List String} {s : Session}
    (legible : Legible objects) (granted : s.server.admissions = [])
    (h : Installs objects present statements after) {o : Outcome (Except SchemaError Unit)}
    (run : runStatements policy label statements s = o) :
    s.Drifts o.session ∧
      ((o.value = .ok () ∧ Evolves objects present o.events after) ∨
        ∃ error, o.value = .error error ∧ Evolves objects present o.events present) := by
  by_cases some : statements = []
  · subst some run
    rw [h.of_nil legible]
    exact ⟨.refl s, .inl ⟨rfl, .nil objects present⟩⟩
  have always (before : List String) (hbefore : Installs objects [] before present) :
      Always (Extends objects) before o.events := by
    rw [← run]
    -- What an attempt has sent so far is the beginning of an installation.
    refine runStatements_always policy label some granted fun millis ys hys => ?_
    obtain ⟨rest, hrest⟩ := hys
    refine ⟨rest, after, ?_⟩
    rw [List.append_assoc, hrest]
    exact hbefore.append (.setting millis h)
  obtain ⟨drifts, ⟨ok, millis, keeps⟩ | ⟨error, failed, keeps⟩⟩ :=
    runStatements_keeps policy label some granted run
  · exact ⟨drifts, .inl ⟨ok, _, keeps, .setting millis h, always⟩⟩
  · exact ⟨drifts, .inr ⟨error, failed, [], keeps, .done present, always⟩⟩

end StatSchema
