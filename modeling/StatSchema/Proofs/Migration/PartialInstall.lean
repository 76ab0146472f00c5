import StatSchema.Proofs.Catalog.RefreshOrder
import StatSchema.Proofs.Migration.Install

/-!
# `StatSchema.Proofs.Migration.PartialInstall` — a part of a schema stands on its own

Objects are created from the first on and dropped from the last on, so at every moment between two of
them the first so many objects are installed. In an accepted catalog these need none of the others:
they are an accepted catalog themselves and mention no object that is not there yet, or not any more.

## Contents
- **Order of work.** `createEach_append`, `dropStatementsOf_append`.
- **Main result.** `installs_selfContained`.
-/

namespace StatSchema

/-! ## Order of work -/

theorem Run.andThen_assoc (first second third : Run (Except DbError Unit)) :
    Run.andThen (Run.andThen first second) third =
      Run.andThen first (Run.andThen second third) := by
  unfold Run.andThen
  rw [bind_assoc]
  congr 1
  funext result
  cases result with
  | error error => rfl
  | ok _ => rfl

/-- Creating objects is creating the first of them and then, if that succeeded, the others. -/
theorem createEach_append (xs ys : List SchemaObject) :
    createEach (xs ++ ys) = Run.andThen (createEach xs) (createEach ys) := by
  induction xs with
  | nil => rfl
  | cons o rest ih =>
    have hcons (os : List SchemaObject) : createEach (o :: os) = (do
        Run.log (.creating o.name)
        Run.andThen (runInstallation o.name o.createStatements) (createEach os)) := rfl
    rw [List.cons_append, hcons, hcons, ih, ← Run.andThen_assoc]
    rfl

/-- Dropping objects is dropping the last of them and then the others. -/
theorem dropStatementsOf_append (xs ys : List SchemaObject) :
    dropStatementsOf (xs ++ ys) = dropStatementsOf ys ++ dropStatementsOf xs := by
  unfold dropStatementsOf
  rw [List.reverse_append, List.map_append]

/-! ## Main result -/

/-- **Every part of an accepted catalog that is installed on the way is self-contained.** The first
    objects, however many, are an accepted catalog and mention none of the others. So an object is created
    after those before it and mentions none of those that follow; and it is dropped after those that
    follow it, when none of those that remain mentions it. -/
theorem installs_selfContained {c : Catalog} (valid : c.validate = .ok ()) :
    (∀ k, (⟨c.objects.take k⟩ : Catalog).validate = .ok () ∧
      ∀ o ∈ c.objects.take k, ∀ p ∈ c.objects.drop k, o.mentions p.name = false) ∧
    ∀ before o after, c.objects = before ++ o :: after →
      (createEach c.objects = Run.andThen (createEach before) (createEach (o :: after)) ∧
        ∀ p ∈ after, o.mentions p.name = false) ∧
      (dropStatementsOf c.objects =
          dropStatementsOf after ++ o.dropStatement :: dropStatementsOf before ∧
        ∀ p ∈ before, p.mentions o.name = false) := by
  have orderly := Catalog.orderly_of_validate valid
  refine ⟨fun k => ⟨Catalog.validate_take valid k, ?_⟩, ?_⟩
  · intro o ho p hp
    exact orderly.not_mentions (List.take_append_drop k c.objects).symm ho hp
  intro before o after position
  refine ⟨⟨?_, ?_⟩, ?_, ?_⟩
  · rw [position, createEach_append]
  · intro p hp
    have hsplit : c.objects = (before ++ [o]) ++ after := by
      rw [position, List.append_assoc, List.singleton_append]
    exact orderly.not_mentions hsplit (List.mem_append_right before List.mem_cons_self) hp
  · have hfirst : dropStatementsOf (o :: after) = dropStatementsOf after ++ [o.dropStatement] :=
      dropStatementsOf_append [o] after
    rw [position, dropStatementsOf_append, hfirst, List.append_assoc, List.singleton_append]
  · intro p hp
    exact orderly.not_mentions position hp List.mem_cons_self

theorem installs_selfContained_chained : Catalog.chained.validate = .ok () ∧
    (∀ k, (⟨Catalog.chained.objects.take k⟩ : Catalog).validate = .ok () ∧
      ∀ o ∈ Catalog.chained.objects.take k, ∀ p ∈ Catalog.chained.objects.drop k,
        o.mentions p.name = false) ∧
    ∀ before o after, Catalog.chained.objects = before ++ o :: after →
      (createEach Catalog.chained.objects =
          Run.andThen (createEach before) (createEach (o :: after)) ∧
        ∀ p ∈ after, o.mentions p.name = false) ∧
      (dropStatementsOf Catalog.chained.objects =
          dropStatementsOf after ++ o.dropStatement :: dropStatementsOf before ∧
        ∀ p ∈ before, p.mentions o.name = false) := by
  have valid : Catalog.chained.validate = .ok () := by rfl
  exact ⟨valid, installs_selfContained valid⟩

end StatSchema
