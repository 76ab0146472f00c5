import StatSchema.Proofs.Catalog.RefreshOrder

/-!
# `StatSchema.Proofs.Catalog.Readiness` — views are placed in the order in which they get ready

A view gets ready when the last of its sources has been placed. The queue is first in, first out, so the
views are placed in the order in which they get ready, and those that get ready at the same moment in the
order in which they are declared. Nothing else has a say: with the views that can be placed, this
determines the order (`Ahead` holds in one direction at most), and a plan inherits it.

## Contents
- **Positions.** `StandsBefore`: one entry of a list before another.
- **Readiness.** `Sooner`, `Ahead`, `ahead_iff_of_same`, `standsBefore_iff_ahead`.
- **Queue.** `Frontier.InTurn`, `InTurn.step`, `placementOrder_inTurn`.
- **Plans.** `IsPlan.standsBefore`, `refreshPlan_inTurn`.
-/

namespace StatSchema

/-! ## Positions -/

section Positions

variable {α β : Type} {xs ys : List α} {x y : α}

/-- `x` stands before `y` in a list. -/
def StandsBefore (xs : List α) (x y : α) : Prop :=
  [x, y].Sublist xs

theorem StandsBefore.mono (h : StandsBefore xs x y) (sub : xs.Sublist ys) : StandsBefore ys x y :=
  List.Sublist.trans h sub

theorem StandsBefore.mem (h : StandsBefore xs x y) : x ∈ xs ∧ y ∈ xs :=
  ⟨h.subset List.mem_cons_self, h.subset (List.mem_cons_of_mem x List.mem_cons_self)⟩

theorem StandsBefore.map (h : StandsBefore xs x y) (f : α → β) : StandsBefore (xs.map f) (f x) (f y) :=
  List.Sublist.map f h

theorem StandsBefore.ne (nodup : xs.Nodup) (h : StandsBefore xs x y) : x ≠ y := by
  rintro rfl
  exact List.nodup_iff_sublist.mp nodup x h

theorem standsBefore_cons {first : α} :
    StandsBefore (first :: xs) x y ↔ StandsBefore xs x y ∨ first = x ∧ y ∈ xs := by
  constructor
  · intro h
    cases h with
    | cons _ h => exact .inl h
    | cons_cons _ h => exact .inr ⟨rfl, List.singleton_sublist.mp h⟩
  · rintro (h | ⟨rfl, hy⟩)
    · exact List.Sublist.cons first h
    · exact List.Sublist.cons_cons first (List.singleton_sublist.mpr hy)

theorem StandsBefore.asymm (nodup : xs.Nodup) (h : StandsBefore xs x y) : ¬ StandsBefore xs y x := by
  induction xs with
  | nil => exact absurd h.mem.1 List.not_mem_nil
  | cons first xs ih =>
    obtain ⟨hfirst, hrest⟩ := List.nodup_cons.mp nodup
    intro h'
    rcases standsBefore_cons.mp h with h | ⟨rfl, hy⟩
    · rcases standsBefore_cons.mp h' with h' | ⟨rfl, hx⟩
      · exact ih hrest h h'
      · exact hfirst h.mem.2
    · rcases standsBefore_cons.mp h' with h' | ⟨rfl, hx⟩
      · exact hfirst h'.mem.2
      · exact hfirst hx

theorem standsBefore_trichotomy (hx : x ∈ xs) (hy : y ∈ xs) :
    x = y ∨ StandsBefore xs x y ∨ StandsBefore xs y x := by
  induction xs with
  | nil => exact absurd hx List.not_mem_nil
  | cons first xs ih =>
    rcases List.mem_cons.mp hx with rfl | hxrest
    · rcases List.mem_cons.mp hy with rfl | hyrest
      · exact .inl rfl
      · exact .inr (.inl (standsBefore_cons.mpr (.inr ⟨rfl, hyrest⟩)))
    · rcases List.mem_cons.mp hy with rfl | hyrest
      · exact .inr (.inr (standsBefore_cons.mpr (.inr ⟨rfl, hxrest⟩)))
      · rcases ih hxrest hyrest with heq | h | h
        · exact .inl heq
        · exact .inr (.inl (standsBefore_cons.mpr (.inl h)))
        · exact .inr (.inr (standsBefore_cons.mpr (.inl h)))

/-- What stands in front of an entry stands before it. -/
theorem standsBefore_append {before after : List α} (hx : x ∈ before) :
    StandsBefore (before ++ y :: after) x y := by
  have hy : [y].Sublist (y :: after) := List.singleton_sublist.mpr List.mem_cons_self
  exact (List.singleton_sublist.mpr hx).append hy

/-- The last entry stands before none. -/
theorem not_standsBefore_last {last : α} (nodup : (xs ++ [last]).Nodup) :
    ¬ StandsBefore (xs ++ [last]) last y := by
  intro h
  rcases List.mem_append.mp h.mem.2 with hy | hy
  · exact h.asymm nodup (standsBefore_append hy)
  · obtain rfl := List.mem_singleton.mp hy
    exact h.ne nodup rfl

/-- Two entries of a list stand as in a longer one that has neither of them twice. The lists may differ by
    a renaming. -/
theorem standsBefore_iff_of_map {f : α → β} {zs : List β} (sub : (xs.map f).Sublist zs)
    (nodup : zs.Nodup) (hx : x ∈ xs) (hy : y ∈ xs) :
    StandsBefore xs x y ↔ StandsBefore zs (f x) (f y) := by
  constructor
  · intro h
    exact (h.map f).mono sub
  · intro h
    rcases standsBefore_trichotomy hx hy with rfl | h' | h'
    · exact absurd rfl (h.ne nodup)
    · exact h'
    · exact absurd ((h'.map f).mono sub) (h.asymm nodup)

theorem standsBefore_iff_of_sublist (sub : xs.Sublist ys) (nodup : ys.Nodup) (hx : x ∈ xs)
    (hy : y ∈ xs) : StandsBefore xs x y ↔ StandsBefore ys x y := by
  refine standsBefore_iff_of_map (f := id) ?_ nodup hx hy
  rw [List.map_id]
  exact sub

end Positions

/-! ## Readiness -/

section Readiness

variable {α : Type} {waits : α → α → Prop} {declared order order' : List α} {v w : α}

/-- In an order, `v` gets ready sooner than `w`: something that `w` waits for stands after everything that
    `v` waits for. -/
def Sooner (waits : α → α → Prop) (order : List α) (v w : α) : Prop :=
  ∃ last, waits w last ∧ ∀ source, waits v source → StandsBefore order source last

/-- **The place of `v` is ahead of that of `w`**: `v` gets ready sooner, or no later and is declared
    before `w`. -/
def Ahead (waits : α → α → Prop) (declared order : List α) (v w : α) : Prop :=
  Sooner waits order v w ∨ ¬ Sooner waits order w v ∧ StandsBefore declared v w

/-- What waits for nothing gets ready no later than anything. -/
theorem not_sooner_of_leaf (leaf : ∀ source, ¬ waits w source) : ¬ Sooner waits order v w := by
  rintro ⟨last, hlast, -⟩
  exact leaf last hlast

theorem Sooner.asymm (nodup : order.Nodup) (h : Sooner waits order v w) :
    ¬ Sooner waits order w v := by
  obtain ⟨last, hlast, hbefore⟩ := h
  rintro ⟨last', hlast', hbefore'⟩
  exact (hbefore last' hlast').asymm nodup (hbefore' last hlast)

theorem Ahead.asymm (nodup : order.Nodup) (distinct : declared.Nodup)
    (h : Ahead waits declared order v w) : ¬ Ahead waits declared order w v := by
  rintro (h' | ⟨hno', hdeclared'⟩)
  · rcases h with h | ⟨hno, -⟩
    · exact h.asymm nodup h'
    · exact hno h'
  · rcases h with h | ⟨-, hdeclared⟩
    · exact hno' h
    · exact hdeclared.asymm distinct hdeclared'

/-- Of two that wait for the same things, neither gets ready sooner: the one declared first is ahead. -/
theorem ahead_iff_of_same (nodup : order.Nodup) (same : ∀ source, waits v source ↔ waits w source) :
    Ahead waits declared order v w ↔ StandsBefore declared v w := by
  have hsooner : Sooner waits order v w ↔ Sooner waits order w v := by
    simp only [Sooner, same]
  have hno : ¬ Sooner waits order v w := fun h => h.asymm nodup (hsooner.mp h)
  constructor
  · rintro (sooner | ⟨-, hdeclared⟩)
    · exact absurd sooner hno
    · exact hdeclared
  · intro hdeclared
    exact .inr ⟨hsooner.not.mp hno, hdeclared⟩

/-- Readiness is a matter of how the things that are waited for stand to one another. -/
theorem sooner_congr (same : ∀ s t, waits v s → waits w t →
    (StandsBefore order s t ↔ StandsBefore order' s t)) :
    Sooner waits order v w ↔ Sooner waits order' v w := by
  refine exists_congr fun last => and_congr_right fun hlast => ?_
  exact forall_congr' fun source => imp_congr_right fun hsource => same source last hsource hlast

/-- What is placed later makes no difference to those that are ready. -/
theorem ahead_append {later : List α} (nodup : (order ++ later).Nodup)
    (hv : ∀ source, waits v source → source ∈ order)
    (hw : ∀ source, waits w source → source ∈ order) :
    Ahead waits declared order v w ↔ Ahead waits declared (order ++ later) v w := by
  have same {s t : α} (hs : s ∈ order) (ht : t ∈ order) :=
    standsBefore_iff_of_sublist (List.sublist_append_left order later) nodup hs ht
  refine or_congr ?_ (and_congr_left' (not_congr ?_))
  · exact sooner_congr fun s t hs ht => same (hv s hs) (hw t ht)
  · exact sooner_congr fun s t hs ht => same (hw s hs) (hv t ht)

/-- **In an order that goes by readiness and declaration, one entry stands before another if and only if
    its place is ahead.** -/
theorem standsBefore_iff_ahead (nodup : order.Nodup) (distinct : declared.Nodup)
    (inTurn : order.Pairwise (Ahead waits declared order)) (hv : v ∈ order) (hw : w ∈ order) :
    StandsBefore order v w ↔ Ahead waits declared order v w := by
  have hahead {a b : α} (h : StandsBefore order a b) : Ahead waits declared order a b :=
    List.pairwise_iff_forall_sublist.mp inTurn h
  constructor
  · exact hahead
  · intro h
    rcases standsBefore_trichotomy hv hw with rfl | h' | h'
    · exact absurd h (h.asymm nodup distinct)
    · exact h'
    · exact absurd (hahead h') (h.asymm nodup distinct)

end Readiness

/-! ## Queue -/

/-- A view waits for a source that is listed with it. -/
def Needs.Waits (needs : Needs) (v source : String) : Prop :=
  v ∈ needs.readersOf source

namespace Frontier

variable {needs : Needs} {placed ready : List String} {name : String} {f g : Frontier}

/-- **The order of the queue** after the names `placed`: these and the names in the queue stand in the
    order in which they have got ready. -/
def InTurn (needs : Needs) (placed : List String) (f : Frontier) : Prop :=
  (placed ++ f.ready).Pairwise (Ahead needs.Waits (needs.map (·.1)) placed)

/-- What is placed or in the queue waits only for what is placed. -/
theorem Tracks.waits_placed (tracks : f.Tracks needs placed) {v source : String}
    (hv : v ∈ placed ++ f.ready) (waits : needs.Waits v source) : source ∈ placed := by
  obtain ⟨sources, listed, hsource⟩ := Needs.mem_readersOf.mp waits
  have hzero := (tracks.complete v sources listed).mp hv
  exact missingCount_eq_zero_iff.mp hzero source hsource

/-- **One step keeps the order of the queue.** The views that join wait for the name just placed, which
    stands after all that the others wait for; among themselves they are in the order of declaration. -/
theorem InTurn.step (plain : needs.Plain) (tracks : f.Tracks needs placed)
    (queue : f.ready = name :: ready) (inTurn : f.InTurn needs placed)
    (released : ({ f with ready } : Frontier).releaseAll (needs.readersOf name) = .ok g) :
    g.InTurn needs (placed ++ [name]) := by
  have hnodup : (placed ++ [name]).Nodup := by
    have hall := tracks.fresh
    rw [queue, ← List.singleton_append, ← List.append_assoc] at hall
    exact (List.nodup_append.mp hall).1
  obtain ⟨g', hg, -, hall⟩ := tracks.release plain queue
  rw [released] at hg
  cases hg
  rw [InTurn, hall, List.pairwise_append]
  refine ⟨?old, ?joined, ?between⟩
  case old =>
    refine inTurn.imp_of_mem fun hv hw h => ?_
    refine (ahead_append hnodup ?_ ?_).mp h
    · exact fun source => tracks.waits_placed hv
    · exact fun source => tracks.waits_placed hw
  case joined =>
    rw [List.pairwise_iff_forall_sublist]
    intro v w hvw
    have hw : w ∈ needs.readersOf name :=
      (List.mem_filter.mp (StandsBefore.mem hvw).2).1
    refine .inr ⟨?_, ?_⟩
    · rintro ⟨last, -, hlast⟩
      exact not_standsBefore_last hnodup (hlast name hw)
    · refine StandsBefore.mono (StandsBefore.mono hvw List.filter_sublist) ?_
      exact List.filter_sublist.map _
  case between =>
    intro v hv w hw
    refine .inl ⟨name, (List.mem_filter.mp hw).1, fun source hsource => ?_⟩
    exact standsBefore_append (tracks.waits_placed hv hsource)

end Frontier

namespace Catalog

variable {c : Catalog} {maxCost : Cost}

/-- Before any view is placed, the queue holds the views without sources in the order of declaration. -/
theorem initialFrontier_inTurn (distinct : c.names.Nodup) : c.initialFrontier.InTurn c.needs [] := by
  have tracks := initialFrontier_tracks distinct
  rw [Frontier.InTurn, List.pairwise_iff_forall_sublist]
  intro v w hvw
  refine .inr ⟨?_, ?_⟩
  · refine not_sooner_of_leaf fun source waits => ?_
    exact List.not_mem_nil (tracks.waits_placed (StandsBefore.mem hvw).1 waits)
  · exact StandsBefore.mono hvw List.filter_sublist

/-- **The views of a catalog are placed in the order in which they get ready.** -/
theorem placementOrder_inTurn (distinct : c.names.Nodup) :
    ∃ order, c.placementOrder = .ok order ∧ c.needs.Order order ∧
      order.Pairwise (Ahead c.needs.Waits (c.needs.map (·.1)) order) := by
  have plain := needs_plain distinct
  obtain ⟨order, g, horder, hempty, tracks, inTurn⟩ := placeAll_run
    (motive := fun placed f => f.Tracks c.needs placed ∧ f.InTurn c.needs placed)
    (fun placed f name ready ⟨tracks, inTurn⟩ queue => by
      obtain ⟨g, hg, hstep⟩ := tracks.step plain queue
      exact ⟨g, hg, hstep, inTurn.step plain tracks queue hg⟩)
    ⟨initialFrontier_tracks distinct, initialFrontier_inTurn distinct⟩
  refine ⟨order, horder, tracks.order hempty, ?_⟩
  rw [Frontier.InTurn, hempty, List.append_nil] at inTurn
  exact inTurn

/-! ## Plans -/

/-- What a view of a plan reaches stands before it. -/
theorem IsPlan.standsBefore {plan : List SchemaObject} (h : c.IsPlan maxCost plan) {v w : SchemaObject}
    (hv : v ∈ plan) (reaches : c.Reaches v w) : StandsBefore plan w v := by
  obtain ⟨before, after, rfl⟩ := List.append_of_mem hv
  exact standsBefore_append ((h.sound before v after rfl).2.2 w reaches)

/-- A materialized view waits for the names of the views that it reaches. -/
theorem waits_iff (distinct : c.names.Nodup) {v : SchemaObject} (hv : v ∈ c.materializedViews)
    {source : String} : c.needs.Waits v.name source ↔ ∃ w, c.Reaches v w ∧ w.name = source := by
  rw [Needs.Waits, (needs_plain distinct).mem_readersOf (mem_needs hv), mem_sources_iff distinct]

/-- The views chosen from an order stand to one another in readiness as their names do in the order. -/
theorem IsPlan.sooner_of_order (distinct : c.names.Nodup) {order : List String} {plan : List SchemaObject}
    (h : c.IsPlan maxCost plan) (nodup : order.Nodup) (sub : (plan.map (·.name)).Sublist order)
    {v w : SchemaObject} (hv : v ∈ plan) (hw : w ∈ plan) :
    Sooner c.needs.Waits order v.name w.name ↔ Sooner c.Reaches plan v w := by
  have same {s t : SchemaObject} (hs : c.Reaches v s) (ht : c.Reaches w t) :
      StandsBefore plan s t ↔ StandsBefore order s.name t.name :=
    standsBefore_iff_of_map sub nodup (h.standsBefore hv hs).mem.1 (h.standsBefore hw ht).mem.1
  constructor
  · rintro ⟨last, hlast, hbefore⟩
    obtain ⟨t, ht, rfl⟩ := (waits_iff distinct (h.materialized hw)).mp hlast
    refine ⟨t, ht, fun s hs => (same hs ht).mpr (hbefore s.name ?_)⟩
    exact (waits_iff distinct (h.materialized hv)).mpr ⟨s, hs, rfl⟩
  · rintro ⟨t, ht, hbefore⟩
    refine ⟨t.name, (waits_iff distinct (h.materialized hw)).mpr ⟨t, ht, rfl⟩, ?_⟩
    intro source hsource
    obtain ⟨s, hs, rfl⟩ := (waits_iff distinct (h.materialized hv)).mp hsource
    exact (same hs ht).mp (hbefore s hs)

/-- **A plan goes by readiness and declaration.** On a catalog with distinct names there is a plan, and
    each of its views is ahead of those that stand after it. -/
theorem refreshPlan_inTurn (distinct : c.names.Nodup) (maxCost : Cost) :
    ∃ plan, c.refreshPlan maxCost = .ok plan ∧ c.IsPlan maxCost plan ∧
      plan.Pairwise (Ahead c.Reaches c.objects plan) := by
  obtain ⟨order, horder, h, inTurn⟩ := placementOrder_inTurn distinct
  have isPlan : c.IsPlan maxCost (c.affordable maxCost [] order) := affordable_isPlan distinct h
  have sub : ((c.affordable maxCost [] order).map (·.name)).Sublist order := affordable_sublist [] order
  refine ⟨c.affordable maxCost [] order, ?_, isPlan, ?_⟩
  · rw [refreshPlan, horder]
    rfl
  · refine (List.pairwise_map.mp (inTurn.sublist sub)).imp_of_mem fun {v w} hv hw ahead => ?_
    have hobject {u : SchemaObject} (hu : u ∈ c.affordable maxCost [] order) : u ∈ c.objects :=
      (mem_materializedViews.mp (isPlan.materialized hu)).1
    rcases ahead with sooner | ⟨noLater, declared⟩
    · exact .inl ((isPlan.sooner_of_order distinct h.nodup sub hv hw).mp sooner)
    · refine .inr ⟨?_, ?_⟩
      · rw [← isPlan.sooner_of_order distinct h.nodup sub hw hv]
        exact noLater
      · have hnames : (c.needs.map (·.1)).Sublist c.names := by
          rw [map_needs]
          exact List.filter_sublist.map _
        exact (standsBefore_iff_of_map (List.Sublist.refl _) distinct (hobject hv) (hobject hw)).mpr
          (declared.mono hnames)

end Catalog

end StatSchema
