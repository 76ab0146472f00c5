import StatSchema.Catalog.RefreshPlan
import StatSchema.Proofs.Catalog.Search

/-!
# `StatSchema.Proofs.Catalog.Placement` — placing views after their sources

The queue that places the views one by one keeps, for each view, the number of its sources that have not
been placed. That number is what the invariant of the queue says it is (`Frontier.Tracks`), so no count
goes below zero, a view joins the queue exactly when its last source is placed, and every view that can
be placed is.

## Contents
- **Counts.** `lookup_set`, `lookup_of_mem`.
- **Release.** `Frontier.releaseAll_spec`.
- **Invariant.** `Needs.Plain`, `Frontier.Tracks`, `Tracks.release`, `Tracks.step`.
- **Order.** `Needs.Order`, `placeAll_run`.
- **Catalogs.** `initialFrontier_tracks`, `placementOrder_order`.
-/

namespace StatSchema

/-! ## Counts -/

namespace Counts

theorem lookup_cons (key : String) (count : Nat) (counts : Counts) (v : String) :
    List.lookup v ((key, count) :: counts) = if v = key then some count else counts.lookup v := by
  rw [List.lookup_cons]
  by_cases hv : v = key
  · rw [hv, BEq.rfl, if_pos rfl]
  · rw [beq_false_of_ne hv, if_neg hv]

theorem lookup_set {counts : Counts} {name : String} {old : Nat} (count : Nat)
    (present : counts.lookup name = some old) (v : String) :
    (counts.set name count).lookup v = if v = name then some count else counts.lookup v := by
  induction counts with
  | nil => cases present
  | cons entry rest ih =>
    obtain ⟨key, value⟩ := entry
    rw [lookup_cons] at present ⊢
    by_cases hkey : name = key
    · subst hkey
      rw [set, if_pos rfl, lookup_cons]
      split <;> rfl
    · rw [if_neg hkey] at present
      rw [set, if_neg hkey, lookup_cons, ih present]
      by_cases hv : v = key
      · rw [if_pos hv, if_pos hv, if_neg]
        rintro rfl
        exact hkey hv
      · rw [if_neg hv, if_neg hv]

theorem lookup_of_mem {counts : Counts} {name : String} {count : Nat}
    (distinct : (counts.map (·.1)).Nodup) (h : (name, count) ∈ counts) :
    counts.lookup name = some count := by
  induction counts with
  | nil => exact absurd h List.not_mem_nil
  | cons entry rest ih =>
    obtain ⟨key, value⟩ := entry
    obtain ⟨hkey, hrest⟩ := List.nodup_cons.mp distinct
    rw [lookup_cons]
    rcases List.mem_cons.mp h with heq | hmem
    · cases heq
      rw [if_pos rfl]
    · rw [if_neg]
      · exact ih hrest hmem
      · rintro rfl
        exact hkey (List.mem_map.mpr ⟨(name, count), hmem, rfl⟩)

end Counts

/-! ## Release -/

namespace Frontier

/-- **Releasing readers that miss a source** lowers the count of each by one, and those that missed just
    one join the queue in order. -/
theorem releaseAll_spec {readers : List String} {f : Frontier} (distinct : readers.Nodup)
    (missing : ∀ r ∈ readers, ∃ n, f.missing.lookup r = some (n + 1)) :
    ∃ g, f.releaseAll readers = .ok g ∧
      (∀ v, g.missing.lookup v =
        if v ∈ readers then (f.missing.lookup v).map (· - 1) else f.missing.lookup v) ∧
      g.ready = f.ready ++ readers.filter (f.missing.lookup · = some 1) := by
  induction readers generalizing f with
  | nil => exact ⟨f, rfl, fun v => (by simp), (by simp)⟩
  | cons r rest ih =>
    obtain ⟨hr, hrest⟩ := List.nodup_cons.mp distinct
    obtain ⟨n, hn⟩ := missing r List.mem_cons_self
    obtain ⟨f', hf'⟩ : ∃ f' : Frontier, f' =
      { missing := f.missing.set r n, ready := if n = 0 then f.ready ++ [r] else f.ready } := ⟨_, rfl⟩
    have hrelease : f.release r = .ok f' := by
      rw [release, hn, hf']
    have hlookup (v : String) :
        f'.missing.lookup v = if v = r then some n else f.missing.lookup v := by
      rw [hf']
      exact Counts.lookup_set n hn v
    have hother {v : String} (hv : v ∈ rest) : f'.missing.lookup v = f.missing.lookup v := by
      rw [hlookup, if_neg]
      rintro rfl
      exact hr hv
    obtain ⟨g, hg, hcounts, hready⟩ := ih hrest (f := f') fun v hv => by
      rw [hother hv]
      exact missing v (List.mem_cons_of_mem r hv)
    refine ⟨g, ?_, fun v => ?_, ?_⟩
    · rw [releaseAll, hrelease]
      exact hg
    · rw [hcounts v, hlookup]
      by_cases hv : v = r
      · subst hv
        simp [hr, hn]
      · simp [hv]
    · have hfilter : rest.filter (f'.missing.lookup · = some 1) =
          rest.filter (f.missing.lookup · = some 1) :=
        List.filter_congr fun v hv => by rw [hother hv]
      rw [hready, hfilter, List.filter_cons, hn, hf']
      by_cases h0 : n = 0 <;> simp [h0]

end Frontier

/-! ## Invariant -/

/-- Views with distinct names, none of which names a source twice. -/
structure Needs.Plain (needs : Needs) : Prop where
  distinct : (needs.map (·.1)).Nodup
  nodup : ∀ v sources, (v, sources) ∈ needs → sources.Nodup

namespace Needs

variable {needs : Needs}

theorem mem_readersOf {name v : String} :
    v ∈ needs.readersOf name ↔ ∃ sources, (v, sources) ∈ needs ∧ name ∈ sources := by
  simp [readersOf]

theorem Plain.nodup_readersOf (plain : needs.Plain) (name : String) :
    (needs.readersOf name).Nodup :=
  plain.distinct.sublist (List.filter_sublist.map _)

/-- A view reads a name if and only if that is one of the sources listed with the view. -/
theorem Plain.mem_readersOf (plain : needs.Plain) {name v : String} {sources : List String}
    (listed : (v, sources) ∈ needs) : v ∈ needs.readersOf name ↔ name ∈ sources := by
  rw [Needs.mem_readersOf]
  constructor
  · rintro ⟨sources', listed', hname⟩
    have heq : (v, sources') = (v, sources) :=
      List.inj_on_of_nodup_map plain.distinct listed' listed rfl
    cases heq
    exact hname
  · intro hname
    exact ⟨sources, listed, hname⟩

end Needs

/-- The number of the sources that are not among the names placed. -/
def missingCount (placed sources : List String) : Nat :=
  (sources.filter (· ∉ placed)).length

theorem missingCount_eq_zero_iff {placed sources : List String} :
    missingCount placed sources = 0 ↔ ∀ source ∈ sources, source ∈ placed := by
  rw [missingCount, List.length_eq_zero_iff, List.filter_eq_nil_iff]
  simp

/-- Placing a name lowers the count where it is a source. -/
theorem missingCount_concat {placed sources : List String} {name : String} (nodup : sources.Nodup)
    (fresh : name ∉ placed) :
    missingCount (placed ++ [name]) sources + (if name ∈ sources then 1 else 0) =
      missingCount placed sources := by
  have hfilter : sources.filter (· ∉ placed ++ [name]) =
      (sources.filter (· ∉ placed)).erase name := by
    rw [(nodup.filter (· ∉ placed)).erase_eq_filter name, List.filter_filter]
    refine List.filter_congr fun source _ => ?_
    rw [Bool.eq_iff_iff]
    simp [not_or, and_comm]
  rw [missingCount, missingCount, hfilter]
  by_cases hname : name ∈ sources
  · have hmem : name ∈ sources.filter (· ∉ placed) :=
      List.mem_filter.mpr ⟨hname, decide_eq_true fresh⟩
    rw [if_pos hname, List.length_erase_add_one hmem]
  · have hmem : name ∉ sources.filter (· ∉ placed) := fun h => hname (List.mem_filter.mp h).1
    rw [if_neg hname, List.erase_of_not_mem hmem, Nat.add_zero]

/-- **The invariant of the queue** after the names `placed`: each count is that of the missing sources;
    the names placed and those in the queue are distinct, and they are the views that miss no source;
    each name placed follows its sources. -/
structure Frontier.Tracks (needs : Needs) (placed : List String) (f : Frontier) : Prop where
  counts : ∀ v sources, (v, sources) ∈ needs →
    f.missing.lookup v = some (missingCount placed sources)
  fresh : (placed ++ f.ready).Nodup
  named : ∀ v ∈ placed ++ f.ready, v ∈ needs.map (·.1)
  complete : ∀ v sources, (v, sources) ∈ needs →
    (v ∈ placed ++ f.ready ↔ missingCount placed sources = 0)
  ordered : ∀ before v after, placed = before ++ v :: after →
    ∀ sources, (v, sources) ∈ needs → ∀ source ∈ sources, source ∈ before

namespace Frontier.Tracks

variable {needs : Needs} {placed ready : List String} {name : String} {f : Frontier}

/-- The readers that miss just the name placed. -/
theorem mem_joined (plain : needs.Plain) (tracks : f.Tracks needs placed) {v : String}
    {sources : List String} (listed : (v, sources) ∈ needs) :
    v ∈ (needs.readersOf name).filter (f.missing.lookup · = some 1) ↔
      name ∈ sources ∧ missingCount placed sources = 1 := by
  rw [List.mem_filter, plain.mem_readersOf listed, decide_eq_true_iff, tracks.counts v sources listed,
    Option.some.injEq]

/-- The first view of the queue has not been placed. -/
theorem head_fresh (tracks : f.Tracks needs placed) (queue : f.ready = name :: ready) :
    name ∉ placed := by
  intro hmem
  exact (List.nodup_append.mp tracks.fresh).2.2 name hmem name (queue ▸ List.mem_cons_self) rfl

/-- **Placing the first view of the queue** releases its readers without fault: the count of each is
    lowered by one, and those that missed just that view join the queue in order. -/
theorem release (plain : needs.Plain) (tracks : f.Tracks needs placed)
    (queue : f.ready = name :: ready) :
    ∃ g, ({ f with ready } : Frontier).releaseAll (needs.readersOf name) = .ok g ∧
      (∀ v, g.missing.lookup v = if v ∈ needs.readersOf name then (f.missing.lookup v).map (· - 1)
        else f.missing.lookup v) ∧
      placed ++ [name] ++ g.ready = placed ++ f.ready ++
        (needs.readersOf name).filter (f.missing.lookup · = some 1) := by
  -- A reader misses at least the name that is being placed, so its count is not zero.
  have hmissing : ∀ r ∈ needs.readersOf name, ∃ n, f.missing.lookup r = some (n + 1) := by
    intro r hr
    obtain ⟨sources, listed, hname⟩ := Needs.mem_readersOf.mp hr
    have hcount := missingCount_concat (plain.nodup r sources listed) (tracks.head_fresh queue)
    rw [if_pos hname] at hcount
    exact ⟨_, (tracks.counts r sources listed).trans (congrArg some hcount.symm)⟩
  obtain ⟨g, hg, hcounts, hqueue⟩ := Frontier.releaseAll_spec (f := { f with ready })
    (plain.nodup_readersOf name) hmissing
  refine ⟨g, hg, hcounts, ?_⟩
  rw [hqueue, queue]
  simp

/-- **One step of the queue**: placing its first view releases the readers of that view without fault,
    and the invariant holds for the names placed by then. -/
theorem step (plain : needs.Plain) (tracks : f.Tracks needs placed) (queue : f.ready = name :: ready) :
    ∃ g, ({ f with ready } : Frontier).releaseAll (needs.readersOf name) = .ok g ∧
      g.Tracks needs (placed ++ [name]) := by
  have hready : name ∈ placed ++ f.ready := by
    rw [queue]
    exact List.mem_append_right placed List.mem_cons_self
  have hfresh : name ∉ placed := tracks.head_fresh queue
  obtain ⟨g, hg, hcounts, hall⟩ := tracks.release plain queue
  refine ⟨g, hg, ⟨?counts, ?fresh, ?named, ?complete, ?ordered⟩⟩
  case counts =>
    intro v sources listed
    have hcount := missingCount_concat (plain.nodup v sources listed) hfresh
    rw [hcounts v]
    simp only [plain.mem_readersOf listed, tracks.counts v sources listed]
    split at hcount
    · next hname =>
      rw [if_pos hname, ← hcount]
      rfl
    · next hname => rw [if_neg hname, ← hcount, Nat.add_zero]
  case fresh =>
    rw [hall, List.nodup_append]
    refine ⟨tracks.fresh, (plain.nodup_readersOf name).filter _, ?_⟩
    -- A view that joins misses one source so far, so it is neither placed nor in the queue.
    rintro v hv _ hjoined rfl
    obtain ⟨sources, listed, -⟩ := Needs.mem_readersOf.mp (List.mem_filter.mp hjoined).1
    have hzero := (tracks.complete v sources listed).mp hv
    have hone := ((tracks.mem_joined plain listed).mp hjoined).2
    omega
  case named =>
    intro v hv
    rw [hall] at hv
    rcases List.mem_append.mp hv with hv | hjoined
    · exact tracks.named v hv
    · obtain ⟨sources, listed, -⟩ := Needs.mem_readersOf.mp (List.mem_filter.mp hjoined).1
      exact List.mem_map.mpr ⟨(v, sources), listed, rfl⟩
  case complete =>
    intro v sources listed
    have hcount := missingCount_concat (plain.nodup v sources listed) hfresh
    rw [hall, List.mem_append, tracks.complete v sources listed, tracks.mem_joined plain listed]
    split at hcount
    · next hname =>
      simp only [hname, true_and]
      omega
    · next hname =>
      simp only [hname, false_and, or_false]
      omega
  case ordered =>
    intro before v after hplaced sources listed
    rcases List.eq_nil_or_concat after with rfl | ⟨after', last, rfl⟩
    · -- the name placed last: it came from the queue, so it misses no source
      obtain ⟨rfl, hv⟩ := List.append_inj' hplaced rfl
      cases hv
      exact missingCount_eq_zero_iff.mp ((tracks.complete name sources listed).mp hready)
    · rw [List.concat_eq_append, ← List.cons_append, ← List.append_assoc] at hplaced
      exact tracks.ordered before v after' (List.append_inj' hplaced rfl).1 sources listed

end Frontier.Tracks

/-! ## Order -/

/-- An order of views: each at most once and after its sources, and no view is left out whose sources
    are all there. -/
structure Needs.Order (needs : Needs) (order : List String) : Prop where
  nodup : order.Nodup
  named : ∀ v ∈ order, v ∈ needs.map (·.1)
  complete : ∀ v sources, (v, sources) ∈ needs → (∀ source ∈ sources, source ∈ order) → v ∈ order
  ordered : ∀ before v after, order = before ++ v :: after →
    ∀ sources, (v, sources) ∈ needs → ∀ source ∈ sources, source ∈ before

/-- When the queue is empty, what has been placed is an order. -/
theorem Frontier.Tracks.order {needs : Needs} {placed : List String} {f : Frontier}
    (tracks : f.Tracks needs placed) (empty : f.ready = []) : needs.Order placed := by
  obtain ⟨_, hfresh, hnamed, hcomplete, hordered⟩ := tracks
  rw [empty, List.append_nil] at hfresh hnamed hcomplete
  refine ⟨hfresh, hnamed, ?_, hordered⟩
  intro v sources listed hsources
  exact (hcomplete v sources listed).mpr (missingCount_eq_zero_iff.mpr hsources)

/-- **The run of the queue.** What one step keeps holds when the queue is empty, of all names placed by
    then; and if no step fails, placing all views does not. -/
theorem placeAll_run {needs : Needs} {motive : List String → Frontier → Prop}
    (step : ∀ placed f name ready, motive placed f → f.ready = name :: ready →
      ∃ g, ({ f with ready } : Frontier).releaseAll (needs.readersOf name) = .ok g ∧
        motive (placed ++ [name]) g)
    {placed : List String} {f : Frontier} (start : motive placed f) :
    ∃ order g, placeAll needs f = .ok order ∧ g.ready = [] ∧ motive (placed ++ order) g := by
  fun_induction placeAll needs f generalizing placed with
  | case1 f queue =>
    refine ⟨[], f, rfl, queue, ?_⟩
    rw [List.append_nil]
    exact start
  | case2 f name ready queue fault released =>
    obtain ⟨g, hg, -⟩ := step placed f name ready start queue
    rw [released] at hg
    cases hg
  | case3 f name ready queue g released _ ih =>
    obtain ⟨g', hg, hstep⟩ := step placed f name ready start queue
    rw [released] at hg
    cases hg
    obtain ⟨order, last, horder, hempty, hall⟩ := ih hstep
    refine ⟨name :: order, last, ?_, hempty, ?_⟩
    · rw [horder]
      rfl
    · rw [List.append_assoc] at hall
      exact hall

/-! ## Catalogs -/

namespace Catalog

variable {c : Catalog}

theorem mem_materializedViews {v : SchemaObject} :
    v ∈ c.materializedViews ↔ v ∈ c.objects ∧ v.kind = .materializedView := by
  rw [materializedViews, List.mem_filter, SchemaObject.isMaterialized, decide_eq_true_iff]

theorem map_needs : c.needs.map (·.1) = c.materializedViews.map (·.name) := by
  rw [needs, List.map_map]
  rfl

theorem needs_plain (distinct : c.names.Nodup) : c.needs.Plain := by
  refine ⟨?_, ?_⟩
  · rw [map_needs]
    exact distinct.sublist (List.filter_sublist.map _)
  · intro v sources listed
    obtain ⟨view, -, heq⟩ := List.mem_map.mp listed
    cases heq
    exact nodup_sources distinct view

/-- **The invariant holds before any view is placed.** -/
theorem initialFrontier_tracks (distinct : c.names.Nodup) :
    c.initialFrontier.Tracks c.needs [] := by
  have plain := needs_plain distinct
  have hcounts (v : String) (sources : List String) (listed : (v, sources) ∈ c.needs) :
      c.initialFrontier.missing.lookup v = some (missingCount [] sources) := by
    -- The counts are listed in reverse, which does not matter as names are distinct.
    apply Counts.lookup_of_mem
    · rw [initialFrontier, List.map_reverse, List.nodup_reverse, List.map_map]
      exact plain.distinct
    · refine List.mem_reverse.mpr (List.mem_map.mpr ⟨(v, sources), listed, ?_⟩)
      simp [missingCount]
  have hready (v : String) : v ∈ [] ++ c.initialFrontier.ready ↔
      v ∈ c.needs.map (·.1) ∧ c.initialFrontier.missing.lookup v = some 0 := by
    rw [List.nil_append, initialFrontier, List.mem_filter, decide_eq_true_iff]
  refine ⟨hcounts, plain.distinct.filter _, fun v hv => ((hready v).mp hv).1, ?_, ?_⟩
  · intro v sources listed
    rw [hready v, hcounts v sources listed, Option.some.injEq]
    exact ⟨fun h => h.2, fun h => ⟨List.mem_map.mpr ⟨(v, sources), listed, rfl⟩, h⟩⟩
  · intro before v after hplaced
    cases before <;> cases hplaced

/-- **The views of a catalog with distinct names can be put in an order.** -/
theorem placementOrder_order (distinct : c.names.Nodup) :
    ∃ order, c.placementOrder = .ok order ∧ c.needs.Order order := by
  obtain ⟨order, g, horder, hempty, tracks⟩ := placeAll_run
    (fun _ _ _ _ tracks queue => tracks.step (needs_plain distinct) queue)
    (initialFrontier_tracks distinct)
  exact ⟨order, horder, tracks.order hempty⟩

end Catalog

end StatSchema
