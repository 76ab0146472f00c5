import Mathlib.Data.Set.Finite.Lemmas
import Mathlib.Data.Set.Finite.List
import Mathlib.Order.Bounds.Basic
import StatSchema.Proofs.Catalog.Readiness
import StatSchema.Proofs.Catalog.Refreshable

/-!
# `StatSchema.Proofs.Catalog.Levels` — leaves first, level by level

The depth of a materialized view is the length of the longest chain of materialized views below it. A
plan goes by readiness, and what gets ready sooner waits for nothing deeper, so a plan goes level by
level, the views without sources first. Within a level the order is that of readiness and declaration;
what a view costs decides whether it is in the plan and not where.

## Contents
- **Depth.** `Chain`, `Depth`, `Refreshable.exists_depth`, `Depth.le_of_reached`.
- **Levels.** `IsPlan.levels`, `refreshPlan_levels`.
- **Peers.** `Peers`, `CheapestFirst`, `refreshPlan_peers`.
-/

namespace StatSchema.Catalog

variable {c : Catalog} {maxCost : Cost} {plan : List SchemaObject} {u v w : SchemaObject} {m n : Nat}

/-! ## Depth -/

/-- A view is at the top of a chain of `n` materialized views below it, each of which reaches the next. -/
inductive Chain (c : Catalog) : SchemaObject → Nat → Prop where
  | alone (v : SchemaObject) : Chain c v 0
  | onto {v w : SchemaObject} {n : Nat} (reaches : c.Reaches v w) (rest : Chain c w n) :
      Chain c v (n + 1)

/-- **The depth of a view** is the length of the longest chain below it. A view that reaches itself, or
    reaches such a view, has none. -/
def Depth (c : Catalog) (v : SchemaObject) (n : Nat) : Prop :=
  IsGreatest {length | c.Chain v length} n

theorem Depth.unique (hm : c.Depth v m) (hn : c.Depth v n) : m = n :=
  IsGreatest.unique hm hn

/-- A view that reaches nothing has depth zero. -/
theorem depth_of_leaf (leaf : ∀ w, ¬ c.Reaches v w) : c.Depth v 0 := by
  refine ⟨.alone v, ?_⟩
  intro length hchain
  cases hchain with
  | alone => exact Nat.le_refl 0
  | onto reaches _ => exact absurd reaches (leaf _)

theorem Depth.lt_of_reaches (hv : c.Depth v n) (reaches : c.Reaches v w) (hw : c.Depth w m) : m < n :=
  hv.2 (.onto reaches hw.1)

/-- **A view is no deeper than another** if everything it reaches is no deeper than something that the
    other reaches. -/
theorem Depth.le_of_reached (hu : c.Depth u m) (hv : c.Depth v n)
    (reached : ∀ x, c.Reaches u x → ∃ y k l, c.Reaches v y ∧ c.Depth x k ∧ c.Depth y l ∧ k ≤ l) :
    m ≤ n := by
  cases hu.1 with
  | alone => exact Nat.zero_le n
  | onto reaches rest =>
    obtain ⟨y, k, l, hy, hxk, hyl, hkl⟩ := reached _ reaches
    have hlength : _ ≤ k := hxk.2 rest
    have hbelow : l < n := hv.lt_of_reaches hy hyl
    omega

/-- There are finitely many views that a view may reach. -/
theorem finite_reached (c : Catalog) (v : SchemaObject) : {w | c.Reaches v w}.Finite :=
  (List.finite_toSet c.materializedViews).subset fun _ reaches => reaches.mem

/-- **A view has a depth if all that it reaches has one**: one more than the deepest of these. -/
theorem exists_depth_of_reached (reached : ∀ w, c.Reaches v w → ∃ n, c.Depth w n) :
    ∃ n, c.Depth v n := by
  by_cases leaf : ∃ w, c.Reaches v w
  · choose! depth hdepth using reached
    obtain ⟨deepest, hreaches, hdeepest⟩ :=
      Set.exists_max_image {w | c.Reaches v w} depth (finite_reached c v) leaf
    refine ⟨depth deepest + 1, .onto hreaches (hdepth deepest hreaches).1, ?_⟩
    intro length hchain
    cases hchain with
    | alone => exact Nat.zero_le _
    | @onto _ w length reaches rest =>
      have hlength : length ≤ depth w := (hdepth w reaches).2 rest
      have hmax : depth w ≤ depth deepest := hdeepest w reaches
      omega
  · exact ⟨0, depth_of_leaf fun w reaches => leaf ⟨w, reaches⟩⟩

/-- What can be refreshed has a depth. -/
theorem Refreshable.exists_depth (h : c.Refreshable maxCost v) : ∃ n, c.Depth v n := by
  induction h with
  | intro _ _ _ ih => exact exists_depth_of_reached ih

/-! ## Levels -/

/-- `v` is no deeper than `w`. -/
def NoDeeper (c : Catalog) (v w : SchemaObject) : Prop :=
  ∀ m n, c.Depth v m → c.Depth w n → m ≤ n

/-- **What is ahead is no deeper**, where of all that the two views reach it is known that what stands
    before is no deeper. -/
theorem IsPlan.noDeeper_of_ahead (h : c.IsPlan maxCost plan) (hu : u ∈ plan) (hv : v ∈ plan)
    (ahead : Ahead c.Reaches c.objects plan u v)
    (below : ∀ x y, c.Reaches u x → c.Reaches v y → StandsBefore plan x y → c.NoDeeper x y) :
    c.NoDeeper u v := by
  intro m n hm hn
  have hdepth {x : SchemaObject} (hx : x ∈ plan) : ∃ k, c.Depth x k := (h.refreshable x hx).exists_depth
  refine hm.le_of_reached hn fun x hux => ?_
  have hx : x ∈ plan := (h.standsBefore hu hux).mem.1
  obtain ⟨k, hk⟩ := hdepth hx
  rcases ahead with ⟨last, hlast, hbefore⟩ | ⟨noLater, -⟩
  · -- the last thing that `v` waits for stands after `x`
    obtain ⟨l, hl⟩ := hdepth (h.standsBefore hv hlast).mem.1
    exact ⟨last, k, l, hlast, hk, hl, below x last hux hlast (hbefore x hux) k l hk hl⟩
  · -- not everything that `v` waits for stands before `x`
    obtain ⟨y, hvy, hnot⟩ : ∃ y, c.Reaches v y ∧ ¬ StandsBefore plan y x := by
      by_contra hall
      push Not at hall
      exact noLater ⟨x, hux, hall⟩
    have hy : y ∈ plan := (h.standsBefore hv hvy).mem.1
    obtain ⟨l, hl⟩ := hdepth hy
    refine ⟨y, k, l, hvy, hk, hl, ?_⟩
    rcases standsBefore_trichotomy hx hy with rfl | hxy | hyx
    · exact le_of_eq (hk.unique hl)
    · exact below x y hux hvy hxy k l hk hl
    · exact absurd hyx hnot

/-- **A plan that goes by readiness goes level by level.** The induction is on the part of the plan that
    is known to do so: what the next view and those before it reach lies in that part. -/
theorem IsPlan.levels (h : c.IsPlan maxCost plan)
    (inTurn : plan.Pairwise (Ahead c.Reaches c.objects plan)) : plan.Pairwise c.NoDeeper := by
  have hpart : ∀ before after, plan = before ++ after → before.Pairwise c.NoDeeper := by
    intro before
    induction before using List.reverseRecOn with
    | nil => exact fun _ _ => .nil
    | append_singleton before v ih =>
      intro after position
      rw [List.append_assoc, List.singleton_append] at position
      have hbefore : before.Pairwise c.NoDeeper := ih (v :: after) position
      rw [List.pairwise_append]
      refine ⟨hbefore, List.pairwise_singleton _ v, ?_⟩
      intro u hu v' hv'
      obtain rfl := List.mem_singleton.mp hv'
      have huv : StandsBefore plan u v' := position ▸ standsBefore_append hu
      refine h.noDeeper_of_ahead huv.mem.1 huv.mem.2 (List.pairwise_iff_forall_sublist.mp inTurn huv) ?_
      intro x y hux hvy hxy
      have hsub : before.Sublist plan := position ▸ List.sublist_append_left before (v' :: after)
      have hy : y ∈ before := (h.sound before v' after position).2.2 y hvy
      have hx : x ∈ before := by
        obtain ⟨left, right, rfl⟩ := List.append_of_mem hu
        rw [List.append_assoc, List.cons_append] at position
        exact List.mem_append_left _ ((h.sound left u _ position).2.2 x hux)
      have hxybefore : StandsBefore before x y :=
        (standsBefore_iff_of_sublist hsub h.nodup hx hy).mpr hxy
      exact List.pairwise_iff_forall_sublist.mp hbefore hxybefore
  exact hpart plan [] (List.append_nil plan).symm

/-- **Leaves first, level by level.** On a catalog with distinct names, whatever its objects depend on,
    every view of the plan has a depth, the depths never decrease along the plan, and a view that reaches
    no materialized view stands before every view that reaches one. -/
theorem refreshPlan_levels (distinct : c.names.Nodup) (maxCost : Cost) :
    ∃ plan, c.refreshPlan maxCost = .ok plan ∧
      (∃ depth : SchemaObject → Nat, (∀ v ∈ plan, c.Depth v (depth v)) ∧
        plan.Pairwise fun v w => depth v ≤ depth w) ∧
      ∀ v ∈ plan, ∀ w ∈ plan, (∀ x, ¬ c.Reaches v x) → (∃ x, c.Reaches w x) → StandsBefore plan v w := by
  obtain ⟨plan, hplan, h, inTurn⟩ := refreshPlan_inTurn distinct maxCost
  have levels := h.levels inTurn
  have hdepth (v : SchemaObject) (hv : v ∈ plan) : ∃ n, c.Depth v n := (h.refreshable v hv).exists_depth
  choose! depth hdepth using hdepth
  refine ⟨plan, hplan, ⟨depth, hdepth, ?sorted⟩, ?leaves⟩
  case sorted =>
    refine levels.imp_of_mem fun {v w} hv hw noDeeper => ?_
    exact noDeeper (depth v) (depth w) (hdepth v hv) (hdepth w hw)
  case leaves =>
    intro v hv w hw leaf ⟨x, hwx⟩
    rcases standsBefore_trichotomy hv hw with rfl | hvw | hwv
    · exact absurd hwx (leaf x)
    · exact hvw
    · -- a view that reaches another is not of depth zero
      have hle := List.pairwise_iff_forall_sublist.mp levels hwv (depth w) 0 (hdepth w hw)
        (depth_of_leaf leaf)
      have hx : x ∈ plan := (h.standsBefore hw hwx).mem.1
      have hlt := (hdepth w hw).lt_of_reaches hwx (hdepth x hx)
      omega

theorem refreshPlan_levels_tangled : tangled.names.Nodup ∧
    ∃ plan, tangled.refreshPlan .heavy = .ok plan ∧
      (∃ depth : SchemaObject → Nat, (∀ v ∈ plan, tangled.Depth v (depth v)) ∧
        plan.Pairwise fun v w => depth v ≤ depth w) ∧
      ∀ v ∈ plan, ∀ w ∈ plan, (∀ x, ¬ tangled.Reaches v x) → (∃ x, tangled.Reaches w x) →
        StandsBefore plan v w := by
  have distinct : tangled.names.Nodup := by decide
  exact ⟨distinct, refreshPlan_levels distinct .heavy⟩

/-! ## Peers -/

/-- Two views of the same depth. -/
def Peers (c : Catalog) (v w : SchemaObject) : Prop :=
  ∃ n, c.Depth v n ∧ c.Depth w n

/-- Among peers the cheaper stands before the dearer. -/
def CheapestFirst (c : Catalog) (plan : List SchemaObject) : Prop :=
  ∀ v ∈ plan, ∀ w ∈ plan, c.Peers v w → v.cost.rank < w.cost.rank → StandsBefore plan v w

/-- **What decides the order among peers.** In the plan of an accepted catalog one view stands before
    another if and only if it gets ready sooner, or no later and is declared before it; two views that
    reach the same views, such as two that reach none, stand as they are declared. So peers stand cheapest
    first exactly when the cheaper ones happen to be ahead in that sense. -/
theorem refreshPlan_peers (valid : c.validate = .ok ()) (maxCost : Cost) :
    ∃ plan, c.refreshPlan maxCost = .ok plan ∧
      (∀ v ∈ plan, ∀ w ∈ plan, StandsBefore plan v w ↔ Ahead c.Reaches c.objects plan v w) ∧
      (∀ v ∈ plan, ∀ w ∈ plan, (∀ x, c.Reaches v x ↔ c.Reaches w x) →
        (StandsBefore plan v w ↔ StandsBefore c.objects v w)) ∧
      (c.CheapestFirst plan ↔ ∀ v ∈ plan, ∀ w ∈ plan, c.Peers v w → v.cost.rank < w.cost.rank →
        Ahead c.Reaches c.objects plan v w) := by
  have distinct : c.names.Nodup := (orderly_of_validate valid).distinct
  obtain ⟨plan, hplan, h, inTurn⟩ := refreshPlan_inTurn distinct maxCost
  have position (v : SchemaObject) (hv : v ∈ plan) (w : SchemaObject) (hw : w ∈ plan) :
      StandsBefore plan v w ↔ Ahead c.Reaches c.objects plan v w :=
    standsBefore_iff_ahead h.nodup (List.Nodup.of_map _ distinct) inTurn hv hw
  refine ⟨plan, hplan, position, ?declared, ?cheapest⟩
  case declared =>
    intro v hv w hw same
    rw [position v hv w hw, ahead_iff_of_same h.nodup same]
  case cheapest =>
    refine forall₂_congr fun v hv => forall₂_congr fun w hw => ?_
    rw [position v hv w hw]

/-- A view without sources that is dear to refresh. -/
def dear : SchemaObject :=
  { SchemaObject.materialized "dear" .singleton .heavy with
    body := "SELECT 0 AS id", directives := [.hide] }

/-- A view without sources that is cheap to refresh. -/
def cheap : SchemaObject :=
  { SchemaObject.materialized "cheap" .singleton .light with
    body := "SELECT 0 AS id", directives := [.hide] }

/-- The dear view is declared first. -/
def dearFirst : Catalog where
  objects := [dear, cheap]

theorem refreshPlan_peers_dearFirst : dearFirst.validate = .ok () ∧
    (∀ x, dearFirst.Reaches cheap x ↔ dearFirst.Reaches dear x) ∧ dearFirst.Peers cheap dear ∧
    ∃ plan, dearFirst.refreshPlan .heavy = .ok plan ∧ StandsBefore plan dear cheap ∧
      ¬ dearFirst.CheapestFirst plan := by
  have valid : dearFirst.validate = .ok () := by rfl
  have orderly := orderly_of_validate valid
  have leaf : ∀ v ∈ dearFirst.objects, ∀ w, ¬ dearFirst.Reaches v w := by
    rintro v hv w ⟨name, declared, -⟩
    have hnone : ∀ v ∈ dearFirst.objects, v.dependsOn = [] := by decide
    rw [hnone v hv] at declared
    exact List.not_mem_nil declared
  have hdear : dear ∈ dearFirst.objects := List.mem_cons_self
  have hcheap : cheap ∈ dearFirst.objects := List.mem_cons_of_mem dear List.mem_cons_self
  have same : ∀ x, dearFirst.Reaches cheap x ↔ dearFirst.Reaches dear x :=
    fun x => iff_of_false (leaf cheap hcheap x) (leaf dear hdear x)
  have peers : dearFirst.Peers cheap dear :=
    ⟨0, depth_of_leaf (leaf cheap hcheap), depth_of_leaf (leaf dear hdear)⟩
  obtain ⟨plan, hplan, -, declared, -⟩ := refreshPlan_peers valid .heavy
  have all : ∀ v ∈ dearFirst.objects, v ∈ plan := by
    obtain ⟨plan', hplan', h⟩ := refreshPlan_isPlan orderly.distinct .heavy
    obtain rfl : plan' = plan := Except.ok.inj (hplan'.symm.trans hplan)
    exact fun v hv => (orderly.perm_of_isPlan h).mem_iff.mpr hv
  refine ⟨valid, same, peers, plan, hplan, ?_, fun cheapestFirst => ?_⟩
  · exact (declared dear (all dear hdear) cheap (all cheap hcheap) fun x => (same x).symm).mpr
      (List.Sublist.refl [dear, cheap])
  · have before : StandsBefore plan cheap dear :=
      cheapestFirst cheap (all cheap hcheap) dear (all dear hdear) peers (by decide)
    have late : ¬ [cheap, dear].Sublist dearFirst.objects := by decide
    exact late ((declared cheap (all cheap hcheap) dear (all dear hdear) same).mp before)

end StatSchema.Catalog
