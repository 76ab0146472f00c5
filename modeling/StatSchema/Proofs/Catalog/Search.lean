import StatSchema.Proofs.Catalog.Sources

/-!
# `StatSchema.Proofs.Catalog.Search` — the search behind an object ends, and is exact in any order

The search for the sources of an object keeps a stack of names, which grows while it is worked off: a
plain view puts all that it depends on onto it, and plain views may depend on one another in a circle.
Here the search is taken step by step. A name that has been visited is only taken off the stack, so a
plain view opens once, and what the stack holds together with what the plain views not visited would
still put there gets less with every step. What has been found, together with what the stack still leads
to without the names visited, stays the same. Neither depends on which name of the stack is taken, so the
search may go on at either end of it.

## Contents
- **Steps.** `opened`, `reported`; `Search`, `Search.Step`, `Search.Steps`.
- **Objects not visited.** `unvisited`, `links`.
- **End.** `Search.weight`, `Step.weight_lt`, `Steps.length_le`.
- **Result.** `Search.Finds`, `Step.finds_iff`; `Search.Sound`, `Step.sound`; `Steps.exact`.
- **Sources.** `Search.outcome`, `exists_step`, `exists_steps`: the search that takes the first name is
  that of `sources`; `mem_sources_iff`, `nodup_sources`.
- **Main result.** `search_exact`.
-/

namespace StatSchema.Catalog

/-! ## Steps -/

/-- The state of a search: the names visited, the names still to be looked at, and the names of the
    materialized views found. -/
structure Search where
  visited : List String
  stack : List String
  found : List String

/-- The names that an object puts onto the stack. -/
def opened (o : SchemaObject) : List String :=
  if o.kind = .view then o.dependsOn else []

/-- The names that an object is found under. -/
def reported (o : SchemaObject) : List String :=
  if o.kind = .materializedView then [o.name] else []

theorem mem_reported_iff {o : SchemaObject} {source : String} :
    source ∈ reported o ↔ o.kind = .materializedView ∧ source = o.name := by
  unfold reported
  split <;> simp_all

theorem nodup_reported (o : SchemaObject) : (reported o).Nodup := by
  unfold reported
  split <;> simp

namespace Search

/-- The search for the sources of an object begins with its dependencies. -/
def start (o : SchemaObject) : Search where
  visited := []
  stack := o.dependsOn
  found := []

/-- **One step of the search** takes a name off the stack, any one of those that are there. -/
inductive Step (c : Catalog) : Search → Search → Prop where
  /-- The name has been visited before. -/
  | again {s : Search} {name : String} {rest : List String} (taken : s.stack.Perm (name :: rest))
      (seen : name ∈ s.visited) : Step c s { s with stack := rest }
  /-- No object has the name. -/
  | dangling {s : Search} {name : String} {rest : List String} (taken : s.stack.Perm (name :: rest))
      (new : name ∉ s.visited) (absent : c.latest? name = none) :
      Step c s { s with visited := name :: s.visited, stack := rest }
  /-- The name is that of an object, which is reported or opened if it is a view. -/
  | visit {s : Search} {name : String} {rest : List String} {o : SchemaObject}
      (taken : s.stack.Perm (name :: rest)) (new : name ∉ s.visited)
      (present : c.latest? name = some o) :
      Step c s ⟨name :: s.visited, opened o ++ rest, s.found ++ reported o⟩

/-- `n` steps of the search, one after the other. -/
inductive Steps (c : Catalog) : Nat → Search → Search → Prop where
  | none (s : Search) : Steps c 0 s s
  | next {n : Nat} {s t u : Search} (first : Step c s t) (rest : Steps c n t u) : Steps c (n + 1) s u

end Search

/-! ## Objects not visited -/

/-- The objects whose names are not among `visited`. -/
def unvisited (c : Catalog) (visited : List String) : List SchemaObject :=
  c.objects.filter (·.name ∉ visited)

theorem mem_unvisited {c : Catalog} {visited : List String} {o : SchemaObject} :
    o ∈ c.unvisited visited ↔ o ∈ c.objects ∧ o.name ∉ visited := by
  rw [unvisited, List.mem_filter, decide_eq_true_iff]

theorem unvisited_nil (c : Catalog) : c.unvisited [] = c.objects := by
  simp [unvisited]

theorem unvisited_cons (c : Catalog) (name : String) (visited : List String) :
    c.unvisited (name :: visited) = without (c.unvisited visited) name := by
  simp [unvisited, without, List.filter_filter, not_or]

theorem nodup_unvisited {c : Catalog} (distinct : c.names.Nodup) (visited : List String) :
    ((c.unvisited visited).map (·.name)).Nodup :=
  distinct.sublist (List.filter_sublist.map _)

theorem latestOf?_unvisited_of_mem {c : Catalog} {name : String} {visited : List String}
    (h : name ∈ visited) : latestOf? (c.unvisited visited) name = none :=
  latestOf?_eq_none_iff.mpr fun _ ho hname => (mem_unvisited.mp ho).2 (hname ▸ h)

theorem latestOf?_unvisited_of_none {c : Catalog} {name : String} (h : c.latest? name = none)
    (visited : List String) : latestOf? (c.unvisited visited) name = none :=
  latestOf?_eq_none_iff.mpr fun o ho => latestOf?_eq_none_iff.mp h o (mem_unvisited.mp ho).1

/-- A name that no object has leaves as many objects to be visited as before. -/
theorem unvisited_dangling {c : Catalog} {name : String} (absent : c.latest? name = none)
    (visited : List String) : c.unvisited (name :: visited) = c.unvisited visited := by
  rw [unvisited_cons, without, List.filter_eq_self]
  intro o ho
  exact decide_eq_true (latestOf?_eq_none_iff.mp (latestOf?_unvisited_of_none absent visited) o ho)

/-- All that `objects` would put onto the stack. -/
def links (objects : List SchemaObject) : List String :=
  objects.flatMap opened

/-- Without an object, what it would put onto the stack is missing. -/
theorem length_links_without {objects : List SchemaObject} {o : SchemaObject} (ho : o ∈ objects) :
    (opened o).length + (links (without objects o.name)).length ≤ (links objects).length := by
  have hsplit := (List.filter_append_perm (fun p : SchemaObject => decide (p.name ≠ o.name))
    objects).flatMap_right opened
  have hmem : o ∈ objects.filter fun p => !decide (p.name ≠ o.name) :=
    List.mem_filter.mpr ⟨ho, by simp⟩
  have hopened : (opened o).Sublist (links (objects.filter fun p => !decide (p.name ≠ o.name))) :=
    List.sublist_flatten_of_mem (List.mem_map_of_mem hmem)
  have hlength := hsplit.length_eq
  rw [List.flatMap_append, List.length_append] at hlength
  have hle := hopened.length_le
  unfold links without at *
  omega

/-! ## End -/

namespace Search

variable {c : Catalog} {s t : Search} {n : Nat} {source : String}

/-- What the stack holds, and what the plain views not visited would still put there. -/
def weight (c : Catalog) (s : Search) : Nat :=
  s.stack.length + (links (c.unvisited s.visited)).length

/-- A step makes a search lighter: a plain view pays for what it puts onto the stack. -/
theorem Step.weight_lt (h : Step c s t) : t.weight c < s.weight c := by
  cases h with
  | @again name rest taken seen =>
    have hstack := taken.length_eq
    rw [List.length_cons] at hstack
    simp only [weight]
    omega
  | @dangling name rest taken new absent =>
    have hstack := taken.length_eq
    rw [List.length_cons] at hstack
    simp only [weight, unvisited_dangling absent]
    omega
  | @visit name rest o taken new present =>
    obtain ⟨ho, rfl⟩ := mem_of_latestOf? present
    have hstack := taken.length_eq
    have hlinks := length_links_without (mem_unvisited.mpr ⟨ho, new⟩)
    rw [← unvisited_cons] at hlinks
    rw [List.length_cons] at hstack
    simp only [weight, List.length_append]
    omega

/-- **A search ends**: its steps are no more than its weight. -/
theorem Steps.length_le (h : Steps c n s t) : n ≤ s.weight c := by
  induction h with
  | none => exact Nat.zero_le _
  | next first _ ih => exact Nat.lt_of_le_of_lt ih first.weight_lt

/-! ## Result -/

/-- A name that the search has found or is going to find: that of a materialized view to which something
    on the stack leads, without the names visited. -/
def Finds (c : Catalog) (s : Search) (source : String) : Prop :=
  source ∈ s.found ∨ Found (c.unvisited s.visited) s.stack source

/-- What an object and the rest of the stack lead to is what it is reported as, and what is on the stack
    once it has been visited leads to. -/
theorem found_visited (distinct : c.names.Nodup) {visited rest : List String} {o : SchemaObject}
    (ho : o ∈ c.unvisited visited) :
    Found (c.unvisited visited) (o.name :: rest) source ↔
      source ∈ reported o ∨ Found (c.unvisited (o.name :: visited)) (opened o ++ rest) source := by
  rw [found_cons (nodup_unvisited distinct visited) ho, unvisited_cons, found_append]
  cases hkind : o.kind <;> simp [opened, reported, hkind, found_nil]

/-- **What a search finds is settled from the beginning**: no step changes it. -/
theorem Step.finds_iff (distinct : c.names.Nodup) (h : Step c s t) :
    t.Finds c source ↔ s.Finds c source := by
  cases h with
  | @again name rest taken seen =>
    simp only [Finds, found_perm taken, found_cons_of_absent (latestOf?_unvisited_of_mem seen)]
  | @dangling name rest taken new absent =>
    have habsent := latestOf?_unvisited_of_none absent s.visited
    simp only [Finds, found_perm taken, found_cons_of_absent habsent, unvisited_dangling absent]
  | @visit name rest o taken new present =>
    obtain ⟨ho, rfl⟩ := mem_of_latestOf? present
    simp only [Finds, found_perm taken, found_visited distinct (mem_unvisited.mpr ⟨ho, new⟩),
      List.mem_append, or_assoc]

theorem Steps.finds_iff (distinct : c.names.Nodup) (h : Steps c n s t) :
    t.Finds c source ↔ s.Finds c source := by
  induction h with
  | none => rfl
  | next first _ ih => rw [ih, first.finds_iff distinct]

/-- Nothing is found twice, and what has been found has been visited. -/
structure Sound (s : Search) : Prop where
  nodup : s.found.Nodup
  visited : ∀ source ∈ s.found, source ∈ s.visited

theorem Step.sound (h : Step c s t) (sound : s.Sound) : t.Sound := by
  cases h with
  | again taken seen => exact ⟨sound.nodup, sound.visited⟩
  | dangling taken new absent =>
    exact ⟨sound.nodup, fun source hs => List.mem_cons_of_mem _ (sound.visited source hs)⟩
  | @visit name rest o taken new present =>
    obtain ⟨-, rfl⟩ := mem_of_latestOf? present
    have hfresh : o.name ∉ s.found := fun h => new (sound.visited _ h)
    refine ⟨List.nodup_append.mpr ⟨sound.nodup, nodup_reported o, ?_⟩, fun source hs => ?_⟩
    · rintro source hs _ hr rfl
      exact hfresh ((mem_reported_iff.mp hr).2 ▸ hs)
    · rcases List.mem_append.mp hs with hs | hs
      · exact List.mem_cons_of_mem _ (sound.visited source hs)
      · exact List.mem_cons.mpr (.inl (mem_reported_iff.mp hs).2)

theorem Steps.sound (h : Steps c n s t) (sound : s.Sound) : t.Sound := by
  induction h with
  | none => exact sound
  | next first _ ih => exact ih (first.sound sound)

/-- The search begins with nothing found, and is going to find what the object reaches. -/
theorem finds_start (c : Catalog) (o : SchemaObject) :
    (start o).Finds c source ↔ ∃ w, c.Reaches o w ∧ w.name = source := by
  have hstart : (start o).Finds c source ↔ Found c.objects o.dependsOn source := by
    simp [Finds, start, unvisited_nil]
  rw [hstart]
  constructor
  · rintro ⟨name, hname, w, hleads, hw⟩
    exact ⟨w, ⟨name, hname, hleads⟩, hw⟩
  · rintro ⟨w, ⟨name, hname, hleads⟩, hw⟩
    exact ⟨name, hname, w, hleads, hw⟩

/-- **A search that has ended has found the materialized views that the object reaches**, each once. -/
theorem Steps.exact (distinct : c.names.Nodup) {o : SchemaObject} (h : Steps c n (start o) s)
    (ended : s.stack = []) :
    s.found.Nodup ∧ ∀ source, source ∈ s.found ↔ ∃ w, c.Reaches o w ∧ w.name = source := by
  refine ⟨(h.sound ⟨List.nodup_nil, fun _ hs => absurd hs List.not_mem_nil⟩).nodup, fun source => ?_⟩
  rw [← finds_start, ← h.finds_iff distinct, Finds, ended, or_iff_left (found_nil source)]

end Search

/-! ## Sources -/

section Recursion

variable {objects : List SchemaObject} {name : String} {o : SchemaObject}

theorem sourcesFrom_absent (absent : latestOf? objects name = none) (stack : List String) :
    sourcesFrom objects (name :: stack) = sourcesFrom objects stack := by
  rw [sourcesFrom]
  split
  · rfl
  · next present => simp [absent] at present

theorem sourcesFrom_present (present : latestOf? objects name = some o) (stack : List String) :
    sourcesFrom objects (name :: stack) =
      reported o ++ sourcesFrom (without objects name) (opened o ++ stack) := by
  obtain ⟨-, hname⟩ := mem_of_latestOf? present
  rw [sourcesFrom]
  split
  · next absent => simp [absent] at present
  · next found =>
    cases present.symm.trans found
    cases hkind : o.kind <;> simp [opened, reported, hkind, hname]

end Recursion

namespace Search

variable {c : Catalog} {s t : Search} {n : Nat} {source : String}

/-- What `sourcesFrom` makes of the state of a search. -/
def outcome (c : Catalog) (s : Search) : List String :=
  s.found ++ sourcesFrom (c.unvisited s.visited) s.stack

/-- As long as there is something on the stack a search goes on. The step that takes the first name is
    the one of `sourcesFrom`. -/
theorem exists_step (distinct : c.names.Nodup) (nonempty : s.stack ≠ []) :
    ∃ t, Step c s t ∧ t.outcome c = s.outcome c := by
  obtain ⟨name, rest, hstack⟩ := List.exists_cons_of_ne_nil nonempty
  have taken : s.stack.Perm (name :: rest) := .of_eq hstack
  by_cases hname : name ∈ s.visited
  · have absent := latestOf?_unvisited_of_mem (c := c) hname
    refine ⟨_, .again taken hname, ?_⟩
    simp only [outcome, hstack, sourcesFrom_absent absent]
  cases h : c.latest? name with
  | none =>
    have absent := latestOf?_unvisited_of_none h s.visited
    refine ⟨_, .dangling taken hname h, ?_⟩
    simp only [outcome, hstack, sourcesFrom_absent absent, unvisited_dangling h]
  | some o =>
    have present : latestOf? (c.unvisited s.visited) name = some o := by
      obtain ⟨ho, rfl⟩ := mem_of_latestOf? h
      exact latestOf?_of_mem (nodup_unvisited distinct s.visited) (mem_unvisited.mpr ⟨ho, hname⟩)
    refine ⟨_, .visit taken hname h, ?_⟩
    simp only [outcome, hstack, sourcesFrom_present present, unvisited_cons, List.append_assoc]

/-- **`sourcesFrom` is a search.** -/
theorem exists_steps (distinct : c.names.Nodup) (s : Search) :
    ∃ n last, Steps c n s last ∧ last.stack = [] ∧ last.found = s.outcome c := by
  induction hw : s.weight c using Nat.strongRecOn generalizing s with
  | ind w ih =>
    by_cases ended : s.stack = []
    · refine ⟨0, s, .none s, ended, ?_⟩
      rw [outcome, ended, sourcesFrom, List.append_nil]
    · obtain ⟨t, first, houtcome⟩ := exists_step distinct ended
      obtain ⟨n, last, rest, hlast, hfound⟩ := ih (t.weight c) (hw ▸ first.weight_lt) t rfl
      exact ⟨n + 1, last, .next first rest, hlast, hfound.trans houtcome⟩

theorem outcome_start (c : Catalog) (o : SchemaObject) : (start o).outcome c = c.sources o := by
  simp [outcome, start, sources, unvisited_nil]

end Search

section Sources

variable {c : Catalog}

/-- What `sources` returns a search has found. -/
theorem exists_steps_sources (distinct : c.names.Nodup) (o : SchemaObject) :
    ∃ n last, Search.Steps c n (.start o) last ∧ last.stack = [] ∧ last.found = c.sources o := by
  rw [← Search.outcome_start]
  exact Search.exists_steps distinct (.start o)

theorem nodup_sources (distinct : c.names.Nodup) (o : SchemaObject) : (c.sources o).Nodup := by
  obtain ⟨n, last, hsteps, ended, hfound⟩ := exists_steps_sources distinct o
  exact hfound ▸ (hsteps.exact distinct ended).1

/-- **The sources of an object are the materialized views that it reaches.** -/
theorem mem_sources_iff (distinct : c.names.Nodup) {o : SchemaObject} {source : String} :
    source ∈ c.sources o ↔ ∃ w, c.Reaches o w ∧ w.name = source := by
  obtain ⟨n, last, hsteps, ended, hfound⟩ := exists_steps_sources distinct o
  rw [← hfound, (hsteps.exact distinct ended).2]

end Sources

/-! ## Main result -/

/-- **The search behind an object ends and is exact**, on every catalog with distinct names and whatever
    its objects depend on. It returns, each once, just the names of the materialized views to which a path
    leads that goes through plain views only. It does so step by step, and the steps are no more than the
    names that the object and the plain views depend on. A search that takes the names off the stack in
    another order does not go on for longer, stops only when the stack is empty, and returns the same
    names. -/
theorem search_exact {c : Catalog} (distinct : c.names.Nodup) (o : SchemaObject) :
    ((c.sources o).Nodup ∧
      ∀ source, source ∈ c.sources o ↔ ∃ between w, c.Path o between w ∧ w.name = source) ∧
    (∃ n last, Search.Steps c n (.start o) last ∧ last.stack = [] ∧ last.found = c.sources o) ∧
    ∀ n s, Search.Steps c n (.start o) s →
      n ≤ o.dependsOn.length + (links c.objects).length ∧
      (s.stack ≠ [] → ∃ t, Search.Step c s t) ∧
      (s.stack = [] → s.found.Perm (c.sources o)) := by
  have hnodup := nodup_sources distinct o
  refine ⟨⟨hnodup, fun source => ?paths⟩, exists_steps_sources distinct o, fun n s h => ?steps⟩
  case paths =>
    rw [mem_sources_iff distinct, exists_comm]
    simp only [reaches_iff_path, exists_and_right]
  case steps =>
    have hweight : (Search.start o).weight c = o.dependsOn.length + (links c.objects).length := by
      simp [Search.weight, Search.start, unvisited_nil]
    refine ⟨hweight ▸ h.length_le, fun unfinished => ?_, fun ended => ?_⟩
    · obtain ⟨t, first, -⟩ := Search.exists_step distinct unfinished
      exact ⟨t, first⟩
    · obtain ⟨hfound, hmem⟩ := h.exact distinct ended
      refine (List.perm_ext_iff_of_nodup hfound hnodup).mpr fun source => ?_
      rw [hmem, mem_sources_iff distinct]

/-- A materialized view that reaches itself through plain views which depend on each other. -/
def ranking : SchemaObject :=
  { SchemaObject.materialized "ranking" .singleton .light with dependsOn := ["right", "right"] }

/-- The catalog of that view: the plain views name each other, one name twice, and a name that no object
    has. -/
def circling : Catalog where
  objects :=
    [SchemaObject.materialized "total" .singleton .light,
     { SchemaObject.view "left" .singleton with dependsOn := ["right", "total", "absent"] },
     { SchemaObject.view "right" .singleton with dependsOn := ["left", "ranking", "left"] },
     ranking]

/-- The search behind `ranking` finds it itself and what is two views away, and ends in eight steps. -/
theorem search_exact_circling : circling.names.Nodup ∧
    (circling.sources ranking).Nodup ∧ "ranking" ∈ circling.sources ranking ∧
    "total" ∈ circling.sources ranking ∧
    ∀ n s, Search.Steps circling n (.start ranking) s →
      n ≤ 8 ∧ (s.stack = [] → s.found.Perm (circling.sources ranking)) := by
  have distinct : circling.names.Nodup := by decide
  obtain ⟨⟨hnodup, hpaths⟩, -, hsteps⟩ := search_exact distinct ranking
  have hself : "ranking" ∈ circling.sources ranking := by
    refine (hpaths "ranking").mpr
      ⟨[{ SchemaObject.view "right" .singleton with dependsOn := ["left", "ranking", "left"] }],
        ranking, ⟨?_, ?_, ?_⟩, rfl⟩ <;> decide
  have htotal : "total" ∈ circling.sources ranking := by
    refine (hpaths "total").mpr
      ⟨[{ SchemaObject.view "right" .singleton with dependsOn := ["left", "ranking", "left"] },
        { SchemaObject.view "left" .singleton with dependsOn := ["right", "total", "absent"] }],
        SchemaObject.materialized "total" .singleton .light, ⟨?_, ?_, ?_⟩, rfl⟩ <;> decide
  exact ⟨distinct, hnodup, hself, htotal,
    fun n s h => ⟨(hsteps n s h).1, (hsteps n s h).2.2⟩⟩

end StatSchema.Catalog
