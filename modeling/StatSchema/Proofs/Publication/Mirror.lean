import Mathlib.Data.List.Basic
import StatSchema.Proofs.Publication.Effects
import StatSchema.Proofs.Publication.Quoting

/-!
# `StatSchema.Proofs.Publication.Mirror` — removing published statistics mirrors installing them

The statements that install the published statistics and those that remove them are composed apart from each
other. Read as effects, the second remove what the first create, the last first. In between the catalog
decides which views get a comment, and whether there is an installation at all.

## Contents
- **Names.** `allWord_publishedNames`, `allWord_remoteViewName`.
- **Installation.** `connectionEffects`, `viewEffects` and what they amount to.
- **Removal.** `removalEffects`.
- **Main result.** `Republishes`, `createStatements_mirrored`.
-/

namespace StatSchema.Publication

open Text

variable {c : Catalog} {name : String} {names : List String}

/-! ## Names -/

theorem allWord_publishedNames : ∀ name ∈ publishedNames, AllWord name.toList := by
  decide +kernel

theorem allWord_remoteViewName (word : AllWord name.toList) : AllWord (remoteViewName name).toList := by
  have hsuffix : AllWord "_remote_view".toList := by decide
  intro d hd
  rw [remoteViewName, String.toList_append] at hd
  exact (List.mem_append.mp hd).elim (word d) (hsuffix d)

/-! ## Installation -/

/-- What makes the publisher's tables available. -/
def connectionEffects : List Effect :=
  [.creation [⟨.extension, extensionName⟩],
   .creation [⟨.server, serverName⟩],
   .creation [⟨.userMapping, serverName⟩],
   .creation (publishedNames.map (⟨.foreignTable, ·⟩))]

/-- The comment on the view that shows the object `name` of the catalog: the directives of the object, but
    for those that hide it; no comment if there are no others. -/
def viewComment? (c : Catalog) (name : String) : Option String :=
  (c.find? name).bind fun o =>
    if ∃ d ∈ o.directives, d ≠ .hide then
      some (Directive.render (o.directives.filter (· ≠ .hide)))
    else none

/-- What shows the object `name` of the catalog. -/
def viewEffects (c : Catalog) (name : String) : List Effect :=
  [.description ⟨.foreignTable, name⟩ "@omit", .wrapping (remoteViewName name) name]
  ++ (viewComment? c name).toList.map (.description ⟨.view, remoteViewName name⟩)

/-- A statement that creates one object. -/
theorem effect?_creation_one (kind : Kind) (notView : kind ≠ .view) (word : AllWord name.toList)
    {rest : String} (ends : EndsNames rest.toList) :
    effect? ((⟨.create, kind⟩ : Opening).words ++ (name ++ rest)) =
      some (.creation [⟨kind, name⟩]) := by
  have h := effect?_creation kind notView (List.cons_ne_nil name []) (by simpa using word) ends
  rwa [String.intercalate_singleton] at h

theorem endsNames_append {stop : String} (h : EndsNames stop.toList) (nonempty : stop.toList ≠ [])
    (rest : String) : EndsNames (stop ++ rest).toList := by
  rw [String.toList_append]
  exact h.append nonempty rest.toList

/-- **What the statements do that make the publisher's tables available,** whoever the publisher is. -/
theorem connectionStatements_effects (publisher : Publisher) :
    (connectionStatements publisher).map effect? = connectionEffects.map some := by
  have hextension : effect? ("CREATE EXTENSION IF NOT EXISTS " ++ (extensionName ++ "")) =
      some (.creation [⟨.extension, extensionName⟩]) :=
    effect?_creation_one .extension (by decide) (by decide) (by decide)
  have hserver (rest : String) :
      effect? ("CREATE SERVER " ++ (serverName ++ (" FOREIGN DATA WRAPPER " ++ rest))) =
        some (.creation [⟨.server, serverName⟩]) :=
    effect?_creation_one .server (by decide) (by decide) (endsNames_append (by decide) (by decide) rest)
  have hmapping (rest : String) :
      effect? ("CREATE USER MAPPING FOR CURRENT_USER SERVER " ++
          (serverName ++ (" OPTIONS (user " ++ rest))) =
        some (.creation [⟨.userMapping, serverName⟩]) :=
    effect?_creation_one .userMapping (by decide) (by decide) (endsNames_append (by decide) (by decide) rest)
  have himport (rest : String) :
      effect? ("IMPORT FOREIGN SCHEMA public LIMIT TO (" ++
          (", ".intercalate publishedNames ++ (") FROM SERVER " ++ rest))) =
        some (.creation (publishedNames.map (⟨.foreignTable, ·⟩))) :=
    effect?_creation .foreignTable (by decide) (by decide) allWord_publishedNames
      (endsNames_append (by decide) (by decide) rest)
  rw [String.append_empty] at hextension
  simp only [connectionStatements, String.append_assoc, List.map_cons, List.map_nil, hextension, hserver,
    hmapping, himport]
  rfl

/-- **What the statements do that show an object of the catalog.** -/
theorem viewsOf_effects (word : AllWord name.toList) (present : name ∈ c.names) :
    (viewsOf c name).map effect? = (viewEffects c name).map some := by
  obtain ⟨o, ho⟩ := exists_find? present
  have htext : viewComment? c name = if ∃ d ∈ o.directives, d ≠ .hide then
      some (Directive.render (o.directives.filter (· ≠ .hide))) else none := by
    rw [viewComment?, ho]
    rfl
  have hhide : effect? (Directive.commentStatement "FOREIGN TABLE" name [.hide]) =
      some (.description ⟨.foreignTable, name⟩ "@omit") :=
    effect?_commentStatement .foreignTable word [.hide]
  have hview := effect?_wrapping (allWord_remoteViewName word) name
  have hcomment : effect? (Directive.commentStatement "VIEW" (remoteViewName name)
      (shownDirectives o.directives)) =
      some (.description ⟨.view, remoteViewName name⟩
        (Directive.render (o.directives.filter (· ≠ .hide)))) :=
    effect?_commentStatement .view (allWord_remoteViewName word) _
  have hshown : (shownDirectives o.directives).isEmpty = true ↔ ¬ ∃ d ∈ o.directives, d ≠ .hide := by
    simp [shownDirectives]
  rw [viewsOf_of_find? ho, viewStatements, viewEffects, htext]
  by_cases hsome : ∃ d ∈ o.directives, d ≠ .hide
  · rw [if_neg (by rwa [hshown, not_not]), if_pos hsome]
    simp [hhide, hview, hcomment]
  · rw [if_pos (hshown.mpr hsome), if_neg hsome]
    simp [hhide, hview]

theorem viewsOf_flatMap_effects (word : ∀ name ∈ names, AllWord name.toList)
    (present : ∀ name ∈ names, name ∈ c.names) :
    (names.flatMap (viewsOf c)).map effect? = (names.flatMap (viewEffects c)).map some := by
  rw [List.map_flatMap, List.map_flatMap]
  exact List.flatMap_congr fun name hname => viewsOf_effects (word name hname) (present name hname)

/-- **What it amounts to to show an object:** a view of its foreign table, and comments on both. -/
theorem viewEffects_sum (c : Catalog) (name : String) :
    (viewEffects c name).flatMap Effect.created = [⟨.view, remoteViewName name⟩] ∧
      (viewEffects c name).flatMap Effect.removed = [] ∧
      (viewEffects c name).filterMap Effect.wrapped? = [(remoteViewName name, name)] ∧
      (viewEffects c name).filterMap Effect.comment? =
        (⟨.foreignTable, name⟩, "@omit") ::
          (viewComment? c name).toList.map (⟨.view, remoteViewName name⟩, ·) := by
  rw [viewEffects]
  cases viewComment? c name <;> exact ⟨rfl, rfl, rfl, rfl⟩

/-- A view is created over a table that is there, and the comments are put on the two. -/
theorem viewEffects_grounded {known : List Item} (imported : ⟨.foreignTable, name⟩ ∈ known) :
    Grounded known (viewEffects c name) := by
  rw [viewEffects]
  cases viewComment? c name <;> simp [Grounded, Effect.uses, Effect.created, imported]

theorem viewEffects_flatMap_grounded {known : List Item}
    (imported : ∀ name ∈ names, ⟨.foreignTable, name⟩ ∈ known) :
    Grounded known (names.flatMap (viewEffects c)) := by
  induction names generalizing known with
  | nil => trivial
  | cons name names ih =>
    have hname := imported name List.mem_cons_self
    rw [List.flatMap_cons]
    exact grounded_append.mpr ⟨viewEffects_grounded hname, ih fun n hn =>
      List.mem_append_left _ (imported n (List.mem_cons_of_mem name hn))⟩

/-! ## Removal -/

/-- What removes the published statistics, the last of them first. -/
def removalEffects : List Effect :=
  publishedNames.reverse.map (fun name => .removal [⟨.view, remoteViewName name⟩])
  ++ publishedNames.reverse.map (fun name => .removal [⟨.foreignTable, name⟩])
  ++ [.removal [⟨.userMapping, serverName⟩], .removal [⟨.server, serverName⟩],
      .removal [⟨.extension, extensionName⟩]]

/-- **What the statements do that remove the published statistics.** -/
theorem dropStatements_effects : dropStatements.map effect? = removalEffects.map some := by
  have hviews : ∀ name ∈ publishedNames.reverse,
      effect? ("DROP VIEW IF EXISTS " ++ remoteViewName name) =
        some (.removal [⟨.view, remoteViewName name⟩]) := fun name hname =>
    effect?_removal .view (allWord_remoteViewName (allWord_publishedNames name (List.mem_reverse.mp hname)))
  have htables : ∀ name ∈ publishedNames.reverse,
      effect? ("DROP FOREIGN TABLE IF EXISTS " ++ name) = some (.removal [⟨.foreignTable, name⟩]) :=
    fun name hname =>
      effect?_removal .foreignTable (allWord_publishedNames name (List.mem_reverse.mp hname))
  have hmapping : effect? ("DROP USER MAPPING IF EXISTS FOR CURRENT_USER SERVER " ++ serverName) =
      some (.removal [⟨.userMapping, serverName⟩]) := effect?_removal .userMapping (by decide)
  have hserver : effect? ("DROP SERVER IF EXISTS " ++ serverName) =
      some (.removal [⟨.server, serverName⟩]) := effect?_removal .server (by decide)
  have hextension : effect? ("DROP EXTENSION IF EXISTS " ++ extensionName) =
      some (.removal [⟨.extension, extensionName⟩]) := effect?_removal .extension (by decide)
  simp only [dropStatements, removalEffects, List.map_append, List.map_map, List.map_cons, List.map_nil,
    hmapping, hserver, hextension]
  exact congrArg₂ _ (congrArg₂ _ (List.map_congr_left hviews) (List.map_congr_left htables)) rfl

/-! ## Main result -/

/-- **What it means to republish statistics:** the statements `installed` create all objects that it takes,
    and the statements `removed` mirror them. -/
structure Republishes (c : Catalog) (installed removed : List Effect) : Prop where
  /-- The objects that it takes, in the order in which they depend on each other. -/
  created : installed.flatMap Effect.created =
    [⟨.extension, extensionName⟩, ⟨.server, serverName⟩, ⟨.userMapping, serverName⟩] ++
      publishedNames.map (⟨.foreignTable, ·⟩) ++
      publishedNames.map (fun name => ⟨.view, remoteViewName name⟩)
  once : (installed.flatMap Effect.created).Nodup
  /-- What is created is removed, the last first. -/
  mirrored : removed.flatMap Effect.removed = (installed.flatMap Effect.created).reverse
  /-- Nothing is removed by the installation, nothing is created by the removal. -/
  apart : installed.flatMap Effect.removed = [] ∧ removed.flatMap Effect.created = []
  /-- Each view shows the table of its name. -/
  wrapped : installed.filterMap Effect.wrapped? =
    publishedNames.map fun name => (remoteViewName name, name)
  /-- Each table is hidden, and its view carries the directives of the catalog. -/
  comments : installed.filterMap Effect.comment? =
    publishedNames.flatMap fun name =>
      (⟨.foreignTable, name⟩, "@omit") ::
        (viewComment? c name).toList.map (⟨.view, remoteViewName name⟩, ·)
  /-- Views and comments come after the objects that they are about. -/
  grounded : Grounded [] installed

theorem republishes (c : Catalog) :
    Republishes c (connectionEffects ++ publishedNames.flatMap (viewEffects c)) removalEffects := by
  have hsum (name : String) := viewEffects_sum c name
  have hcreated : (connectionEffects ++ publishedNames.flatMap (viewEffects c)).flatMap Effect.created =
      [⟨.extension, extensionName⟩, ⟨.server, serverName⟩, ⟨.userMapping, serverName⟩] ++
        publishedNames.map (⟨.foreignTable, ·⟩) ++
        publishedNames.map (fun name => ⟨.view, remoteViewName name⟩) := by
    rw [List.flatMap_append, List.flatMap_assoc]
    simp only [(hsum _).1, ← List.map_eq_flatMap]
    rfl
  refine ⟨hcreated, ?_, ?_, ⟨?_, by decide +kernel⟩, ?_, ?_, ?_⟩
  · rw [hcreated]
    decide +kernel
  · rw [hcreated]
    decide +kernel
  · rw [List.flatMap_append, List.flatMap_assoc]
    simp only [(hsum _).2.1]
    decide +kernel
  · rw [List.filterMap_append, List.filterMap_flatMap]
    simp only [(hsum _).2.2.1, ← List.map_eq_flatMap]
    rfl
  · rw [List.filterMap_append, List.filterMap_flatMap]
    simp only [(hsum _).2.2.2]
    rfl
  · refine grounded_append.mpr ⟨by simp [Grounded, connectionEffects, Effect.uses], ?_⟩
    refine viewEffects_flatMap_grounded fun name hname => ?_
    simp [connectionEffects, Effect.created, hname]

/-- **The published statistics are installed completely, and their removal is the mirror of it,** for every
    publisher and every catalog. There is no installation exactly if a published object is not in the catalog,
    and the first of those is reported. -/
theorem createStatements_mirrored (publisher : Publisher) (c : Catalog) :
    (∀ error, createStatements publisher c = .error error ↔
      ∃ before name after, publishedNames = before ++ name :: after ∧
        (∀ other ∈ before, other ∈ c.names) ∧ name ∉ c.names ∧
        error = .catalog ("published object " ++ name ++ " is not in the catalog")) ∧
    ((∀ name ∈ publishedNames, name ∈ c.names) → ∃ statements installed removed,
      createStatements publisher c = .ok statements ∧
      statements.map effect? = installed.map some ∧ dropStatements.map effect? = removed.map some ∧
      Republishes c installed removed) := by
  constructor
  · intro error
    rw [createStatements_eq]
    constructor
    · intro h
      cases hmissing : c.missing? publishedNames with
      | none =>
        rw [hmissing] at h
        cases h
      | some name =>
        rw [hmissing] at h
        obtain ⟨before, after, hnames, hbefore, habsent⟩ := missing?_eq_some_iff.mp hmissing
        exact ⟨before, name, after, hnames, hbefore, habsent, (Except.error.inj h).symm⟩
    · rintro ⟨before, name, after, hnames, hbefore, habsent, rfl⟩
      rw [missing?_eq_some_iff.mpr ⟨before, after, hnames, hbefore, habsent⟩]
  · intro complete
    refine ⟨connectionStatements publisher ++ publishedNames.flatMap (viewsOf c), _, _, ?_, ?_,
      dropStatements_effects, republishes c⟩
    · rw [createStatements_eq, missing?_eq_none complete]
    · rw [List.map_append, List.map_append, connectionStatements_effects,
        viewsOf_flatMap_effects allWord_publishedNames complete]

/-- The schema has all published objects, and the view of the dashboard gets its comment. -/
theorem createStatements_mirrored_full :
    (∀ name ∈ publishedNames, name ∈ Catalog.full.names) ∧
      ∃ (statements : List String) (installed removed : List Effect),
      createStatements ⟨"publisher", 5432, "explorer", "reader", "it's"⟩ Catalog.full = .ok statements ∧
      statements.map effect? = installed.map some ∧ dropStatements.map effect? = removed.map some ∧
      removed.flatMap Effect.removed = (installed.flatMap Effect.created).reverse ∧
      (⟨.view, "statistic_dashboard_remote_view"⟩, "@name dashboardStat") ∈
        installed.filterMap Effect.comment? := by
  have hcomment : viewComment? .full "statistic_dashboard" = some "@name dashboardStat" := by
    decide +kernel
  obtain ⟨statements, installed, removed, hcreate, hinstalled, hremoved, h⟩ :=
    (createStatements_mirrored ⟨"publisher", 5432, "explorer", "reader", "it's"⟩ .full).2 full_publishes
  refine ⟨full_publishes, statements, installed, removed, hcreate, hinstalled, hremoved, h.mirrored, ?_⟩
  rw [h.comments]
  refine List.mem_flatMap.mpr ⟨"statistic_dashboard", List.mem_cons_self, ?_⟩
  rw [hcomment]
  exact List.mem_cons_of_mem _ List.mem_cons_self

end StatSchema.Publication
