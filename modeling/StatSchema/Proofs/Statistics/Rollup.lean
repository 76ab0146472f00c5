import StatSchema.Proofs.Text.Cuts
import StatSchema.Proofs.Text.Reading
import StatSchema.Statistics.Earnings

/-!
# `StatSchema.Proofs.Statistics.Rollup` — the branches of a rollup line up

`UNION ALL` matches the columns of its branches by their position, so a branch in which a column is missing,
doubled or in another place would add one statistic to another. The query of a rollup is written as text.
Here it is shown to be the text of a query whose parts can be looked at, and in this query the branches line
up. Where all names are words the text can be read back, so no other query has it.

## Contents
- **Queries.** `Item`, `Branch`, `Output`, `Query` and their text.
- **Alignment.** `Query.Aligned`; `queryOf`, the query for some sources: `queryOf_text`, `queryOf_aligned`.
- **Lines.** `gather`: what is read of each line; `read_parts`, `readOutput?_text`, `readBranch?_text`.
- **Reading.** `Query.read`, `Query.read_text`, `Query.text_injective`.
- **Main result.** `rollup_aligned`.
-/

namespace StatSchema.Statistics.Rollup

open Text (IsWord Gap readWords)

/-! ## Queries -/

/-- What a branch selects for a column: the column of its view, or zero under the name of the column. -/
inductive Item where
  | bare (column : String)
  | zero (column : String)
  deriving DecidableEq, Repr

namespace Item

def column : Item → String
  | .bare column | .zero column => column

def text : Item → String
  | .bare column => column
  | .zero column => "0 AS " ++ column

end Item

/-- A branch selects the public key and its items from a view. -/
structure Branch where
  items : List Item
  view : String
  deriving DecidableEq, Repr

def Branch.text (b : Branch) : String :=
  "    SELECT public_key, " ++ ", ".intercalate (b.items.map (·.text)) ++ " FROM " ++ b.view

/-- A column of the result: the sum over some columns of the branches, under a name. -/
structure Output where
  terms : List String
  name : String
  deriving DecidableEq, Repr

def Output.text (o : Output) : String :=
  "COALESCE(SUM(" ++ " + ".intercalate o.terms ++ "), 0) AS " ++ o.name

/-- A query that sums the rows of its branches for each public key. -/
structure Query where
  outputs : List Output
  branches : List Branch
  deriving DecidableEq, Repr

def Query.text (q : Query) : String :=
  "SELECT public_key,\n    " ++ ",\n    ".intercalate (q.outputs.map (·.text)) ++ "\nFROM (\n"
    ++ "\n    UNION ALL\n".intercalate (q.branches.map (·.text))
    ++ "\n) leaves\nGROUP BY public_key"

/-! ## Alignment -/

/-- **The query lines up the columns of the sources.** -/
structure Query.Aligned (sources : List Source) (total : Option String) (q : Query) : Prop where
  /-- There is one branch for each source, in order. -/
  views : q.branches.map (·.view) = sources.map (·.view)
  /-- Every branch selects the columns of all sources, in one order. -/
  columns : ∀ b ∈ q.branches, b.items.map (·.column) = columns sources
  /-- In the branch of a source its own columns stand bare, and those before and after them are zero. -/
  own : ∀ before source after, sources = before ++ source :: after →
    q.branches[before.length]?.map (·.items) =
      some ((Rollup.columns before).map .zero ++
        (source.columns.map .bare ++ (Rollup.columns after).map .zero))
  /-- Each of these columns is summed, in the same order, and then all of them if that has a name. -/
  outputs : q.outputs = (Rollup.columns sources).map (fun column => ⟨[column], column⟩) ++
    total.toList.map fun name => ⟨Rollup.columns sources, name⟩

/-- What the branch of a source selects for a column. -/
def Source.item (source : Source) (column : String) : Item :=
  if column ∈ source.columns then .bare column else .zero column

/-- The query for the sources. -/
def queryOf (sources : List Source) (total : Option String) : Query where
  outputs := (columns sources).map (fun column => ⟨[column], column⟩) ++
    total.toList.map fun name => ⟨columns sources, name⟩
  branches := sources.map fun source => ⟨(columns sources).map source.item, source.view⟩

section QueryOf

variable {sources before after : List Source} {source : Source} {total : Option String}

theorem item_text (source : Source) (column : String) :
    (source.item column).text = select source.columns column := by
  unfold Source.item select
  split <;> rfl

theorem item_column (source : Source) (column : String) : (source.item column).column = column := by
  unfold Source.item
  split <;> rfl

theorem output_text (column : String) :
    Output.text ⟨[column], column⟩ = s!"COALESCE(SUM({column}), 0) AS {column}" := by
  unfold Output.text
  rw [String.intercalate_singleton]
  rfl

theorem branch_text (columns : List String) (source : Source) :
    Branch.text ⟨columns.map source.item, source.view⟩ = branch columns source := by
  have hitems : (columns.map source.item).map (·.text) = columns.map (select source.columns) := by
    rw [List.map_map]
    exact List.map_congr_left fun column _ => item_text source column
  unfold Branch.text branch selection
  rw [hitems]

/-- **The text of a rollup is that of the query for its sources.** -/
theorem queryOf_text (sources : List Source) (total : Option String) :
    (queryOf sources total).text = rollup sources total := by
  have houtputs : (queryOf sources total).outputs.map (·.text) = sums (columns sources) total := by
    rw [queryOf, sums, List.map_append, List.map_map, List.map_map]
    exact congrArg (· ++ _) (List.map_congr_left fun column _ => output_text column)
  have hbranches :
      (queryOf sources total).branches.map (·.text) = sources.map (branch (columns sources)) := by
    rw [queryOf, List.map_map]
    exact List.map_congr_left fun source _ => branch_text (columns sources) source
  unfold Query.text rollup
  rw [houtputs, hbranches]

/-- Where no column occurs twice, a source has its columns to itself. -/
theorem map_item_columns (distinct : (columns (before ++ source :: after)).Nodup) :
    (columns (before ++ source :: after)).map source.item =
      (columns before).map .zero ++ (source.columns.map .bare ++ (columns after).map .zero) := by
  have hcolumns : columns (before ++ source :: after) =
      columns before ++ (source.columns ++ columns after) := by
    rw [columns, List.flatMap_append, List.flatMap_cons]
    rfl
  rw [hcolumns] at distinct ⊢
  -- Neither the columns before nor those after it can be the source's own.
  obtain ⟨-, hrest, hbefore⟩ := List.nodup_append.mp distinct
  obtain ⟨-, -, hafter⟩ := List.nodup_append.mp hrest
  have hown : ∀ column ∈ source.columns, source.item column = .bare column :=
    fun column hcolumn => if_pos hcolumn
  have hother {others : List String} (apart : ∀ column ∈ others, column ∉ source.columns) :
      others.map source.item = others.map .zero :=
    List.map_congr_left fun column hcolumn => if_neg (apart column hcolumn)
  rw [List.map_append, List.map_append, List.map_congr_left hown, hother, hother]
  · exact fun column hcolumn h => hafter column h column hcolumn rfl
  · exact fun column hcolumn h => hbefore column hcolumn column (List.mem_append_left _ h) rfl

theorem queryOf_aligned (distinct : (columns sources).Nodup) (total : Option String) :
    (queryOf sources total).Aligned sources total where
  views := by
    rw [queryOf, List.map_map]
    rfl
  columns := by
    intro b hb
    obtain ⟨source, -, rfl⟩ := List.mem_map.mp hb
    rw [List.map_map]
    exact (List.map_congr_left fun column _ => item_column source column).trans (List.map_id _)
  own := by
    rintro before source after rfl
    simp [queryOf, map_item_columns distinct]
  outputs := rfl

end QueryOf

/-! ## Lines -/

/-- What `f` reads of the lines of a text. -/
def gather {β : Type} (f : List Char → Option β) (text : List Char) : List β :=
  (text.splitOn '\n').filterMap f

/-- The output of a line, by its words. -/
def readOutput? (line : List Char) : Option Output :=
  match readWords line with
  | "COALESCE" :: "SUM" :: rest =>
    match rest.reverse with
    | name :: "AS" :: "0" :: terms => some ⟨terms.reverse, name⟩
    | _ => none
  | _ => none

/-- What is selected by some words. -/
def readItem? : List String → Option Item
  | [column] => some (.bare column)
  | ["0", "AS", column] => some (.zero column)
  | _ => none

/-- What is selected between the commas of a text. -/
def readItems (text : List Char) : List Item :=
  (text.splitOn ',').filterMap fun part => readItem? (readWords part)

/-- The branch of a line: it ends with the view, and before that with a word that ends the items. -/
def readBranch? (line : List Char) : Option Branch := do
  let rest ← Text.dropLeading? "    SELECT public_key,".toList line
  let (rest, view) ← Text.cutLast ' ' rest
  let (items, _) ← Text.cutLast ' ' rest
  some ⟨readItems items, String.ofList view⟩

/-- The items as they stand in the line of a branch. -/
def itemPart (items : List Item) : List Char :=
  ' ' :: (", ".intercalate (items.map (·.text))).toList

/-- The outputs as they stand in the text of a query. -/
def outputPart (outputs : List Output) : List Char :=
  "    ".toList ++ (",\n    ".intercalate (outputs.map (·.text))).toList

/-- The branches as they stand in the text of a query. -/
def branchPart (branches : List Branch) : List Char :=
  ("\n    UNION ALL\n".intercalate (branches.map (·.text))).toList

/-- A text with a part for each of some things is read as these, if its parts are read by themselves. -/
theorem read_parts {α β : Type} {read : List Char → List β} {text : List α → List Char}
    (g : α → Option β) {things : List α} (nil : read (text []) = [])
    (single : ∀ a ∈ things, read (text [a]) = (g a).toList)
    (cons : ∀ a ∈ things, ∀ next rest,
      read (text (a :: next :: rest)) = (g a).toList ++ read (text (next :: rest))) :
    read (text things) = things.filterMap g := by
  induction things with
  | nil => exact nil
  | cons a things ih =>
    have hfilter : (a :: things).filterMap g = (g a).toList ++ things.filterMap g := by
      cases h : g a <;> simp [h]
    rw [hfilter]
    cases things with
    | nil =>
      rw [single a List.mem_cons_self, List.filterMap_nil, List.append_nil]
    | cons next rest =>
      have hrest := ih (fun b hb => single b (List.mem_cons_of_mem a hb))
        fun b hb => cons b (List.mem_cons_of_mem a hb)
      rw [cons a List.mem_cons_self, hrest]

namespace Item

variable {item : Item} {items : List Item} {c : Char}

theorem readItem?_text (word : IsWord item.column) :
    readItem? (readWords (' ' :: item.text.toList)) = some item := by
  rw [Text.readWords_other (by decide)]
  cases item with
  | bare column =>
    have hword : IsWord column := word
    rw [text, Text.readWords_single hword]
    rfl
  | zero column =>
    have hword : IsWord column := word
    have hshape : ("0 AS " ++ column).toList = "0 AS".toList ++ ' ' :: column.toList := by
      simp
    have hopening : readWords "0 AS".toList = ["0", "AS"] := by decide
    rw [text, hshape, Text.readWords_parted (by decide), hopening, Text.readWords_single hword]
    rfl

theorem notMem_text (word : IsWord item.column) (hc : Text.isWordChar c = false)
    (free : c ∉ "0 AS ".toList) : c ∉ item.text.toList := by
  cases item with
  | bare column => exact Text.notMem_word word hc
  | zero column =>
    rw [text, String.toList_append, List.mem_append, not_or]
    exact ⟨free, Text.notMem_word word hc⟩

theorem itemPart_cons (item next : Item) (items : List Item) :
    itemPart (item :: next :: items) =
      (' ' :: item.text.toList) ++ ',' :: itemPart (next :: items) := by
  have hseparator : ", ".toList = [',', ' '] := by rfl
  unfold itemPart
  rw [List.map_cons, List.map_cons, String.intercalate_cons_cons]
  simp [hseparator]

/-- **The items of a branch are read back**, part by part between the commas. -/
theorem readItems_itemPart (h : ∀ item ∈ items, IsWord item.column) :
    readItems (itemPart items) = items := by
  have hfree : ∀ item ∈ items, ',' ∉ ' ' :: item.text.toList := fun item hi =>
    List.not_mem_cons_of_ne_of_not_mem (by decide) (notMem_text (h item hi) (by decide) (by decide))
  have hparts : readItems (itemPart items) = items.filterMap some := by
    refine read_parts some rfl (fun item hi => ?single) fun item hi next rest => ?cons
    case single =>
      rw [itemPart, List.map_singleton, String.intercalate_singleton, readItems,
        List.splitOn_eq_singleton (hfree item hi)]
      simp [readItem?_text (h item hi)]
    case cons =>
      -- The commas in the text are those between the items, so the first one ends this item.
      rw [itemPart_cons, readItems, List.splitOn_append_cons_self_of_not_mem (hfree item hi),
        List.filterMap_cons, readItem?_text (h item hi)]
      rfl
  rw [hparts, List.filterMap_some]

end Item

namespace Branch

variable {b : Branch}

theorem text_toList (b : Branch) :
    b.text.toList = "    SELECT public_key,".toList ++
      (itemPart b.items ++ ' ' :: ("FROM".toList ++ ' ' :: b.view.toList)) := by
  have hopening : "    SELECT public_key, ".toList = "    SELECT public_key,".toList ++ [' '] := by rfl
  have hfrom : " FROM ".toList = ' ' :: ("FROM".toList ++ [' ']) := by rfl
  unfold text itemPart
  simp only [String.toList_append, hopening, hfrom, List.append_assoc, List.cons_append,
    List.nil_append]

/-- **The line of a branch is read back.** -/
theorem readBranch?_text (items : ∀ item ∈ b.items, IsWord item.column) (view : IsWord b.view) :
    readBranch? b.text.toList = some b := by
  have hdrop := Text.dropLeading?_eq_some_iff.mpr (text_toList b)
  have hview : Text.cutLast ' ' (itemPart b.items ++ ' ' :: ("FROM".toList ++ ' ' :: b.view.toList)) =
      some (itemPart b.items ++ ' ' :: "FROM".toList, b.view.toList) :=
    Text.cutLast_eq_some_iff.mpr ⟨by simp, Text.notMem_word view (by decide)⟩
  have hitems : Text.cutLast ' ' (itemPart b.items ++ ' ' :: "FROM".toList) =
      some (itemPart b.items, "FROM".toList) :=
    Text.cutLast_eq_some_iff.mpr ⟨rfl, by decide⟩
  simp only [readBranch?, hdrop, hview, hitems, Item.readItems_itemPart items, String.ofList_toList,
    Option.bind_eq_bind, Option.bind_some]

theorem readOutput?_text (b : Branch) : readOutput? b.text.toList = none := by
  have hopening : readWords "    SELECT public_key".toList = ["SELECT", "public_key"] := by decide
  have hcomma : "    SELECT public_key,".toList = "    SELECT public_key".toList ++ [','] := by rfl
  rw [readOutput?, text_toList, hcomma, List.append_assoc, List.singleton_append,
    Text.readWords_parted (by decide), hopening]
  rfl

/-- A branch is one line. -/
theorem newline_notMem_text (items : ∀ item ∈ b.items, IsWord item.column) (view : IsWord b.view) :
    '\n' ∉ b.text.toList := by
  have hitems : '\n' ∉ (", ".intercalate (b.items.map (·.text))).toList := by
    refine Text.notMem_intercalate (fun part hpart => ?_) (by decide)
    obtain ⟨item, hitem, rfl⟩ := List.mem_map.mp hpart
    exact Item.notMem_text (items item hitem) (by decide) (by decide)
  have hview : '\n' ∉ b.view.toList := Text.notMem_word view (by decide)
  unfold text
  simp only [String.toList_append, List.mem_append, not_or]
  exact ⟨⟨⟨by decide, hitems⟩, by decide⟩, hview⟩

theorem branchPart_cons (b next : Branch) (branches : List Branch) :
    branchPart (b :: next :: branches) =
      b.text.toList ++ '\n' :: ("    UNION ALL".toList ++ '\n' :: branchPart (next :: branches)) := by
  have hseparator : "\n    UNION ALL\n".toList = '\n' :: ("    UNION ALL".toList ++ ['\n']) := by rfl
  unfold branchPart
  rw [List.map_cons, List.map_cons, String.intercalate_cons_cons]
  simp only [String.toList_append, hseparator, List.append_assoc, List.cons_append, List.nil_append]

end Branch

namespace Output

variable {o : Output} {tail : List Char}

theorem text_toList (o : Output) (tail : List Char) :
    "    ".toList ++ (o.text.toList ++ tail) = "    COALESCE(SUM".toList ++
      '(' :: ((" + ".intercalate o.terms).toList ++
        ')' :: (", 0) AS".toList ++ ' ' :: (o.name.toList ++ tail))) := by
  have hopening (rest : List Char) : "    ".toList ++ ("COALESCE(SUM(".toList ++ rest) =
      "    COALESCE(SUM".toList ++ '(' :: rest := by rfl
  have hclosing : "), 0) AS ".toList = ')' :: (", 0) AS".toList ++ [' ']) := by rfl
  unfold text
  simp only [String.toList_append, hopening, hclosing, List.append_assoc, List.cons_append,
    List.nil_append]

/-- **The line of an output is read back,** with or without a comma behind it. -/
theorem readOutput?_text (terms : ∀ term ∈ o.terms, IsWord term) (name : IsWord o.name)
    (gap : Gap tail) : readOutput? ("    ".toList ++ (o.text.toList ++ tail)) = some o := by
  have hopening : readWords "    COALESCE(SUM".toList = ["COALESCE", "SUM"] := by decide
  have hclosing : readWords ", 0) AS".toList = ["0", "AS"] := by decide
  have hwords : readWords ("    ".toList ++ (o.text.toList ++ tail)) =
      "COALESCE" :: "SUM" :: (o.terms ++ ["0", "AS", o.name]) := by
    rw [text_toList, Text.readWords_parted (by decide), Text.readWords_parted (by decide),
      Text.readWords_parted (by decide), hopening, hclosing,
      Text.readWords_all " + " (by decide) (by decide) terms, Text.readWords_ended name gap]
    rfl
  unfold readOutput?
  rw [hwords]
  simp

theorem readBranch?_text (o : Output) (tail : List Char) :
    readBranch? ("    ".toList ++ (o.text.toList ++ tail)) = none := by
  rw [text_toList]
  rfl

/-- An output is one line. -/
theorem newline_notMem_text (terms : ∀ term ∈ o.terms, IsWord term) (name : IsWord o.name) :
    '\n' ∉ o.text.toList := by
  have hterms : '\n' ∉ (" + ".intercalate o.terms).toList :=
    Text.notMem_joined terms (by decide) (by decide)
  have hname : '\n' ∉ o.name.toList := Text.notMem_word name (by decide)
  unfold text
  simp only [String.toList_append, List.mem_append, not_or]
  exact ⟨⟨⟨by decide, hterms⟩, by decide⟩, hname⟩

theorem outputPart_cons (o next : Output) (outputs : List Output) :
    outputPart (o :: next :: outputs) =
      ("    ".toList ++ (o.text.toList ++ [','])) ++ '\n' :: outputPart (next :: outputs) := by
  have hseparator : ",\n    ".toList = ',' :: '\n' :: "    ".toList := by rfl
  unfold outputPart
  rw [List.map_cons, List.map_cons, String.intercalate_cons_cons]
  simp only [String.toList_append, hseparator, List.append_assoc, List.cons_append, List.nil_append]

end Output

section Gather

variable {β : Type} {f : List Char → Option β}

theorem gather_parted (text rest : List Char) :
    gather f (text ++ '\n' :: rest) = gather f text ++ gather f rest := by
  rw [gather, List.splitOn_append_cons_self, List.filterMap_append]
  rfl

theorem gather_line {line : List Char} (free : '\n' ∉ line) : gather f line = (f line).toList := by
  rw [gather, List.splitOn_eq_singleton free]
  cases h : f line <;> simp [h]

theorem gather_skipped {line : List Char} (free : '\n' ∉ line) (skipped : f line = none) :
    gather f line = [] := by
  rw [gather_line free, skipped]
  rfl

/-- The lines of the outputs are read one by one. -/
theorem gather_outputPart (g : Output → Option β) {outputs : List Output}
    (blank : f "    ".toList = none) (free : ∀ o ∈ outputs, '\n' ∉ o.text.toList)
    (line : ∀ o ∈ outputs, ∀ tail, Gap tail → f ("    ".toList ++ (o.text.toList ++ tail)) = g o) :
    gather f (outputPart outputs) = outputs.filterMap g := by
  -- Behind the last output there is nothing, behind every other one a comma.
  have hline (o : Output) (ho : o ∈ outputs) (tail : List Char) (gap : Gap tail)
      (hfree : '\n' ∉ tail) : gather f ("    ".toList ++ (o.text.toList ++ tail)) = (g o).toList := by
    have hnewline : '\n' ∉ "    ".toList ++ (o.text.toList ++ tail) := by
      simp only [List.mem_append, not_or]
      exact ⟨by decide, free o ho, hfree⟩
    rw [gather_line hnewline, line o ho tail gap]
  refine read_parts g (gather_skipped (by decide) blank) (fun o ho => ?single) fun o ho next rest => ?cons
  case single =>
    have hlast := hline o ho [] (by decide) (by decide)
    rw [List.append_nil] at hlast
    rw [outputPart, List.map_singleton, String.intercalate_singleton, hlast]
  case cons =>
    rw [Output.outputPart_cons, gather_parted, hline o ho [','] (by decide) (by decide)]

/-- The lines of the branches are read one by one. -/
theorem gather_branchPart (g : Branch → Option β) {branches : List Branch} (empty : f [] = none)
    (union : f "    UNION ALL".toList = none) (free : ∀ b ∈ branches, '\n' ∉ b.text.toList)
    (line : ∀ b ∈ branches, f b.text.toList = g b) :
    gather f (branchPart branches) = branches.filterMap g := by
  have hline (b : Branch) (hb : b ∈ branches) : gather f b.text.toList = (g b).toList := by
    rw [gather_line (free b hb), line b hb]
  refine read_parts g (gather_skipped (by decide) empty) (fun b hb => ?single) fun b hb next rest => ?cons
  case single =>
    rw [branchPart, List.map_singleton, String.intercalate_singleton, hline b hb]
  case cons =>
    rw [Branch.branchPart_cons, gather_parted, gather_parted, hline b hb,
      gather_skipped (by decide) union]
    rfl

end Gather

/-! ## Reading -/

namespace Query

variable {q q' : Query}

/-- All names in the query are words. -/
structure Worded (q : Query) : Prop where
  outputs : ∀ o ∈ q.outputs, (∀ term ∈ o.terms, IsWord term) ∧ IsWord o.name
  branches : ∀ b ∈ q.branches, (∀ item ∈ b.items, IsWord item.column) ∧ IsWord b.view

/-- The query of a text: its outputs and its branches are the lines that can be read as such. -/
def read (text : String) : Query where
  outputs := gather readOutput? text.toList
  branches := gather readBranch? text.toList

theorem text_toList (q : Query) :
    q.text.toList = "SELECT public_key,".toList ++ '\n' :: (outputPart q.outputs ++
      '\n' :: ("FROM (".toList ++ '\n' :: (branchPart q.branches ++
        '\n' :: (") leaves".toList ++ '\n' :: "GROUP BY public_key".toList)))) := by
  have hopening : "SELECT public_key,\n    ".toList =
      "SELECT public_key,".toList ++ '\n' :: "    ".toList := by rfl
  have hfrom : "\nFROM (\n".toList = '\n' :: ("FROM (".toList ++ ['\n']) := by rfl
  have hclosing : "\n) leaves\nGROUP BY public_key".toList =
      '\n' :: (") leaves".toList ++ '\n' :: "GROUP BY public_key".toList) := by rfl
  unfold text outputPart branchPart
  simp only [String.toList_append, hopening, hfrom, hclosing, List.append_assoc, List.cons_append,
    List.nil_append]

/-- Of the text of a query the lines of its outputs and its branches are read. -/
theorem gather_text {β : Type} {f : List Char → Option β}
    (selects : f "SELECT public_key,".toList = none) (opens : f "FROM (".toList = none)
    (closes : f ") leaves".toList = none) (groups : f "GROUP BY public_key".toList = none) (q : Query) :
    gather f q.text.toList = gather f (outputPart q.outputs) ++ gather f (branchPart q.branches) := by
  have hselects : gather f "SELECT public_key,".toList = [] := gather_skipped (by decide) selects
  have hopens : gather f "FROM (".toList = [] := gather_skipped (by decide) opens
  have hcloses : gather f ") leaves".toList = [] := gather_skipped (by decide) closes
  have hgroups : gather f "GROUP BY public_key".toList = [] := gather_skipped (by decide) groups
  rw [text_toList, gather_parted, gather_parted, gather_parted, gather_parted, gather_parted,
    hselects, hopens, hcloses, hgroups]
  simp

/-- **A query of words is read back.** Its outputs stand before its branches, and no line can be read as
    both. -/
theorem read_text (h : q.Worded) : read q.text = q := by
  have hfreeOutputs : ∀ o ∈ q.outputs, '\n' ∉ o.text.toList :=
    fun o ho => Output.newline_notMem_text (h.outputs o ho).1 (h.outputs o ho).2
  have hfreeBranches : ∀ b ∈ q.branches, '\n' ∉ b.text.toList :=
    fun b hb => Branch.newline_notMem_text (h.branches b hb).1 (h.branches b hb).2
  have houtputs : gather readOutput? q.text.toList = q.outputs := by
    rw [gather_text (by decide) (by decide) (by decide) (by decide),
      gather_outputPart some (by decide) hfreeOutputs,
      gather_branchPart (fun _ => none) (by decide) (by decide) hfreeBranches]
    · simp
    · exact fun b _ => b.readOutput?_text
    · exact fun o ho tail gap => Output.readOutput?_text (h.outputs o ho).1 (h.outputs o ho).2 gap
  have hbranches : gather readBranch? q.text.toList = q.branches := by
    rw [gather_text (by decide) (by decide) (by decide) (by decide),
      gather_outputPart (fun _ => none) (by decide) hfreeOutputs,
      gather_branchPart some (by decide) (by decide) hfreeBranches]
    · simp
    · exact fun b hb => Branch.readBranch?_text (h.branches b hb).1 (h.branches b hb).2
    · exact fun o _ tail _ => o.readBranch?_text tail
  rw [read, houtputs, hbranches]

/-- **A query of words is determined by its text.** -/
theorem text_injective (h : q.Worded) (h' : q'.Worded) (same : q.text = q'.text) : q = q' := by
  rw [← read_text h, ← read_text h', same]

end Query

/-! ## Main result -/

/-- The names of which the query for the sources is made. -/
def names (sources : List Source) (total : Option String) : List String :=
  sources.map (·.view) ++ (columns sources ++ total.toList)

theorem queryOf_worded {sources : List Source} {total : Option String}
    (h : ∀ name ∈ names sources total, IsWord name) : (queryOf sources total).Worded := by
  have hview : ∀ source ∈ sources, IsWord source.view := fun source hs =>
    h source.view (List.mem_append_left _ (List.mem_map_of_mem hs))
  have hcolumn : ∀ column ∈ columns sources, IsWord column := fun column hc =>
    h column (List.mem_append_right _ (List.mem_append_left _ hc))
  have htotal : ∀ name ∈ total.toList, IsWord name := fun name hn =>
    h name (List.mem_append_right _ (List.mem_append_right _ hn))
  refine ⟨fun o ho => ?outputs, fun b hb => ?branches⟩
  case outputs =>
    rcases List.mem_append.mp ho with ho | ho
    · obtain ⟨column, hc, rfl⟩ := List.mem_map.mp ho
      exact ⟨by simpa using hcolumn column hc, hcolumn column hc⟩
    · obtain ⟨name, hn, rfl⟩ := List.mem_map.mp ho
      exact ⟨hcolumn, htotal name hn⟩
  case branches =>
    obtain ⟨source, hs, rfl⟩ := List.mem_map.mp hb
    refine ⟨fun item hitem => ?_, hview source hs⟩
    obtain ⟨column, hc, rfl⟩ := List.mem_map.mp hitem
    rw [item_column]
    exact hcolumn column hc

/-- **The branches of a rollup line up.** Where no column occurs twice, its text is that of a query that has
    one branch for each source, in order, in which every branch selects all columns in one order, its own
    bare and the others as zero, and that sums each of them in this order, and all of them if a total is
    asked for. If the names are words, it is the text of no other query of words. -/
theorem rollup_aligned {sources : List Source} (distinct : (columns sources).Nodup)
    (total : Option String) :
    ∃ q : Query, q.text = rollup sources total ∧ q.Aligned sources total ∧
      ((∀ name ∈ names sources total, IsWord name) →
        ∀ other : Query, other.Worded → other.text = rollup sources total → other = q) := by
  refine ⟨queryOf sources total, queryOf_text sources total, queryOf_aligned distinct total, ?_⟩
  intro worded other hother same
  exact Query.text_injective hother (queryOf_worded worded) (same.trans (queryOf_text sources total).symm)

/-- The view of what profiles earned sums four columns of four views, and them all. -/
theorem rollup_aligned_earnings : (columns Earnings.sources).Nodup ∧
    (∀ name ∈ names Earnings.sources (some "total_earnings_nanos"), IsWord name) ∧
    ∃ q : Query, q.text = Earnings.earnings.body ∧
      q.Aligned Earnings.sources (some "total_earnings_nanos") ∧ q.branches.length = 4 ∧
      ∀ other : Query, other.Worded → other.text = Earnings.earnings.body → other = q := by
  have distinct : (columns Earnings.sources).Nodup := by decide
  have worded : ∀ name ∈ names Earnings.sources (some "total_earnings_nanos"), IsWord name := by
    decide
  obtain ⟨q, htext, haligned, honly⟩ := rollup_aligned distinct (some "total_earnings_nanos")
  have hlength : q.branches.length = 4 := by
    have hviews := congrArg List.length haligned.views
    rwa [List.length_map, List.length_map] at hviews
  exact ⟨distinct, worded, q, htext, haligned, hlength, honly worded⟩

end StatSchema.Statistics.Rollup
