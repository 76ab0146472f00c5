import StatSchema.Directive
import StatSchema.Proofs.Text.Literals
import StatSchema.Proofs.Text.Words

/-!
# `StatSchema.Proofs.Publication.Effects` — what a statement does to a subscriber's database

What a statement does is read off its text: the words with which it begins say what is done and to which
kind of object, then come the names of the objects, and a comment ends with its text as a literal. The
reader knows nothing about how the statements are composed, so it can compare those that install objects
with those that remove them.

## Contents
- **Names in a text.** `leadingNames`, `leadingNames_intercalate`; `nameThen?`, `nameThen?_append`.
- **Openings.** `Kind`, `Action`, `Opening`; `Opening.read?`, `Opening.read?_append`.
- **Effects.** `Item`, `Effect`, `effect?`, and its value for each form of statement.
- **Order.** `Grounded`: each effect finds the objects that it uses.
-/

namespace StatSchema.Publication

open Text

/-! ## Names in a text -/

/-- A list of names ends before `rest`: no name and no separator continues there. -/
def EndsNames (rest : List Char) : Prop :=
  rest.head?.all (fun c => !isWordChar c && c != ',') = true

instance (rest : List Char) : Decidable (EndsNames rest) :=
  inferInstanceAs (Decidable (_ = true))

theorem EndsNames.head {rest : List Char} (h : EndsNames rest) :
    ∀ c ∈ rest.head?, isWordChar c = false ∧ c ≠ ',' := by
  intro c hc
  simpa [EndsNames, Option.mem_def.mp hc] using h

theorem EndsNames.append {start : List Char} (h : EndsNames start) (nonempty : start ≠ [])
    (rest : List Char) : EndsNames (start ++ rest) := by
  obtain ⟨d, tail, rfl⟩ := List.exists_cons_of_ne_nil nonempty
  exact h

/-- A name ends where a character follows that is no word character. -/
theorem takeWhile_name {name rest : List Char} (word : AllWord name)
    (stop : ∀ c ∈ rest.head?, isWordChar c = false) :
    (name ++ rest).takeWhile isWordChar = name ∧ (name ++ rest).dropWhile isWordChar = rest := by
  rw [List.takeWhile_append_of_pos word, List.dropWhile_append_of_pos word]
  cases rest with
  | nil => exact ⟨List.append_nil name, rfl⟩
  | cons c cs =>
    have hc : ¬ isWordChar c = true := by simpa using stop c rfl
    rw [List.takeWhile_cons_of_neg hc, List.dropWhile_cons_of_neg hc]
    exact ⟨List.append_nil name, rfl⟩

theorem length_lt_of_dropWhile {text more : List Char}
    (h : text.dropWhile isWordChar = ',' :: ' ' :: more) : more.length < text.length := by
  have hle := (List.dropWhile_suffix (l := text) isWordChar).length_le
  rw [h, List.length_cons, List.length_cons] at hle
  omega

/-- The names of the list at the beginning of a text. -/
def leadingNames (text : List Char) : List String :=
  String.ofList (text.takeWhile isWordChar) ::
    match h : text.dropWhile isWordChar with
    | ',' :: ' ' :: more =>
      have := length_lt_of_dropWhile h
      leadingNames more
    | _ => []
termination_by text.length

theorem leadingNames_last {name : String} {rest : List Char} (word : AllWord name.toList)
    (ends : EndsNames rest) : leadingNames (name.toList ++ rest) = [name] := by
  obtain ⟨htake, hdrop⟩ := takeWhile_name word fun c hc => (ends.head c hc).1
  rw [leadingNames, htake, String.ofList_toList]
  split
  · next more h =>
    rw [hdrop] at h
    subst h
    exact absurd rfl (ends.head ',' rfl).2
  · rfl

theorem leadingNames_next {name : String} (word : AllWord name.toList) (more : List Char) :
    leadingNames (name.toList ++ ',' :: ' ' :: more) = name :: leadingNames more := by
  have stop : ∀ c ∈ (',' :: ' ' :: more).head?, isWordChar c = false := by
    rintro c ⟨⟩
    rfl
  obtain ⟨htake, hdrop⟩ := takeWhile_name word stop
  rw [leadingNames, htake, String.ofList_toList]
  split
  · next more' h =>
    rw [hdrop] at h
    cases h
    rfl
  · next other =>
    exact absurd hdrop (other more)

/-- **A joined list of names is read back.** -/
theorem leadingNames_intercalate {names : List String} (nonempty : names ≠ [])
    (word : ∀ name ∈ names, AllWord name.toList) {rest : List Char} (ends : EndsNames rest) :
    leadingNames ((", ".intercalate names).toList ++ rest) = names := by
  induction names with
  | nil => exact absurd rfl nonempty
  | cons name names ih =>
    have hname : AllWord name.toList := word name List.mem_cons_self
    cases names with
    | nil =>
      rw [String.intercalate_singleton]
      exact leadingNames_last hname ends
    | cons next names =>
      have hmore := ih (List.cons_ne_nil _ _) fun n hn => word n (List.mem_cons_of_mem name hn)
      rw [String.intercalate_cons_of_ne_nil (List.cons_ne_nil _ _), String.toList_append,
        String.toList_append, List.append_assoc, List.append_assoc]
      exact (leadingNames_next hname _).trans (congrArg (name :: ·) hmore)

/-- The name at the beginning of a text, and what follows the words `words` after it. -/
def nameThen? (words : String) (text : List Char) : Option (String × List Char) :=
  (dropLeading? words.toList (text.dropWhile isWordChar)).map
    (String.ofList (text.takeWhile isWordChar), ·)

theorem nameThen?_append {name words : String} (word : AllWord name.toList)
    (ends : EndsNames words.toList) (nonempty : words.toList ≠ []) (rest : List Char) :
    nameThen? words (name.toList ++ (words.toList ++ rest)) = some (name, rest) := by
  obtain ⟨htake, hdrop⟩ := takeWhile_name word fun c hc => ((ends.append nonempty rest).head c hc).1
  rw [nameThen?, htake, hdrop, dropLeading?_eq_some_iff.mpr rfl, String.ofList_toList]
  rfl

/-! ## Openings -/

/-- The kinds of objects on a subscriber's database. -/
inductive Kind where
  | extension
  | server
  | userMapping
  | foreignTable
  | view
  deriving DecidableEq, Repr

/-- What a statement can do to objects. -/
inductive Action where
  | create
  | remove
  | describe
  deriving DecidableEq, Repr

/-- The beginning of a statement says what it does, and to which kind of object. -/
structure Opening where
  action : Action
  kind : Kind
  deriving DecidableEq, Repr

/-- The name of the kind in SQL. -/
def Kind.sqlName : Kind → String
  | .extension => "EXTENSION"
  | .server => "SERVER"
  | .userMapping => "USER MAPPING"
  | .foreignTable => "FOREIGN TABLE"
  | .view => "VIEW"

/-- The words before the first name. Only an import creates foreign tables. -/
def Opening.words : Opening → String
  | ⟨.create, .extension⟩ => "CREATE EXTENSION IF NOT EXISTS "
  | ⟨.create, .server⟩ => "CREATE SERVER "
  | ⟨.create, .userMapping⟩ => "CREATE USER MAPPING FOR CURRENT_USER SERVER "
  | ⟨.create, .foreignTable⟩ => "IMPORT FOREIGN SCHEMA public LIMIT TO ("
  | ⟨.create, .view⟩ => "CREATE VIEW "
  | ⟨.remove, .userMapping⟩ => "DROP USER MAPPING IF EXISTS FOR CURRENT_USER SERVER "
  | ⟨.remove, kind⟩ => "DROP " ++ kind.sqlName ++ " IF EXISTS "
  | ⟨.describe, kind⟩ => "COMMENT ON " ++ kind.sqlName ++ " "

/-- All beginnings of statements. -/
def Opening.all : List Opening :=
  [.create, .remove, .describe].flatMap fun action =>
    [.extension, .server, .userMapping, .foreignTable, .view].map (⟨action, ·⟩)

theorem Opening.mem_all (o : Opening) : o ∈ all := by
  obtain ⟨action, kind⟩ := o
  cases action <;> cases kind <;> decide

/-- The beginning of a statement, and what follows it. -/
def Opening.read? (text : List Char) : Option (Opening × List Char) :=
  all.findSome? fun o => (dropLeading? o.words.toList text).map (o, ·)

/-- No beginning is the beginning of another one. -/
theorem Opening.words_prefixFree :
    ∀ o ∈ all, ∀ o' ∈ all, o.words.toList <+: o'.words.toList → o = o' := by
  decide +kernel

/-- **The beginning of a statement is unambiguous.** -/
theorem Opening.read?_append (o : Opening) (rest : List Char) :
    read? (o.words.toList ++ rest) = some (o, rest) := by
  cases hread : read? (o.words.toList ++ rest) with
  | none =>
    have hnone := List.findSome?_eq_none_iff.mp hread o (mem_all o)
    rw [dropLeading?_eq_some_iff.mpr rfl] at hnone
    cases hnone
  | some found =>
    obtain ⟨o', ho', hfound⟩ := List.exists_of_findSome?_eq_some hread
    obtain ⟨rest', hdrop, rfl⟩ := Option.map_eq_some_iff.mp hfound
    have htext : o.words.toList ++ rest = o'.words.toList ++ rest' := dropLeading?_eq_some_iff.mp hdrop
    have hsame : o = o' := by
      -- Both beginnings are beginnings of the same text, so one is the beginning of the other.
      rcases List.prefix_or_prefix_of_prefix ⟨rest, htext⟩ (List.prefix_append _ rest') with h | h
      · exact words_prefixFree o (mem_all o) o' ho' h
      · exact (words_prefixFree o' ho' o (mem_all o) h).symm
    subst hsame
    rw [List.append_cancel_left htext]

/-! ## Effects -/

/-- An object on the database. -/
structure Item where
  kind : Kind
  name : String
  deriving DecidableEq, Repr

/-- What a statement does. -/
inductive Effect where
  /-- These objects are created. -/
  | creation (items : List Item)
  /-- A view is created that shows a foreign table. -/
  | wrapping (view table : String)
  /-- These objects are removed. -/
  | removal (items : List Item)
  /-- An object gets a comment. -/
  | description (item : Item) (text : String)
  deriving DecidableEq, Repr

/-- What a statement does that begins in this way and goes on with `rest`, as far as it can be read. -/
def Opening.effect? : Opening → (rest : List Char) → Option Effect
  | ⟨.create, .view⟩, rest => do
    let (view, table) ← nameThen? " AS SELECT * FROM " rest
    return .wrapping view (String.ofList table)
  | ⟨.create, kind⟩, rest => some (.creation ((leadingNames rest).map (⟨kind, ·⟩)))
  | ⟨.remove, kind⟩, rest => some (.removal ((leadingNames rest).map (⟨kind, ·⟩)))
  | ⟨.describe, kind⟩, rest => do
    let (name, literal) ← nameThen? " IS " rest
    let (content, []) ← Literal.read literal | none
    return .description ⟨kind, name⟩ (String.ofList content)

/-- What the statement does, as far as it can be read. -/
def effect? (statement : String) : Option Effect :=
  (Opening.read? statement.toList).bind fun (o, rest) => o.effect? rest

/-- The objects that the effect creates. -/
def Effect.created : Effect → List Item
  | .creation items => items
  | .wrapping view _ => [⟨.view, view⟩]
  | .removal _ => []
  | .description _ _ => []

/-- The objects that the effect removes. -/
def Effect.removed : Effect → List Item
  | .creation _ => []
  | .wrapping _ _ => []
  | .removal items => items
  | .description _ _ => []

/-- The view that the effect creates, and the table that the view shows. -/
def Effect.wrapped? : Effect → Option (String × String)
  | .wrapping view table => some (view, table)
  | .creation _ => none
  | .removal _ => none
  | .description _ _ => none

/-- The object that the effect puts a comment on, and the comment. -/
def Effect.comment? : Effect → Option (Item × String)
  | .description item text => some (item, text)
  | .creation _ => none
  | .wrapping _ _ => none
  | .removal _ => none

variable {name : String} {names : List String} {rest : String}

/-- A statement is read by its beginning. -/
theorem effect?_of_words {o : Opening} {statement : String} {rest : List Char}
    (h : statement.toList = o.words.toList ++ rest) : effect? statement = o.effect? rest := by
  rw [effect?, h, Opening.read?_append]
  rfl

/-- A statement that creates the objects of a list of names. -/
theorem effect?_creation (kind : Kind) (notView : kind ≠ .view) (nonempty : names ≠ [])
    (word : ∀ name ∈ names, AllWord name.toList) (ends : EndsNames rest.toList) :
    effect? ((⟨.create, kind⟩ : Opening).words ++ (", ".intercalate names ++ rest)) =
      some (.creation (names.map (⟨kind, ·⟩))) := by
  rw [effect?_of_words String.toList_append, String.toList_append, Opening.effect?,
    leadingNames_intercalate nonempty word ends]
  exact notView

/-- A statement that removes an object. -/
theorem effect?_removal (kind : Kind) (word : AllWord name.toList) :
    effect? ((⟨.remove, kind⟩ : Opening).words ++ name) = some (.removal [⟨kind, name⟩]) := by
  have hname : leadingNames name.toList = [name] := by
    rw [← List.append_nil name.toList]
    exact leadingNames_last word (by decide)
  rw [effect?_of_words String.toList_append, Opening.effect?, hname, List.map_singleton]

/-- A statement that creates a view of a table. -/
theorem effect?_wrapping (word : AllWord name.toList) (table : String) :
    effect? ("CREATE VIEW " ++ name ++ " AS SELECT * FROM " ++ table) = some (.wrapping name table) := by
  have htext : ("CREATE VIEW " ++ name ++ " AS SELECT * FROM " ++ table).toList =
      (⟨.create, .view⟩ : Opening).words.toList ++
        (name.toList ++ (" AS SELECT * FROM ".toList ++ table.toList)) := by
    simp only [String.toList_append, List.append_assoc]
    rfl
  rw [effect?_of_words htext, Opening.effect?, nameThen?_append word (by decide) (by decide)]
  exact congrArg (fun table => some (Effect.wrapping name table)) String.ofList_toList

/-- **A comment is read back,** whatever its text. -/
theorem effect?_commentStatement (kind : Kind) (word : AllWord name.toList)
    (directives : List Directive) :
    effect? (Directive.commentStatement kind.sqlName name directives) =
      some (.description ⟨kind, name⟩ (Directive.render directives)) := by
  have htext : (Directive.commentStatement kind.sqlName name directives).toList =
      (⟨.describe, kind⟩ : Opening).words.toList ++
        (name.toList ++ (" IS ".toList ++ (Literal.quote (Directive.render directives)).toList)) := by
    simp only [Directive.commentStatement, Opening.words, String.toList_append, List.append_assoc]
  have hliteral : Literal.read (Literal.quote (Directive.render directives)).toList =
      some ((Directive.render directives).toList, []) := by
    rw [← List.append_nil (Literal.quote (Directive.render directives)).toList]
    exact Literal.read_quote _ nofun
  rw [effect?_of_words htext, Opening.effect?, nameThen?_append word (by decide) (by decide)]
  simp only [Option.bind_eq_bind, Option.bind_some, hliteral, String.ofList_toList]
  rfl

/-! ## Order -/

/-- The objects that have to be there for the effect. -/
def Effect.uses : Effect → List Item
  | .creation _ => []
  | .wrapping _ table => [⟨.foreignTable, table⟩]
  | .removal _ => []
  | .description item _ => [item]

/-- Each effect finds the objects that it uses: they are among `known`, or created before. -/
def Grounded (known : List Item) : List Effect → Prop
  | [] => True
  | e :: es => (∀ item ∈ e.uses, item ∈ known) ∧ Grounded (known ++ e.created) es

theorem grounded_append {known : List Item} {es fs : List Effect} :
    Grounded known (es ++ fs) ↔
      Grounded known es ∧ Grounded (known ++ es.flatMap Effect.created) fs := by
  induction es generalizing known with
  | nil => simp [Grounded]
  | cons e es ih =>
    rw [List.cons_append, Grounded, Grounded, ih, List.flatMap_cons, List.append_assoc, and_assoc]

end StatSchema.Publication
