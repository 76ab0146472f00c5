import Mathlib.Logic.Basic
import StatSchema.Proofs.Publication.Password
import StatSchema.Proofs.Text.Literals

/-!
# `StatSchema.Proofs.Publication.Quoting` — no coordinate of the publisher reaches the SQL

The coordinates of the publisher are quoted into two of the statements that install the published
statistics. SQL reads them back from there one by one, whatever characters they consist of. The text around
them and all other statements are the same for every publisher.

## Contents
- **Published objects.** `Catalog.missing?`, `viewsOf`, `allViewStatements_eq`, `createStatements_eq`.
- **Coordinates.** `serverTexts`, `mappingTexts`; `reads_server`, `reads_mapping`.
- **Statements.** `createStatements_quoted`.
-/

namespace StatSchema

/-! ## Published objects -/

/-- The first of the names that no object of the catalog has. -/
def Catalog.missing? (c : Catalog) (names : List String) : Option String :=
  names.find? (· ∉ c.names)

namespace Publication

open Text.Literal

variable {c : Catalog}

/-- The statements that show the published object `name` of the catalog. -/
def viewsOf (c : Catalog) (name : String) : List String :=
  (c.find? name).elim [] (viewStatements name)

theorem find?_eq_none_iff {name : String} : c.find? name = none ↔ name ∉ c.names := by
  simp [Catalog.find?, Catalog.names]

theorem exists_find? {name : String} (present : name ∈ c.names) : ∃ o, c.find? name = some o :=
  Option.ne_none_iff_exists'.mp fun hnone => find?_eq_none_iff.mp hnone present

theorem viewsOf_of_find? {name : String} {o : SchemaObject} (found : c.find? name = some o) :
    viewsOf c name = viewStatements name o := by
  rw [viewsOf, found]
  rfl

theorem missing?_cons (name : String) (names : List String) :
    c.missing? (name :: names) = if name ∈ c.names then c.missing? names else some name := by
  unfold Catalog.missing?
  by_cases hname : name ∈ c.names
  · rw [if_pos hname, List.find?_cons_of_neg (by simpa using hname)]
  · rw [if_neg hname, List.find?_cons_of_pos (by simpa using hname)]

theorem missing?_eq_some_iff {name : String} {names : List String} :
    c.missing? names = some name ↔ ∃ before after, names = before ++ name :: after ∧
      (∀ other ∈ before, other ∈ c.names) ∧ name ∉ c.names := by
  simp only [Catalog.missing?, List.find?_eq_some_iff_append, decide_eq_true_eq, Bool.not_eq_true',
    decide_eq_false_iff_not, not_not]
  constructor
  · rintro ⟨habsent, before, after, hnames, hbefore⟩
    exact ⟨before, after, hnames, hbefore, habsent⟩
  · rintro ⟨before, after, hnames, hbefore, habsent⟩
    exact ⟨habsent, before, after, hnames, hbefore⟩

/-- **The published objects are shown one after the other,** unless one is missing; the first of those is
    reported. -/
theorem allViewStatements_eq (names : List String) :
    allViewStatements c names =
      match c.missing? names with
      | some name => .error (.catalog ("published object " ++ name ++ " is not in the catalog"))
      | none => .ok (names.flatMap (viewsOf c)) := by
  induction names with
  | nil => rfl
  | cons name names ih =>
    rw [allViewStatements, missing?_cons]
    by_cases hname : name ∈ c.names
    · obtain ⟨o, hfind⟩ := exists_find? hname
      rw [hfind, if_pos hname, ih, List.flatMap_cons, viewsOf_of_find? hfind]
      cases c.missing? names with
      | none => rfl
      | some missing => rfl
    · rw [find?_eq_none_iff.mpr hname, if_neg hname]

/-- The published objects are shown after the publisher's tables have been made available. -/
theorem createStatements_eq (publisher : Publisher) (c : Catalog) :
    createStatements publisher c =
      match c.missing? publishedNames with
      | some name => .error (.catalog ("published object " ++ name ++ " is not in the catalog"))
      | none => .ok (connectionStatements publisher ++ publishedNames.flatMap (viewsOf c)) := by
  rw [createStatements, allViewStatements_eq]
  cases c.missing? publishedNames <;> rfl

theorem missing?_eq_none (complete : ∀ name ∈ publishedNames, name ∈ c.names) :
    c.missing? publishedNames = none := by
  simpa [Catalog.missing?] using complete

/-- The schema has all published objects. -/
theorem full_publishes : ∀ name ∈ publishedNames, name ∈ Catalog.full.names := by
  decide +kernel

/-! ## Coordinates -/

/-- What stands before the coordinates in the statement that creates the server. -/
def serverTexts : List String :=
  ["CREATE SERVER " ++ serverName ++ " FOREIGN DATA WRAPPER " ++ extensionName ++ " OPTIONS (host ",
   ", port ", ", dbname "]

/-- What stands before the coordinates in the statement that creates the user mapping. -/
def mappingTexts : List String :=
  ["CREATE USER MAPPING FOR CURRENT_USER SERVER " ++ serverName ++ " OPTIONS (user ", ", password "]

/-- The coordinates by which the server is reached. -/
def serverValues (publisher : Publisher) : List String :=
  [publisher.host, toString publisher.port, publisher.database]

/-- The coordinates with which a user logs in. -/
def mappingValues (publisher : Publisher) : List String :=
  [publisher.user, publisher.password]

/-- The statement that imports the published objects. -/
def importStatement : String :=
  "IMPORT FOREIGN SCHEMA public LIMIT TO (" ++ ", ".intercalate publishedNames ++ ") FROM SERVER "
    ++ serverName ++ " INTO public"

theorem connectionStatements_eq (publisher : Publisher) :
    connectionStatements publisher =
      ["CREATE EXTENSION IF NOT EXISTS " ++ extensionName,
       fill serverTexts (serverValues publisher) ")",
       fill mappingTexts (mappingValues publisher) ")",
       importStatement] := by
  simp only [serverTexts, serverValues, mappingTexts, mappingValues, fill, ← String.append_assoc]
  rfl

theorem reads_server (publisher : Publisher) :
    Reads (fill serverTexts (serverValues publisher) ")") (around serverTexts ")")
      (serverValues publisher) :=
  reads_fill rfl (by decide +kernel) (by decide) (by decide)

theorem reads_mapping (publisher : Publisher) :
    Reads (fill mappingTexts (mappingValues publisher) ")") (around mappingTexts ")")
      (mappingValues publisher) :=
  reads_fill rfl (by decide +kernel) (by decide) (by decide)

/-- The coordinates are all that there is to a publisher. -/
theorem eq_of_values {p q : Publisher} (server : serverValues p = serverValues q)
    (mapping : mappingValues p = mappingValues q) : p = q := by
  obtain ⟨host, hserver⟩ := List.cons.inj server
  obtain ⟨hport, hserver⟩ := List.cons.inj hserver
  obtain ⟨user, hmapping⟩ := List.cons.inj mapping
  have port : p.port = q.port := by
    have hdigits : Nat.toDigits 10 p.port = Nat.toDigits 10 q.port := String.ofList_inj.mp hport
    calc p.port = Nat.ofDigitChars 10 (Nat.toDigits 10 p.port) 0 := Nat.ofDigitChars_ten_toDigits.symm
      _ = Nat.ofDigitChars 10 (Nat.toDigits 10 q.port) 0 := by rw [hdigits]
      _ = q.port := Nat.ofDigitChars_ten_toDigits
  have database : p.database = q.database := (List.cons.inj hserver).1
  have password : p.password = q.password := (List.cons.inj hmapping).1
  cases p
  cases q
  simp_all

/-! ## Statements -/

/-- **No coordinate of a publisher reaches the SQL.** If the catalog has all published objects, the
    statements are the same for all publishers but for two. From the literals of these SQL reads back the
    coordinates, and the text around them is again the same for all publishers. So different publishers get
    different statements. -/
theorem createStatements_quoted (complete : ∀ name ∈ publishedNames, name ∈ c.names) :
    (∃ before after, ∀ publisher, ∃ server mapping,
      createStatements publisher c = .ok (before ++ server :: mapping :: after) ∧
      Reads server (around serverTexts ")")
        [publisher.host, toString publisher.port, publisher.database] ∧
      Reads mapping (around mappingTexts ")") [publisher.user, publisher.password]) ∧
    ∀ p q, createStatements p c = createStatements q c → p = q := by
  have hcreate (publisher : Publisher) : createStatements publisher c =
      .ok (connectionStatements publisher ++ publishedNames.flatMap (viewsOf c)) := by
    rw [createStatements_eq, missing?_eq_none complete]
  constructor
  · refine ⟨["CREATE EXTENSION IF NOT EXISTS " ++ extensionName],
      importStatement :: publishedNames.flatMap (viewsOf c), fun publisher =>
        ⟨_, _, ?_, reads_server publisher, reads_mapping publisher⟩⟩
    rw [hcreate, connectionStatements_eq]
    rfl
  · intro p q h
    rw [hcreate, hcreate, connectionStatements_eq, connectionStatements_eq] at h
    obtain ⟨-, hfrom⟩ := List.cons.inj (Except.ok.inj h)
    obtain ⟨hserver, hfrom⟩ := List.cons.inj hfrom
    have hmapping := (List.cons.inj hfrom).1
    apply eq_of_values
    · exact (hserver ▸ reads_server p).contents_eq (reads_server q)
    · exact (hmapping ▸ reads_mapping p).contents_eq (reads_mapping q)

/-- A password that would close its literal and the statement, if it could. -/
theorem createStatements_quoted_marks :
    (∀ name ∈ publishedNames, name ∈ Catalog.full.names) ∧
    ∃ before after server mapping,
      createStatements ⟨"o'hare", 5432, "explorer", "reader", "'); DROP SCHEMA public; --"⟩
          Catalog.full = .ok (before ++ server :: mapping :: after) ∧
        Reads server (around serverTexts ")") ["o'hare", "5432", "explorer"] ∧
        Reads mapping (around mappingTexts ")") ["reader", "'); DROP SCHEMA public; --"] := by
  obtain ⟨before, after, hquoted⟩ := (createStatements_quoted full_publishes).1
  obtain ⟨server, mapping, h⟩ :=
    hquoted ⟨"o'hare", 5432, "explorer", "reader", "'); DROP SCHEMA public; --"⟩
  exact ⟨full_publishes, before, after, server, mapping, h⟩

end Publication

end StatSchema
