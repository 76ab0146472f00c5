import StatSchema.Text.Literal

/-!
# `StatSchema.Directive` — directives for the schema generator

Every installed object carries a comment, and every line of it is a directive to the generator that
derives the public query schema: how to name the object, which columns identify a row, which relations
it has. The generator sees nothing but the comment, so the text of a directive is all there is to it.

## Contents
- **Directives.** `ForeignKey`, `Directive`; the frequent ones `Directive.toAccount`, `perAccount`.
- **Text.** `Directive.text`, `Directive.render`.
- **Statement.** `Directive.commentStatement`: the SQL that attaches the directives to an object.
-/

namespace StatSchema

/-! ## Directives -/

/-- A relation between two objects, with the names of the fields that follow it both ways. -/
structure ForeignKey where
  columns : List String
  target : String
  targetColumns : List String
  /-- The field of the target that leads back here. -/
  reverseField : String
  /-- The field here that leads to the target. -/
  forwardField : String
  deriving DecidableEq, Repr

/-- A directive to the schema generator. -/
inductive Directive where
  /-- Leave the object out of the public schema. -/
  | hide
  /-- Leave out the listings of the object and keep the look-up of one row. -/
  | hideListings
  /-- Publish the object under another name. -/
  | rename (name : String)
  /-- These columns identify a row. -/
  | unique (columns : List String)
  /-- These columns refer to a row of another object. -/
  | relation (key : ForeignKey)
  deriving DecidableEq, Repr

namespace Directive

/-- The relation that a statistic per account has to the account in its column `column`. -/
def toAccount (column reverseField : String) : Directive :=
  .relation ⟨[column], "account", [column], reverseField, "account"⟩

/-- The directives of a view that is published with one row per public key. -/
def perAccount (publicName reverseField : String) : List Directive :=
  [.rename publicName, .unique ["public_key"], .hideListings, toAccount "public_key" reverseField]

/-! ## Text -/

/-- The directive as the generator reads it. -/
def text : Directive → String
  | .hide => "@omit"
  | .hideListings => "@omit all"
  | .rename name => "@name " ++ name
  | .unique columns => "@unique " ++ ",".intercalate columns
  | .relation key =>
    "@foreignKey (" ++ ", ".intercalate key.columns ++ ") references " ++ key.target ++ " ("
      ++ ", ".intercalate key.targetColumns ++ ")|@foreignFieldName " ++ key.reverseField
      ++ "|@fieldName " ++ key.forwardField

/-- The comment that carries the directives, one on each line. -/
def render (directives : List Directive) : String :=
  "\n".intercalate (directives.map text)

/-! ## Statement -/

/-- The statement that attaches the directives to the object `target` of the SQL type `objectType`. -/
def commentStatement (objectType target : String) (directives : List Directive) : String :=
  "COMMENT ON " ++ objectType ++ " " ++ target ++ " IS " ++ Text.Literal.quote (render directives)

end Directive

end StatSchema
