import StatSchema.Text.Split

/-!
# `StatSchema.Text.Word` — whole identifiers in SQL text

An object is read by a statement when its name stands in the statement as a whole identifier:
`transaction` is read by `FROM transaction t`, but not by `FROM transaction_partition_05`.

## Contents
- **Word characters.** `isWordChar`: ASCII letters, digits and the underscore.
- **Search.** `standsFree`, `standsIn`, and `mentions` on strings.
-/

namespace StatSchema.Text

/-! ## Word characters -/

/-- Whether `c` can be part of an identifier: an ASCII letter or digit, or the underscore. -/
def isWordChar (c : Char) : Bool :=
  c.isAlphanum || c = '_'

/-! ## Search -/

/-- Whether an occurrence between the characters `before` and `after` is a whole identifier. -/
def standsFree (before after : Option Char) : Bool :=
  !before.any isWordChar && !after.any isWordChar

/-- Whether one of the occurrences of `name`, taken from left to right so that no two overlap, is a
    whole identifier. `before` is the character in front of the text, and `covered` counts the
    characters of it that still belong to the occurrence found last. The empty name occurs in front of
    every character and at the end. -/
def standsIn (name : List Char) (before : Option Char) (covered : Nat) : List Char → Bool
  | [] => covered = 0 && name.isEmpty && standsFree before none
  | c :: cs =>
    match covered with
    | covered + 1 => standsIn name (some c) covered cs
    | 0 =>
      match dropLeading? name (c :: cs) with
      | some rest => standsFree before rest.head? || standsIn name (some c) (name.length - 1) cs
      | none => standsIn name (some c) 0 cs

/-- Whether `name` stands in `sql` as a whole identifier. -/
def mentions (sql name : String) : Bool :=
  standsIn name.toList none 0 sql.toList

end StatSchema.Text
