/-!
# `StatSchema.Text.Literal` — SQL string literals

A standard string literal stands between apostrophes, and an apostrophe inside it is written twice.

## Contents
- `double`: the characters between the enclosing apostrophes.
- `quote`: the literal of a text.
-/

namespace StatSchema.Text.Literal

/-- The character that opens and closes a literal. -/
def mark : Char := '\''

/-- A text as it stands between the enclosing marks: every mark in it is written twice. -/
def double : List Char → List Char
  | [] => []
  | c :: cs => if c = mark then mark :: mark :: double cs else c :: double cs

/-- The string literal that stands for `text`. -/
def quote (text : String) : String :=
  String.ofList (mark :: double text.toList ++ [mark])

end StatSchema.Text.Literal
