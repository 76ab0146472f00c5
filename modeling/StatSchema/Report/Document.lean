/-!
# `StatSchema.Report.Document` — documents of nested records

The catalog is shown to other programs as a JSON document of texts, lists and records.

## Contents
- `Document`.
- **Texts.** `escape`, `quote`: a text between double quotes.
- **Layout.** `Document.render`: one entry on each line, nested by two spaces.
-/

namespace StatSchema.Report

/-- A document of texts, lists and records with named fields in order. -/
inductive Document where
  | text (content : String)
  | list (items : List Document)
  | record (fields : List (String × Document))

namespace Document

/-! ## Texts -/

/-- A character inside a quoted text: quotation marks, backslashes and control characters are escaped. -/
def escape (c : Char) : List Char :=
  if c = '"' then ['\\', '"']
  else if c = '\\' then ['\\', '\\']
  else if c = '\n' then ['\\', 'n']
  else if c = '\r' then ['\\', 'r']
  else if c = '\t' then ['\\', 't']
  else if c.toNat = 8 then ['\\', 'b']
  else if c.toNat = 12 then ['\\', 'f']
  else if c.toNat < 32 then
    ['\\', 'u', '0', '0'] ++ [Nat.digitChar (c.toNat / 16), Nat.digitChar (c.toNat % 16)]
  else [c]

/-- A text between double quotes. -/
def quote (s : String) : String :=
  String.ofList ('"' :: s.toList.flatMap escape ++ ['"'])

/-! ## Layout -/

/-- The start of a line at the depth `depth`. -/
def newLine (depth : Nat) : String :=
  String.ofList ('\n' :: List.replicate (2 * depth) ' ')

/-- Entries between brackets, one on each line; none at all leave the brackets together. -/
def enclose (opening closing : String) (depth : Nat) (entries : List String) : String :=
  if entries.isEmpty then opening ++ closing
  else opening ++ newLine (depth + 1) ++ ("," ++ newLine (depth + 1)).intercalate entries
    ++ newLine depth ++ closing

mutual

/-- The document as it stands at the depth `depth` of another. -/
def renderAt (depth : Nat) : Document → String
  | .text content => quote content
  | .list items => enclose "[" "]" depth (renderItems (depth + 1) items)
  | .record fields => enclose "\x7b" "\x7d" depth (renderFields (depth + 1) fields)

/-- The items of a list. -/
def renderItems (depth : Nat) : List Document → List String
  | [] => []
  | item :: items => renderAt depth item :: renderItems depth items

/-- The fields of a record, each behind its name. -/
def renderFields (depth : Nat) : List (String × Document) → List String
  | [] => []
  | (name, value) :: fields => (quote name ++ ": " ++ renderAt depth value) :: renderFields depth fields

end

/-- The document as a text. -/
def render (d : Document) : String :=
  d.renderAt 0

end Document

end StatSchema.Report
