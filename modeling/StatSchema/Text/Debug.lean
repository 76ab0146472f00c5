import StatSchema.Text.Unprintable

/-!
# `StatSchema.Text.Debug` — texts quoted for diagnostics

A diagnostic shows a text between double quotes, with the characters that a reader could not see or
would misread spelled as escapes.

## Contents
- `escape`: how one character is shown.
- `debug`: a whole text between double quotes.
-/

namespace StatSchema.Text

/-- How a diagnostic shows the character `c`: control characters by their usual letter, any other
    unprintable character by its code point in hexadecimal, and all else as it is. -/
def escape (c : Char) : List Char :=
  if c = '\t' then ['\\', 't']
  else if c = '\r' then ['\\', 'r']
  else if c = '\n' then ['\\', 'n']
  else if c = '"' then ['\\', '"']
  else if c = '\\' then ['\\', '\\']
  else if c.toNat = 0 then ['\\', '0']
  else if isUnprintable c then
    ['\\', 'u', '\x7b'] ++ Nat.toDigits 16 c.toNat ++ ['\x7d']
  else [c]

/-- A text between double quotes, its characters escaped. -/
def debug (s : String) : String :=
  String.ofList ('"' :: s.toList.flatMap escape ++ ['"'])

end StatSchema.Text
