/-!
# `StatSchema.Text.Decimal` — reading and writing whole numbers

Port numbers, partition numbers and step counts are decimal numerals in ASCII digits. A reader accepts
leading zeros, refuses an empty numeral, blanks and separators, and knows the largest number it may
return.

## Contents
- **Digits.** `digitValue?`, `numeral?`: a run of ASCII digits and its value.
- **Readers.** `unsigned?` takes an optional plus sign, `signed?` also a minus sign.
- **Writers.** `padded`: at least a given number of digits. `fraction`: the digits after the point.
-/

namespace StatSchema.Text

/-! ## Digits -/

/-- The value of an ASCII digit. -/
def digitValue? (c : Char) : Option Nat :=
  if c.isDigit then some (c.toNat - '0'.toNat) else none

/-- The value of a numeral whose earlier digits have the value `high`. -/
def numeralFrom? (high : Nat) : List Char → Option Nat
  | [] => some high
  | c :: cs => (digitValue? c).bind fun d => numeralFrom? (10 * high + d) cs

/-- The value of a nonempty run of ASCII digits. -/
def numeral? : List Char → Option Nat
  | [] => none
  | c :: cs => numeralFrom? 0 (c :: cs)

/-! ## Readers -/

/-- A whole number up to `largest`, in digits that one plus sign may precede. -/
def unsigned? (largest : Nat) (cs : List Char) : Option Nat :=
  let digits := match cs with
    | '+' :: rest => rest
    | _ => cs
  (numeral? digits).filter (· ≤ largest)

/-- A whole number from 0 up to `largest`, in digits that one sign may precede; of the numerals with a
    minus sign only those of zero are in that range. -/
def signed? (largest : Nat) (cs : List Char) : Option Nat :=
  match cs with
  | '-' :: rest => (numeral? rest).filter (· = 0)
  | _ => unsigned? largest cs

/-! ## Writers -/

/-- The digits of `n`, with zeros in front up to `width` digits. -/
def padded (width n : Nat) : String :=
  let digits := Nat.toDigits 10 n
  String.ofList (List.replicate (width - digits.length) '0' ++ digits)

/-- The decimal fraction `n / 10 ^ width` with its point and without zeros at the end; nothing if it is
    zero. -/
def fraction (width n : Nat) : String :=
  let kept := ((padded width n).toList.reverse.dropWhile (· = '0')).reverse
  if kept.isEmpty then "" else String.ofList ('.' :: kept)

end StatSchema.Text
