/-!
# `StatSchema.Text.Split` — cutting a text in two

Connection addresses and partition names are taken apart by cutting at a separator. All cuts work on
lists of characters, and a cut that succeeds loses nothing but the separator.

## Contents
- **Leading part.** `dropLeading?`: what follows a given beginning.
- **Cuts.** `cutFirst`: at the first occurrence of a separator. `cutLast`: at the last occurrence of a
  character.
- **Search.** `contains`: whether a part occurs at all.
-/

namespace StatSchema.Text

/-! ## Leading part -/

/-- What follows `start` in a text that begins with it. -/
def dropLeading? : (start text : List Char) → Option (List Char)
  | [], text => some text
  | _ :: _, [] => none
  | s :: start, c :: text => if s = c then dropLeading? start text else none

theorem dropLeading?_eq_some_iff {start text rest : List Char} :
    dropLeading? start text = some rest ↔ text = start ++ rest := by
  fun_induction dropLeading? start text with
  | case1 text => simp
  | case2 => simp
  | case3 start c text ih => simp [ih]
  | case4 s start c text h =>
    simp only [List.cons_append, List.cons.injEq, reduceCtorEq, false_iff, not_and]
    exact fun hc => absurd hc.symm h

/-! ## Cuts -/

/-- The text before and after the first occurrence of `separator`. -/
def cutFirst (separator : List Char) : List Char → Option (List Char × List Char)
  | [] => (dropLeading? separator []).map fun rest => ([], rest)
  | c :: cs =>
    match dropLeading? separator (c :: cs) with
    | some rest => some ([], rest)
    | none => (cutFirst separator cs).map fun (before, after) => (c :: before, after)

/-- The text before and after the last occurrence of the character `separator`. -/
def cutLast (separator : Char) : List Char → Option (List Char × List Char)
  | [] => none
  | c :: cs =>
    match cutLast separator cs with
    | some (before, after) => some (c :: before, after)
    | none => if c = separator then some ([], cs) else none

/-! ## Search -/

/-- Whether `part` occurs somewhere in the text; the empty part occurs in every text. -/
def contains (part : List Char) : List Char → Bool
  | [] => part.isEmpty
  | c :: cs => part.isPrefixOf (c :: cs) || contains part cs

end StatSchema.Text
