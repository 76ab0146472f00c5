/-!
# `StatSchema.Text.Blank` — blank characters and trimming

Statement bodies are written with blank lines around them. A statement sent to the server carries
none: it is the body without the blanks at either end.

## Contents
- **Blank characters.** `blankRanges`, `isBlank`: the characters of the Unicode property `White_Space`.
- **Trimming.** `trimChars` on characters, `trim` on strings; `prefix_trimChars`, what a trimmed text
  begins with.
-/

namespace StatSchema.Text

/-! ## Blank characters -/

/-- The code points of the Unicode property `White_Space`, as closed ranges in ascending order. -/
def blankRanges : List (Nat × Nat) :=
  [(0x09, 0x0D), (0x20, 0x20), (0x85, 0x85), (0xA0, 0xA0), (0x1680, 0x1680), (0x2000, 0x200A),
   (0x2028, 0x2029), (0x202F, 0x202F), (0x205F, 0x205F), (0x3000, 0x3000)]

/-- Whether `c` has the Unicode property `White_Space`. -/
def isBlank (c : Char) : Bool :=
  blankRanges.any fun (first, last) => first ≤ c.toNat && c.toNat ≤ last

/-! ## Trimming -/

/-- The characters between the blanks at the two ends. -/
def trimChars (cs : List Char) : List Char :=
  ((cs.dropWhile isBlank).reverse.dropWhile isBlank).reverse

/-- Blanks are not dropped from a text that begins without one. -/
theorem dropWhile_isBlank {cs : List Char} (rest : List Char) (first : ∀ c ∈ cs.head?, isBlank c = false)
    (some : cs ≠ []) : (cs ++ rest).dropWhile isBlank = cs ++ rest := by
  cases cs with
  | nil => exact absurd rfl some
  | cons c cs =>
    rw [List.cons_append, List.dropWhile_cons_of_neg]
    rw [first c rfl]
    exact Bool.false_ne_true

/-- A text without blanks at its own ends, which follows blanks, is still there after trimming. -/
theorem prefix_trimChars {blanks inner : List Char} (rest : List Char)
    (leading : ∀ c ∈ blanks, isBlank c) (first : ∀ c ∈ inner.head?, isBlank c = false)
    (last : ∀ c ∈ inner.getLast?, isBlank c = false) :
    inner <+: trimChars (blanks ++ (inner ++ rest)) := by
  by_cases some : inner = []
  · exact some ▸ List.nil_prefix
  have hlast : (inner.reverse ++ []).dropWhile isBlank = inner.reverse ++ [] := by
    apply dropWhile_isBlank
    · rw [List.head?_reverse]
      exact last
    · exact mt List.reverse_eq_nil_iff.mp some
  rw [List.append_nil] at hlast
  rw [trimChars, List.dropWhile_append_of_pos leading, dropWhile_isBlank rest first some,
    List.reverse_append, List.dropWhile_append]
  -- The blanks at the end are dropped from what follows `inner`, perhaps all of it, but not from `inner`.
  split
  · have hinner : ((inner.reverse).dropWhile isBlank).reverse = inner := by
      rw [hlast, List.reverse_reverse]
    exact hinner.symm ▸ List.prefix_refl inner
  · rw [List.reverse_append, List.reverse_reverse]
    exact List.prefix_append inner _

/-- The text between the blanks at its two ends. -/
def trim (s : String) : String :=
  String.ofList (trimChars s.toList)

end StatSchema.Text
