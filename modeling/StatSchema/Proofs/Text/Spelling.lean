import StatSchema.Proofs.Text.Words
import StatSchema.Text.Blank
import StatSchema.Text.Decimal

/-!
# `StatSchema.Proofs.Text.Spelling` — the characters of a composed text

The characters of a long text are slow to compute from its bytes. They are quickly found from the way in
which the text is composed, since a literal shows its own: the laws below give, for each way to compose
texts, the characters of the whole from those of the parts.

## Contents
- **Texts.** `Spells` and its laws, one for each way to compose a text.
- **Lists.** `SpellsAll`, `Spells.intercalate`.
- **Comparison.** `Spells.eq_iff`, `Spells.mem_iff`, `Spells.mentions_iff`.
-/

namespace StatSchema.Text

/-! ## Texts -/

/-- The text `s` consists of the characters `cs`. -/
def Spells (s : String) (cs : List Char) : Prop := s.toList = cs

/-- The digits of an integer, after a minus sign if it is negative. -/
def integerChars : Int → List Char
  | .ofNat n => Nat.toDigits 10 n
  | .negSucc n => '-' :: Nat.toDigits 10 (n + 1)

variable {s t : String} {cs ds : List Char}

namespace Spells

/-- A literal is the text of its characters. -/
theorem literal (cs : List Char) : Spells (String.ofList cs) cs := String.toList_ofList

theorem append (hs : Spells s cs) (ht : Spells t ds) : Spells (s ++ t) (cs ++ ds) := by
  unfold Spells at *
  rw [String.toList_append, hs, ht]

/-- A text stands for itself in a composed text. -/
theorem text (hs : Spells s cs) : Spells (toString s) cs := hs

theorem number (n : Nat) : Spells (toString n) (Nat.toDigits 10 n) := String.toList_ofList

theorem integer (z : Int) : Spells (toString z) (integerChars z) := by
  cases z with
  | ofNat n => exact String.toList_ofList
  | negSucc n => exact append (literal ['-']) (number (n + 1))

theorem padded (width n : Nat) :
    Spells (Text.padded width n)
      (List.replicate (width - (Nat.toDigits 10 n).length) '0' ++ Nat.toDigits 10 n) :=
  String.toList_ofList

theorem trim (hs : Spells s cs) : Spells (Text.trim s) (trimChars cs) := by
  unfold Spells at *
  rw [Text.trim, String.toList_ofList, hs]

theorem ite {p : Prop} [Decidable p] (hs : Spells s cs) (ht : Spells t ds) :
    Spells (if p then s else t) (if p then cs else ds) := by
  by_cases h : p
  · rw [if_pos h, if_pos h]
    exact hs
  · rw [if_neg h, if_neg h]
    exact ht

end Spells

/-! ## Lists -/

/-- The texts `ss` consist of the characters `css`, one by one. -/
def SpellsAll (ss : List String) (css : List (List Char)) : Prop := ss.map String.toList = css

variable {ss : List String} {css : List (List Char)}

theorem SpellsAll.nil : SpellsAll [] [] := rfl

theorem SpellsAll.cons (hs : Spells s cs) (hss : SpellsAll ss css) : SpellsAll (s :: ss) (cs :: css) := by
  unfold Spells SpellsAll at *
  rw [List.map_cons, hs, hss]

theorem SpellsAll.ite {p : Prop} [Decidable p] {ts : List String} {dss : List (List Char)}
    (hss : SpellsAll ss css) (hts : SpellsAll ts dss) :
    SpellsAll (if p then ss else ts) (if p then css else dss) := by
  by_cases h : p
  · rw [if_pos h, if_pos h]
    exact hss
  · rw [if_neg h, if_neg h]
    exact hts

theorem Spells.intercalate (hs : Spells s cs) (hss : SpellsAll ss css) :
    Spells (s.intercalate ss) (cs.intercalate css) := by
  unfold Spells SpellsAll at *
  rw [String.toList_intercalate, hs, hss]

/-! ## Comparison -/

/-- Texts are equal when their characters are. -/
theorem Spells.eq_iff (hs : Spells s cs) (ht : Spells t ds) : s = t ↔ cs = ds := by
  unfold Spells at *
  rw [← hs, ← ht, String.toList_inj]

/-- A text is in a list when its characters are. -/
theorem Spells.mem_iff (hs : Spells s cs) (hss : SpellsAll ss css) : s ∈ ss ↔ cs ∈ css := by
  unfold Spells SpellsAll at *
  simp [← hs, ← hss, String.toList_inj]

/-- A name stands in a text when its characters are a word there. -/
theorem Spells.mentions_iff (hs : Spells s cs) (ht : Spells t ds) (word : AllWord ds) (nonempty : ds ≠ []) :
    mentions s t = true ↔ ds ∈ words cs := by
  unfold Spells at *
  subst hs ht
  exact Text.mentions_iff word nonempty

end StatSchema.Text
