import Mathlib.Data.List.Infix
import StatSchema.Text.Split

/-!
# `StatSchema.Proofs.Text.Cuts` — a cut is determined by what its sides do not hold

A cut at the first occurrence of a separator leaves a part before it in which the separator does not
occur, and any way of writing the text with such a part is the cut. For that no two occurrences of the
separator may overlap, or one could begin before the other and still not lie in the part before it. A cut
at the last occurrence of a character leaves a part after it without the character.

## Contents
- **Separators.** `Unbordered`, `Unbordered.eq_nil_of_append`.
- **Cuts.** `cutFirst_eq_some_iff`, `cutFirst_char_eq_some_iff`, `cutLast_eq_some_iff`.
-/

namespace StatSchema.Text

variable {separator text before after rest : List Char} {c : Char}

/-! ## Separators -/

/-- No beginning of the separator is also an end of it, but for the empty one and the whole: two
    occurrences do not overlap. -/
def Unbordered (separator : List Char) : Prop :=
  ∀ k < separator.length, 0 < k → separator.take k ≠ separator.drop (separator.length - k)

instance (separator : List Char) : Decidable (Unbordered separator) :=
  inferInstanceAs (Decidable (∀ k < separator.length, 0 < k → _))

theorem unbordered_char (c : Char) : Unbordered [c] := by
  intro k hk hpos
  rw [List.length_singleton] at hk
  omega

/-- A text that begins with the separator cannot be written with a part before the separator that does
    not hold it, unless that part is empty. -/
theorem Unbordered.eq_nil_of_append (unbordered : Unbordered separator)
    (h : separator ++ rest = before ++ (separator ++ after)) (free : ¬ separator <:+: before) :
    before = [] := by
  by_contra hne
  have hpos : 0 < before.length := List.length_pos_iff.mpr hne
  by_cases hlength : separator.length ≤ before.length
  · -- the separator fits into the part before
    have hbegins : separator <+: before :=
      List.prefix_of_prefix_length_le ⟨rest, h⟩ (List.prefix_append before _) hlength
    exact free hbegins.isInfix
  · -- the two occurrences overlap
    have hdrop : separator.drop before.length ++ rest = separator ++ after := by
      have hcut := congrArg (List.drop before.length) h
      rwa [List.drop_append_of_le_length (by omega), List.drop_left] at hcut
    have htake := congrArg (List.take (separator.length - before.length)) hdrop
    rw [List.take_append_of_le_length (by rw [List.length_drop]),
      List.take_of_length_le (by rw [List.length_drop]),
      List.take_append_of_le_length (by omega)] at htake
    refine unbordered (separator.length - before.length) (by omega) (by omega) ?_
    rw [← htake, Nat.sub_sub_self (by omega)]

/-! ## Cuts -/

/-- **The cut at the first occurrence** is the way of writing the text with a part before the separator
    that does not hold it. -/
theorem cutFirst_eq_some_iff (unbordered : Unbordered separator) (nonempty : separator ≠ []) :
    cutFirst separator text = some (before, after) ↔
      text = before ++ (separator ++ after) ∧ ¬ separator <:+: before := by
  induction text generalizing before with
  | nil =>
    have hnone : dropLeading? separator [] = none := by
      obtain ⟨s, start, rfl⟩ := List.exists_cons_of_ne_nil nonempty
      rfl
    rw [cutFirst, hnone]
    simp [nonempty]
  | cons c cs ih =>
    rw [cutFirst]
    cases hdrop : dropLeading? separator (c :: cs) with
    | some rest =>
      have hstart : c :: cs = separator ++ rest := dropLeading?_eq_some_iff.mp hdrop
      rw [hstart]
      constructor
      · intro h
        cases h
        exact ⟨rfl, fun h => nonempty (List.infix_nil.mp h)⟩
      · rintro ⟨htext, free⟩
        obtain rfl := unbordered.eq_nil_of_append htext free
        rw [List.append_cancel_left htext]
    | none =>
      have hstart (tail : List Char) : c :: cs ≠ separator ++ tail := by
        intro h
        rw [dropLeading?_eq_some_iff.mpr h] at hdrop
        cases hdrop
      cases before with
      | nil => simpa using fun h => absurd h (hstart after)
      | cons d before =>
        have hbegins (htext : cs = before ++ (separator ++ after)) : ¬ separator <+: c :: before := by
          rintro ⟨tail, htail⟩
          refine hstart (tail ++ (separator ++ after)) ?_
          rw [htext, ← List.cons_append, ← htail, List.append_assoc]
        rw [List.cons_append, List.cons.injEq, Option.map_eq_some_iff]
        constructor
        · rintro ⟨⟨before', after'⟩, hcut, heq⟩
          cases heq
          obtain ⟨htext, free⟩ := ih.mp hcut
          refine ⟨⟨rfl, htext⟩, ?_⟩
          rw [List.infix_cons_iff]
          exact not_or.mpr ⟨hbegins htext, free⟩
        · rintro ⟨⟨rfl, htext⟩, free⟩
          rw [List.infix_cons_iff, not_or] at free
          exact ⟨(before, after), ih.mpr ⟨htext, free.2⟩, rfl⟩

/-- The cut at the first occurrence of a character. -/
theorem cutFirst_char_eq_some_iff :
    cutFirst [c] text = some (before, after) ↔ text = before ++ c :: after ∧ c ∉ before := by
  rw [cutFirst_eq_some_iff (unbordered_char c) (List.cons_ne_nil c []), List.singleton_infix_iff,
    List.singleton_append]

theorem cutLast_eq_none_iff : cutLast c text = none ↔ c ∉ text := by
  induction text with
  | nil => simp [cutLast]
  | cons d cs ih =>
    rw [cutLast]
    cases hcut : cutLast c cs with
    | some parts =>
      rw [hcut] at ih
      simp only [reduceCtorEq, false_iff, not_not] at ih
      simp [ih]
    | none =>
      have hfree : c ∉ cs := ih.mp hcut
      by_cases hd : d = c
      · simp [hd]
      · simp [hd, hfree, Ne.symm hd]

/-- **The cut at the last occurrence** is the way of writing the text with a part after the character that
    does not hold it. -/
theorem cutLast_eq_some_iff :
    cutLast c text = some (before, after) ↔ text = before ++ c :: after ∧ c ∉ after := by
  induction text generalizing before with
  | nil => simp [cutLast]
  | cons d cs ih =>
    rw [cutLast]
    cases hcut : cutLast c cs with
    | some parts =>
      obtain ⟨before', after'⟩ := parts
      have hmem : c ∈ cs := by
        by_contra hfree
        rw [cutLast_eq_none_iff.mpr hfree] at hcut
        cases hcut
      cases before with
      | nil =>
        simp only [List.nil_append, List.cons.injEq, Option.some.injEq, Prod.mk.injEq, reduceCtorEq,
          false_and, false_iff]
        rintro ⟨⟨rfl, rfl⟩, hfree⟩
        exact hfree hmem
      | cons b before =>
        rw [List.cons_append, List.cons.injEq, and_assoc, ← ih, hcut]
        simp [and_assoc]
    | none =>
      have hfree : c ∉ cs := cutLast_eq_none_iff.mp hcut
      cases before with
      | nil =>
        by_cases hd : d = c
        · subst hd
          simp only [↓reduceIte, Option.some.injEq, Prod.mk.injEq, true_and, List.nil_append,
            List.cons.injEq]
          exact ⟨fun h => ⟨h, h ▸ hfree⟩, fun h => h.1⟩
        · simp [hd]
      | cons b before =>
        have hnot : cs ≠ before ++ c :: after := by
          rintro rfl
          exact hfree (List.mem_append_right before List.mem_cons_self)
        by_cases hd : d = c
        · simp [hd, hnot]
        · simp [hd, hnot]

end StatSchema.Text
