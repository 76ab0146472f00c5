import Mathlib.Algebra.Group.Nat.Defs
import StatSchema.Block.Policy

/-!
# `StatSchema.Proofs.Block.Backoff` — a pause is exact to the nanosecond, or it is a fault

The pause after an attempt is the first pause times a factor that doubles until it fills thirty-two bits.
The product is formed in two parts, seconds and nanoseconds, with a carry between them. Neither part loses
anything: the pause is the product as long as the product is a duration at all, and a fault exactly if it is
none (`delay_exact`). So pauses are ordered as the products are.

## Contents
- **Scaling.** `Duration.eq_of_toNanos`, `Duration.seconds_scaled`; `Duration.scale_eq_ok_iff`,
  `Duration.scale_eq_error_iff`.
- **Factors.** `backoffFactor_eq`, `backoffFactor_mono`, `backoffFactor_succ`.
- **Pauses.** `Policy.nanosAfter`; `delay_eq_ok_iff`, `delay_eq_error_iff`, `exists_shorter`.
- **Main result.** `Policy.PausesExactly`, `delay_exact`.
-/

namespace StatSchema

/-! ## Scaling -/

namespace Duration

variable {d e : Duration} {factor : Nat}

/-- The whole seconds of a length. -/
theorem seconds_toNanos (d : Duration) : d.toNanos / nanosPerSecond = d.secs := by
  have hn := d.nanos_lt
  unfold toNanos
  rw [Nat.add_comm, Nat.add_mul_div_right _ _ (by decide), Nat.div_eq_of_lt hn, Nat.zero_add]

/-- A duration is known by its length. -/
theorem eq_of_toNanos (h : d.toNanos = e.toNanos) : d = e := by
  have hsecs : d.secs = e.secs := by
    rw [← seconds_toNanos d, ← seconds_toNanos e, h]
  have hnanos : d.nanos = e.nanos := by
    unfold toNanos at h
    rw [hsecs] at h
    exact Nat.add_left_cancel h
  cases d
  cases e
  cases hsecs
  cases hnanos
  rfl

/-- The scaled seconds with the carry are the whole seconds of the product. -/
theorem seconds_scaled (d : Duration) (factor : Nat) :
    d.secs * factor + d.nanos * factor / nanosPerSecond = d.toNanos * factor / nanosPerSecond := by
  have hproduct : d.toNanos * factor = nanosPerSecond * (d.secs * factor) + d.nanos * factor := by
    unfold toNanos
    rw [Nat.add_mul, Nat.mul_right_comm, Nat.mul_comm nanosPerSecond]
  rw [hproduct, Nat.mul_add_div (by decide)]

/-- **Scaling is a fault exactly if the seconds of the product do not fit.** -/
theorem scale_eq_error_iff {fault : OutOfRange} :
    d.scale factor = .error fault ↔
      fault = .durationTooLong ∧ secondsLimit ≤ d.toNanos * factor / nanosPerSecond := by
  rw [← seconds_scaled]
  unfold scale
  by_cases fits : d.secs * factor + d.nanos * factor / nanosPerSecond < secondsLimit
  · simp [fits]
  · simp [fits, Nat.le_of_not_lt fits, eq_comm]

/-- **A scaled duration is the one whose length is the product.** -/
theorem scale_eq_ok_iff : d.scale factor = .ok e ↔ e.toNanos = d.toNanos * factor := by
  constructor
  · exact toNanos_of_scale
  · intro h
    cases hscale : d.scale factor with
    | ok e' => rw [eq_of_toNanos ((toNanos_of_scale hscale).trans h.symm)]
    | error fault =>
      -- the product has the seconds of the duration `e`, and those fit
      obtain ⟨-, hlimit⟩ := scale_eq_error_iff.mp hscale
      rw [← h, seconds_toNanos] at hlimit
      exact absurd e.secs_lt (Nat.not_lt_of_le hlimit)

end Duration

/-! ## Factors -/

/-- The factor is a power of two as long as that is a number of thirty-two bits. -/
theorem backoffFactor_eq (attempt : Nat) : backoffFactor attempt = min (2 ^ attempt) (2 ^ 32 - 1) := by
  unfold backoffFactor
  by_cases small : attempt < 32
  · have hpow : 2 ^ attempt ≤ 2 ^ 31 := Nat.pow_le_pow_right (by decide) (by omega)
    rw [if_pos small]
    exact (Nat.min_eq_left (Nat.le_trans hpow (by decide))).symm
  · have hpow : 2 ^ 32 ≤ 2 ^ attempt := Nat.pow_le_pow_right (by decide) (by omega)
    rw [if_neg small]
    exact (Nat.min_eq_right (Nat.le_trans (by decide) hpow)).symm

theorem backoffFactor_mono {i j : Nat} (h : i ≤ j) : backoffFactor i ≤ backoffFactor j := by
  have hpow : 2 ^ i ≤ 2 ^ j := Nat.pow_le_pow_right (by decide) h
  rw [backoffFactor_eq, backoffFactor_eq]
  omega

/-- The factor doubles up to the last power of two that fits. -/
theorem backoffFactor_succ {attempt : Nat} (h : attempt < 31) :
    backoffFactor (attempt + 1) = 2 * backoffFactor attempt := by
  unfold backoffFactor
  rw [if_pos (Nat.succ_lt_succ h), if_pos (Nat.lt_succ_of_lt h)]
  exact Nat.pow_succ'

/-! ## Pauses -/

namespace Policy

/-- The length in nanoseconds that the pause after attempt `attempt` is to have. -/
def nanosAfter (p : Policy) (attempt : Nat) : Nat :=
  p.baseDelay.toNanos * min (2 ^ attempt) (2 ^ 32 - 1)

variable {p q : Policy} {attempt : Nat}

theorem nanosAfter_eq (p : Policy) (attempt : Nat) :
    p.nanosAfter attempt = p.baseDelay.toNanos * backoffFactor attempt := by
  rw [nanosAfter, backoffFactor_eq]

theorem nanosAfter_mono {i j : Nat} (base : p.baseDelay.toNanos ≤ q.baseDelay.toNanos) (h : i ≤ j) :
    p.nanosAfter i ≤ q.nanosAfter j := by
  rw [nanosAfter_eq, nanosAfter_eq]
  exact Nat.mul_le_mul base (backoffFactor_mono h)

theorem delay_eq_ok_iff {pause : Duration} :
    p.delay attempt = .ok pause ↔ pause.toNanos = p.nanosAfter attempt := by
  rw [nanosAfter_eq]
  exact Duration.scale_eq_ok_iff

theorem delay_eq_error_iff {fault : OutOfRange} :
    p.delay attempt = .error fault ↔
      fault = .durationTooLong ∧ 2 ^ 64 ≤ p.nanosAfter attempt / 10 ^ 9 := by
  rw [nanosAfter_eq]
  exact Duration.scale_eq_error_iff

/-- A pause that is to be no longer than another one is a duration if the other one is. -/
theorem exists_shorter {i j : Nat} (h : p.nanosAfter i ≤ q.nanosAfter j) {longer : Duration}
    (hlonger : q.delay j = .ok longer) :
    ∃ shorter, p.delay i = .ok shorter ∧ shorter.toNanos ≤ longer.toNanos := by
  cases hshorter : p.delay i with
  | ok shorter =>
    refine ⟨shorter, rfl, ?_⟩
    rw [delay_eq_ok_iff.mp hshorter, delay_eq_ok_iff.mp hlonger]
    exact h
  | error fault =>
    obtain ⟨-, hlimit⟩ := delay_eq_error_iff.mp hshorter
    have hover : q.delay j = .error .durationTooLong :=
      delay_eq_error_iff.mpr ⟨rfl, Nat.le_trans hlimit (Nat.div_le_div_right h)⟩
    rw [hlonger] at hover
    cases hover

/-! ## Main result -/

/-- **The pauses of a policy are exact** wherever they are durations. -/
structure PausesExactly (p : Policy) : Prop where
  /-- A pause is a fault exactly if its seconds reach 2^64. -/
  overflows : ∀ attempt,
    p.delay attempt = .error .durationTooLong ↔ 2 ^ 64 ≤ p.nanosAfter attempt / 10 ^ 9
  /-- Otherwise it is the duration of the product. -/
  exact : ∀ attempt, p.nanosAfter attempt / 10 ^ 9 < 2 ^ 64 →
    ∃ pause, p.delay attempt = .ok pause ∧ pause.toNanos = p.nanosAfter attempt
  /-- Neither an earlier attempt nor a shorter first pause makes a pause longer, or a fault of one that
      is a duration. -/
  ordered : ∀ (q : Policy) (i j : Nat) (longer : Duration),
    p.baseDelay.toNanos ≤ q.baseDelay.toNanos → i ≤ j → q.delay j = .ok longer →
    ∃ shorter, p.delay i = .ok shorter ∧ shorter.toNanos ≤ longer.toNanos
  /-- Each of the first pauses is half as long as the next one. -/
  doubles : ∀ (attempt : Nat) (longer : Duration), attempt < 31 →
    p.delay (attempt + 1) = .ok longer →
    ∃ shorter, p.delay attempt = .ok shorter ∧ longer.toNanos = 2 * shorter.toNanos
  /-- After a fault all pauses are faults. -/
  stays : ∀ i j, i ≤ j → p.delay i = .error .durationTooLong → p.delay j = .error .durationTooLong

/-- **Pauses are exact**, from the first to the last that is a duration. -/
theorem delay_exact (p : Policy) : p.PausesExactly where
  overflows attempt := by
    rw [delay_eq_error_iff]
    exact and_iff_right rfl
  exact attempt fits := by
    cases hdelay : p.delay attempt with
    | ok pause => exact ⟨pause, rfl, delay_eq_ok_iff.mp hdelay⟩
    | error fault => exact absurd fits (Nat.not_lt_of_le (delay_eq_error_iff.mp hdelay).2)
  ordered q i j longer base hij hlonger := exists_shorter (nanosAfter_mono base hij) hlonger
  doubles attempt longer early hlonger := by
    have hmono : p.nanosAfter attempt ≤ p.nanosAfter (attempt + 1) :=
      nanosAfter_mono (Nat.le_refl _) (Nat.le_succ attempt)
    obtain ⟨shorter, hshorter, -⟩ := exists_shorter hmono hlonger
    refine ⟨shorter, hshorter, ?_⟩
    rw [delay_eq_ok_iff.mp hshorter, delay_eq_ok_iff.mp hlonger, nanosAfter_eq, nanosAfter_eq,
      backoffFactor_succ early]
    exact Nat.mul_left_comm _ 2 _
  stays i j hij hover := by
    have hmono : p.nanosAfter i ≤ p.nanosAfter j := nanosAfter_mono (Nat.le_refl _) hij
    obtain ⟨-, hlimit⟩ := delay_eq_error_iff.mp hover
    exact delay_eq_error_iff.mpr ⟨rfl, Nat.le_trans hlimit (Nat.div_le_div_right hmono)⟩

/-- A first pause of 2^32 + 1 seconds grows to 2^64 - 1, as many as a duration may have; with half a second
    more it becomes too long. -/
example : (Policy.delay ⟨40, .ofSeconds 4294967297, .ofSeconds 0⟩ 39).isOk = true ∧
    (Policy.delay ⟨40, .ofParts 4294967297 500000000, .ofSeconds 0⟩ 39).isOk = false := by
  decide

end Policy

end StatSchema
