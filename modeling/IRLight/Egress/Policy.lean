import IRLight.Python
import Mathlib.Algebra.Order.Field.Basic
import Mathlib.Algebra.Order.Ring.Unbundled.Rat
import Mathlib.Tactic.Linarith
import Mathlib.Tactic.Ring

/-! # The gateway's retry policy

`ReconnectPolicy` of the egress gateway. A policy that the constructor accepts carries what it has checked. -/

namespace IRLight.Egress

structure ReconnectPolicy where
  initialSeconds : Timestamp
  maxSeconds : Timestamp
  multiplier : Timestamp
  jitterRatio : Timestamp
  maxAttempts : ℕ
  maxElapsedSeconds : Timestamp
  initial_le_max : initialSeconds ≤ maxSeconds
  one_le_multiplier : 1 ≤ multiplier
  jitterRatio_le_one : jitterRatio ≤ 1

/-- A float power that is too large for a float. -/
inductive OverflowError where
  | outOfRange

namespace ReconnectPolicy

/-- `__post_init__`. -/
def new (initialSeconds maxSeconds multiplier jitterRatio : PyFloat) (maxAttempts : ℤ) (maxElapsedSeconds : PyFloat) :
    Except Exc ReconnectPolicy :=
  match initialSeconds, maxSeconds, multiplier, jitterRatio, maxElapsedSeconds with
  | .finite initial, .finite longest, .finite multiplier, .finite jitter, .finite elapsed =>
    if initial < 0 ∨ longest < 0 then .error (.valueError "retry delays must be non-negative")
    else if horder : longest < initial then .error (.valueError "max retry delay must be >= initial retry delay")
    else if hmultiplier : multiplier < 1 then .error (.valueError "retry multiplier must be >= 1")
    else if hjitter : ¬(0 ≤ jitter ∧ jitter ≤ 1) then .error (.valueError "retry jitter ratio must be between 0 and 1")
    else if maxAttempts < 0 ∨ elapsed < 0 then .error (.valueError "retry limits must be non-negative")
    else
      .ok { initialSeconds := initial.toNNRat, maxSeconds := longest.toNNRat, multiplier := multiplier.toNNRat
            jitterRatio := jitter.toNNRat, maxAttempts := maxAttempts.toNat, maxElapsedSeconds := elapsed.toNNRat
            initial_le_max := NNRat.toNNRat_mono (not_lt.mp horder)
            one_le_multiplier := Rat.toNNRat_one.symm.le.trans (NNRat.toNNRat_mono (not_lt.mp hmultiplier))
            jitterRatio_le_one := (NNRat.toNNRat_mono (not_not.mp hjitter).2).trans Rat.toNNRat_one.le }
  | _, _, _, _, _ => .error (.valueError "retry timing values must be finite")

/-- The default policy. -/
def shipped : ReconnectPolicy where
  initialSeconds := 1
  maxSeconds := (30 : ℕ)
  multiplier := (2 : ℕ)
  jitterRatio := 1 / (5 : ℕ)
  maxAttempts := 0
  maxElapsedSeconds := 0
  initial_le_max := by decide +kernel
  one_le_multiplier := by decide +kernel
  jitterRatio_le_one := by decide +kernel

section
variable (p : ReconnectPolicy)

/-- `1.0 + ((bounded_random * 2.0) - 1.0) * self.jitter_ratio`. -/
def factor (randomValue : ℚ) : ℚ :=
  let boundedRandom := min 1 (max 0 randomValue)
  1 + (boundedRandom * 2 - 1) * p.jitterRatio

/-- `delay_for`. -/
def delayFor (failureCount : ℕ) (randomValue : ℚ) : Except OverflowError Timestamp :=
  let exponent := failureCount - 1
  let power := p.multiplier ^ exponent
  if 2 ^ 1024 ≤ power then .error .outOfRange
  else
    let base := min p.maxSeconds (p.initialSeconds * power)
    .ok ((base : ℚ) * p.factor randomValue).toNNRat

def exhausted (failureCount : ℕ) (elapsedSeconds : ℚ) : Bool :=
  (0 < p.maxAttempts && p.maxAttempts ≤ failureCount) ||
    (0 < p.maxElapsedSeconds && p.maxElapsedSeconds ≤ elapsedSeconds)

end

variable {p : ReconnectPolicy} {n : ℕ} {randomValue : ℚ} {delay : Timestamp}

/-- The constructor accepts every policy. -/
theorem new_eq (p : ReconnectPolicy) :
    new (.finite p.initialSeconds) (.finite p.maxSeconds) (.finite p.multiplier) (.finite p.jitterRatio) p.maxAttempts
      (.finite p.maxElapsedSeconds) = .ok p := by
  obtain ⟨initial, longest, multiplier, jitter, attempts, elapsed, horder, hmultiplier, hjitter⟩ := p
  have hone : ¬(multiplier : ℚ) < 1 := not_lt.mpr (by exact_mod_cast hmultiplier)
  have hspread : (0 : ℚ) ≤ jitter ∧ (jitter : ℚ) ≤ 1 := ⟨NNRat.coe_nonneg _, by exact_mod_cast hjitter⟩
  unfold new
  dsimp only
  rw [if_neg (not_or.mpr ⟨not_lt.mpr (NNRat.coe_nonneg _), not_lt.mpr (NNRat.coe_nonneg _)⟩),
    dif_neg (not_lt.mpr (NNRat.coe_le_coe.mpr horder)), dif_neg hone, dif_neg (not_not.mpr hspread),
    if_neg (not_or.mpr ⟨not_lt.mpr (Int.natCast_nonneg _), not_lt.mpr (NNRat.coe_nonneg _)⟩)]
  simp only [NNRat.toNNRat_coe, Int.toNat_natCast]

theorem factor_le : p.factor randomValue ≤ 1 + p.jitterRatio := by
  have hjitter : (0 : ℚ) ≤ p.jitterRatio := p.jitterRatio.coe_nonneg
  have hbounded : min 1 (max 0 randomValue) ≤ 1 := min_le_left _ _
  have hspread : (min 1 (max 0 randomValue) * 2 - 1) * (p.jitterRatio : ℚ) ≤ 1 * p.jitterRatio :=
    mul_le_mul_of_nonneg_right (by linarith) hjitter
  unfold factor
  linarith

theorem factor_nonneg : 0 ≤ p.factor randomValue := by
  have hjitter : (0 : ℚ) ≤ p.jitterRatio := p.jitterRatio.coe_nonneg
  have hone : (p.jitterRatio : ℚ) ≤ 1 := by exact_mod_cast p.jitterRatio_le_one
  have hbounded : 0 ≤ min 1 (max 0 randomValue) := le_min zero_le_one (le_max_left _ _)
  have hspread : -1 * (p.jitterRatio : ℚ) ≤ (min 1 (max 0 randomValue) * 2 - 1) * p.jitterRatio :=
    mul_le_mul_of_nonneg_right (by linarith) hjitter
  unfold factor
  linarith

/-- The delay is at most the base of the failure count, stretched by the whole jitter. -/
theorem delayFor_le_base (h : p.delayFor n randomValue = .ok delay) :
    delay ≤ min p.maxSeconds (p.initialSeconds * p.multiplier ^ (n - 1)) * (1 + p.jitterRatio) := by
  unfold delayFor at h
  simp only at h
  split at h
  · cases h
  · rw [← Except.ok.inj h, ← NNRat.coe_le_coe, Rat.coe_toNNRat _ (mul_nonneg (NNRat.coe_nonneg _) factor_nonneg),
      NNRat.coe_mul, NNRat.coe_add, NNRat.coe_one]
    exact mul_le_mul_of_nonneg_left factor_le (NNRat.coe_nonneg _)

/-- The delay is at most the largest base, stretched by the whole jitter. -/
theorem delayFor_le_max (h : p.delayFor n randomValue = .ok delay) : delay ≤ p.maxSeconds * (1 + p.jitterRatio) :=
  (delayFor_le_base h).trans (mul_le_mul_of_nonneg_right (min_le_left _ _) zero_le)

end ReconnectPolicy

end IRLight.Egress
