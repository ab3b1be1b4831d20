import IRLight.Theorems.EgressCadence
import Mathlib.Algebra.Order.Archimedean.Basic

/-! # The backoff of the gateway

`delay_for` takes the power of the multiplier before it takes the smaller of two delays. A power that no float can hold
raises, and the gateway's loop does not catch it. -/

namespace IRLight.Egress.ReconnectPolicy

/-- The delay is given and within its bounds, and no fewer failures have a longer one. -/
def Sound (p : ReconnectPolicy) (n : ℕ) (randomValue : ℚ) : Prop :=
  ∃ delay, p.delayFor n randomValue = .ok delay ∧ delay ≤ p.maxSeconds * (1 + p.jitterRatio) ∧
    ∀ m ≤ n, ∃ delay', p.delayFor m randomValue = .ok delay' ∧ delay' ≤ delay

/-- A failure count with which the loop goes on. -/
def Retries (p : ReconnectPolicy) (n : ℕ) : Prop := 0 < n ∧ ∃ elapsed : Timestamp, p.exhausted n elapsed = false

/-- Some failure count of the loop has a power that is too large. -/
def Overflows (p : ReconnectPolicy) : Prop :=
  p.multiplier ≠ 1 ∧ (p.maxAttempts = 0 ∨ ((2 : ℕ) : Timestamp) ^ 1024 ≤ p.multiplier ^ (p.maxAttempts - 2))

section
variable {p : ReconnectPolicy} {m n : ℕ} {randomValue : ℚ}

theorem exhausted_zero : p.exhausted n 0 = false ↔ p.maxAttempts = 0 ∨ n < p.maxAttempts := by
  have hnonneg : ¬((p.maxElapsedSeconds : ℚ) ≤ 0 ∧ 0 < p.maxElapsedSeconds) :=
    fun h => absurd (NNRat.coe_pos.mpr h.2) (not_lt.mpr h.1)
  unfold exhausted
  rw [Bool.or_eq_false_iff]
  constructor
  · rintro ⟨hattempts, -⟩
    rcases Nat.eq_zero_or_pos p.maxAttempts with hzero | hpos
    · exact .inl hzero
    · rw [decide_eq_true hpos, Bool.true_and, decide_eq_false_iff_not, not_le] at hattempts
      exact .inr hattempts
  · intro h
    refine ⟨?_, ?_⟩
    · rw [← Bool.decide_and, decide_eq_false_iff_not]
      rintro ⟨hpos, hle⟩
      exact h.elim hpos.ne' (not_lt.mpr hle)
    · rw [← Bool.decide_and, decide_eq_false_iff_not]
      exact fun h => hnonneg h.symm

theorem exhausted_of_elapsed {elapsed : ℚ} (h : p.exhausted n elapsed = false) : p.exhausted n 0 = false := by
  rw [exhausted_zero]
  unfold exhausted at h
  rw [Bool.or_eq_false_iff, ← Bool.decide_and, decide_eq_false_iff_not, not_and_or, Nat.not_lt, Nat.le_zero, not_le] at h
  exact h.1

theorem retries_iff : p.Retries n ↔ 0 < n ∧ (p.maxAttempts = 0 ∨ n < p.maxAttempts) :=
  and_congr_right fun _ =>
    ⟨fun ⟨_, h⟩ => exhausted_zero.mp (exhausted_of_elapsed h), fun h => ⟨0, exhausted_zero.mpr h⟩⟩

/-! ### One call -/

theorem delayFor_of_lt (h : p.multiplier ^ (n - 1) < 2 ^ 1024) : p.delayFor n randomValue =
    .ok (((min p.maxSeconds (p.initialSeconds * p.multiplier ^ (n - 1)) : Timestamp) : ℚ) * p.factor randomValue).toNNRat :=
  if_neg (not_le.mpr h)

theorem delayFor_of_le (h : 2 ^ 1024 ≤ p.multiplier ^ (n - 1)) : p.delayFor n randomValue = .error .outOfRange := if_pos h

theorem power_mono (h : m ≤ n) : p.multiplier ^ (m - 1) ≤ p.multiplier ^ (n - 1) :=
  pow_le_pow_right₀ p.one_le_multiplier (Nat.sub_le_sub_right h 1)

/-- The delay is given, and sound, exactly when the power is within range. -/
theorem sound_iff : p.Sound n randomValue ↔ p.multiplier ^ (n - 1) < 2 ^ 1024 := by
  constructor
  · rintro ⟨delay, hdelay, -, -⟩
    by_contra hpower
    rw [delayFor_of_le (not_lt.mp hpower)] at hdelay
    cases hdelay
  · intro hpower
    refine ⟨_, delayFor_of_lt hpower, delayFor_le_max (delayFor_of_lt hpower), fun m hm => ?_⟩
    refine ⟨_, delayFor_of_lt ((power_mono hm).trans_lt hpower), NNRat.toNNRat_mono ?_⟩
    refine mul_le_mul_of_nonneg_right (NNRat.coe_le_coe.mpr ?_) factor_nonneg
    exact min_le_min_left _ (mul_le_mul_of_nonneg_left (power_mono hm) zero_le)

/-! ### The counts of the loop -/

/-- The least count that overflows is one that the loop reaches. -/
theorem Overflows.exists_retries (h : p.Overflows) : ∃ n, p.Retries n ∧ 2 ^ 1024 ≤ p.multiplier ^ (n - 1) := by
  obtain ⟨hne, hattempts | hpower⟩ := h
  · obtain ⟨k, hk⟩ := pow_unbounded_of_one_lt (2 ^ 1024) (lt_of_le_of_ne p.one_le_multiplier (Ne.symm hne))
    exact ⟨k + 1, retries_iff.mpr ⟨Nat.succ_pos k, .inl hattempts⟩, hk.le⟩
  · have htwo : 2 < p.maxAttempts := by
      by_contra hle
      rw [Nat.sub_eq_zero_of_le (not_lt.mp hle), pow_zero] at hpower
      exact absurd hpower (not_le.mpr (one_lt_pow₀ one_lt_two (by decide)))
    exact ⟨p.maxAttempts - 1, retries_iff.mpr ⟨by omega, .inr (by omega)⟩, by rwa [Nat.sub_sub]⟩

theorem Overflows.of_retries (hn : p.Retries n) (hpower : 2 ^ 1024 ≤ p.multiplier ^ (n - 1)) : p.Overflows := by
  obtain ⟨-, hcount⟩ := retries_iff.mp hn
  refine ⟨fun hone => ?_, hcount.imp_right fun hlt => hpower.trans ?_⟩
  · rw [hone, one_pow] at hpower
    exact absurd hpower (not_le.mpr (one_lt_pow₀ one_lt_two (by decide)))
  · exact pow_le_pow_right₀ p.one_le_multiplier (by omega)

theorem forall_sound_iff : (∀ n, p.Retries n → ∀ randomValue, 0 ≤ randomValue → randomValue ≤ 1 → p.Sound n randomValue) ↔
    ¬p.Overflows := by
  constructor
  · intro hsound hoverflows
    obtain ⟨n, hn, hpower⟩ := hoverflows.exists_retries
    exact absurd (sound_iff.mp (hsound n hn 0 le_rfl zero_le_one)) (not_lt.mpr hpower)
  · intro h n hn randomValue _ _
    exact sound_iff.mpr (not_le.mp fun hpower => h (.of_retries hn hpower))

theorem exhausted_of_unlimited (h : p.maxElapsedSeconds = 0) (randomValue : ℚ) :
    p.exhausted n randomValue = p.exhausted n 0 := by
  unfold exhausted
  rw [h, decide_eq_false (lt_irrefl _), Bool.false_and, Bool.false_and]

end
end IRLight.Egress.ReconnectPolicy

namespace IRLight.Egress

section
variable {policy : ReconnectPolicy} {g : EgressGateway} {r : Round} {startedAt now t : Timestamp}
  {startup : EgressGateway.Startup} {rounds : List Round} {random : ℚ} {result : AttemptResult} {n : ℕ}

/-! ### The loop -/

/-- Only a power that is too large raises. -/
theorem overflows_of_retry (hrunning : g.exit = none) (h : (g.retry policy now random result).exit = some (.raised t)) :
    policy.Overflows := by
  unfold EgressGateway.retry at h
  dsimp only at h
  split at h
  · cases h
  · split at h
    · cases h
    · rename_i hexhausted
      split at h
      · rename_i hdelay
        have hretries : policy.Retries (g.failureCount + 1) := by
          have hlast := ReconnectPolicy.exhausted_of_elapsed (Bool.eq_false_iff.mpr hexhausted)
          exact ReconnectPolicy.retries_iff.mpr ⟨Nat.succ_pos _, ReconnectPolicy.exhausted_zero.mp hlast⟩
        refine .of_retries hretries (not_lt.mp fun hpower => ?_)
        rw [ReconnectPolicy.delayFor_of_lt hpower] at hdelay
        cases hdelay
      · rw [show (_ : Option Exit) = none from hrunning] at h
        cases h

theorem overflows_of_end {c : Prop} [Decidable c] (hrunning : g.exit = none) :
    (if c then g.stop now n else g.retry policy now random result).exit = some (.raised t) → policy.Overflows := by
  intro h
  split at h
  · cases h
  · exact overflows_of_retry hrunning h

theorem overflows_of_round (hrunning : g.exit = none) (h : (g.round policy r).exit = some (.raised t)) :
    policy.Overflows := by
  revert h
  unfold EgressGateway.round
  rw [if_neg (by rw [hrunning]; decide)]
  cases r.stopBefore with
  | some waited => exact fun h => by cases h
  | none =>
    cases r.blocked with
    | some block => exact overflows_of_end hrunning
    | none => exact overflows_of_end ((EgressGateway.foldl_takeReport r.attempt.reports g).2.trans hrunning)

/-- A gateway that ends with an exception has a policy that overflows. -/
theorem overflows_of_raised (h : (gatewayRun policy startedAt now startup rounds).exit = some (.raised t)) :
    policy.Overflows := by
  induction rounds using List.reverseRecOn with
  | nil => cases startup <;> cases h
  | append_singleton rounds r ih =>
    rw [gatewayRun_concat] at h
    by_cases hrunning : (gatewayRun policy startedAt now startup rounds).exit = none
    · exact overflows_of_round hrunning h
    · rw [round_of_ended hrunning] at h
      exact ih h

/-- A round starts after the delay before it. -/
def Waits (g : EgressGateway) (r : Round) : Prop := g.idleSince + g.delay ≤ r.ended

/-- A round that starts at once after the delay, and whose attempt is refused at once. -/
def nextRefused (g : EgressGateway) : Round := Sample.refused (g.idleSince + g.delay)

theorem waits_nextRefused : Waits g (nextRefused g) := le_rfl

theorem round_nextRefused (hrunning : g.exit = none) : g.round policy (nextRefused g) =
    g.retry policy (g.idleSince + g.delay) 1 (nextRefused g).attempt.result := by
  unfold EgressGateway.round
  rw [if_neg (by rw [hrunning]; decide)]
  rfl

/-- The policy allows another attempt after a refused one. -/
theorem round_nextRefused_eq (hrunning : g.exit = none)
    (hexhausted : ∀ elapsed, policy.exhausted (g.failureCount + 1) elapsed = false) :
    (2 ^ 1024 ≤ policy.multiplier ^ g.failureCount → ∃ t, (g.round policy (nextRefused g)).exit = some (.raised t)) ∧
    (policy.multiplier ^ g.failureCount < 2 ^ 1024 → (g.round policy (nextRefused g)).exit = none ∧
      (g.round policy (nextRefused g)).failureCount = g.failureCount + 1) := by
  have hterminal : (nextRefused g).attempt.result.terminal = false := rfl
  have hcount : policy.multiplier ^ (g.failureCount + 1 - 1) = policy.multiplier ^ g.failureCount := by
    rw [Nat.add_sub_cancel]
  rw [round_nextRefused hrunning]
  unfold EgressGateway.retry
  dsimp only
  rw [hterminal, if_neg Bool.false_ne_true, hexhausted, if_neg Bool.false_ne_true]
  constructor
  · intro hpower
    rw [ReconnectPolicy.delayFor_of_le (hpower.trans_eq hcount.symm)]
    exact ⟨_, rfl⟩
  · intro hpower
    rw [ReconnectPolicy.delayFor_of_lt (hcount.trans_lt hpower)]
    exact ⟨hrunning, rfl⟩

/-- A run in which every attempt is refused. -/
theorem exists_failing_run (hunlimited : policy.maxElapsedSeconds = 0)
    (hattempts : ∀ m ≤ n, policy.maxAttempts = 0 ∨ m < policy.maxAttempts)
    (hpower : ∀ m < n, policy.multiplier ^ m < 2 ^ 1024) :
    ∃ rounds, EveryRound policy 0 0 (.ready "rtmp" "live.example") rounds Waits ∧
      (gatewayRun policy 0 0 (.ready "rtmp" "live.example") rounds).exit = none ∧
      (gatewayRun policy 0 0 (.ready "rtmp" "live.example") rounds).failureCount = n := by
  induction n with
  | zero => exact ⟨[], fun before r after h => by simp at h, rfl, rfl⟩
  | succ n ih =>
    obtain ⟨rounds, hwaits, hrunning, hcount⟩ :=
      ih (fun m hm => hattempts m (Nat.le_succ_of_le hm)) fun m hm => hpower m (Nat.lt_succ_of_lt hm)
    have hexhausted : ∀ elapsed, policy.exhausted (n + 1) elapsed = false := by
      intro elapsed
      rw [ReconnectPolicy.exhausted_of_unlimited hunlimited]
      exact ReconnectPolicy.exhausted_zero.mpr (hattempts (n + 1) le_rfl)
    rw [← hcount] at hexhausted
    have hgoes := (round_nextRefused_eq hrunning hexhausted).2 (hcount ▸ hpower n (Nat.lt_succ_self n))
    rw [← gatewayRun_concat, hcount] at hgoes
    exact ⟨_, everyRound_concat.mpr ⟨hwaits, fun _ => waits_nextRefused⟩, hgoes⟩

/-- A policy that overflows ends the loop with an exception when the destination refuses long enough. -/
theorem exists_raised (hunlimited : policy.maxElapsedSeconds = 0) (hoverflows : policy.Overflows) :
    ∃ rounds t, EveryRound policy 0 0 (.ready "rtmp" "live.example") rounds Waits ∧
      (gatewayRun policy 0 0 (.ready "rtmp" "live.example") rounds).exit = some (.raised t) := by
  have hsome : ∃ n, 2 ^ 1024 ≤ policy.multiplier ^ n ∧ (policy.maxAttempts = 0 ∨ n + 1 < policy.maxAttempts) := by
    obtain ⟨n, hretries, hpower⟩ := hoverflows.exists_retries
    obtain ⟨hpos, hattempts⟩ := ReconnectPolicy.retries_iff.mp hretries
    exact ⟨n - 1, hpower, by rwa [Nat.sub_add_cancel hpos]⟩
  -- the first power that is too large
  obtain ⟨hpower, hattempts⟩ := Nat.find_spec hsome
  have hbelow : ∀ m ≤ Nat.find hsome + 1, policy.maxAttempts = 0 ∨ m < policy.maxAttempts :=
    fun m hm => hattempts.imp_right fun hlt => hm.trans_lt hlt
  have hsmaller : ∀ m < Nat.find hsome, policy.multiplier ^ m < 2 ^ 1024 := by
    intro m hm
    by_contra hlarge
    exact Nat.find_min hsome hm ⟨not_lt.mp hlarge, hbelow (m + 1) (Nat.succ_le_succ hm.le)⟩
  obtain ⟨rounds, hwaits, hrunning, hcount⟩ :=
    exists_failing_run hunlimited (fun m hm => hbelow m (Nat.le_succ_of_le hm)) hsmaller
  have hexhausted : ∀ elapsed, policy.exhausted (Nat.find hsome + 1) elapsed = false := by
    intro elapsed
    rw [ReconnectPolicy.exhausted_of_unlimited hunlimited]
    exact ReconnectPolicy.exhausted_zero.mpr (hbelow _ le_rfl)
  rw [← hcount] at hexhausted hpower
  have hraised := (round_nextRefused_eq hrunning hexhausted).1 hpower
  rw [← gatewayRun_concat] at hraised
  obtain ⟨t, hraised⟩ := hraised
  exact ⟨_, t, everyRound_concat.mpr ⟨hwaits, fun _ => waits_nextRefused⟩, hraised⟩

/-- **When the backoff is total.** A call of `delay_for` gives a delay within its bounds that is no shorter than that of
    fewer failures exactly when the power of the multiplier is below the largest float. All calls of the loop do so
    exactly when the policy does not overflow: the multiplier is 1, or the number of attempts is limited and the power of
    the last failure is below it. Otherwise, if only attempts are limited, the gateway may end with an exception, and
    only then. -/
theorem retry_delay_total (policy : ReconnectPolicy) :
    (∀ n randomValue, policy.Sound n randomValue ↔ policy.multiplier ^ (n - 1) < 2 ^ 1024) ∧
    ((∀ n, policy.Retries n → ∀ randomValue, 0 ≤ randomValue → randomValue ≤ 1 → policy.Sound n randomValue) ↔
      policy.multiplier = 1 ∨ 0 < policy.maxAttempts ∧ policy.multiplier ^ (policy.maxAttempts - 2) < 2 ^ 1024) ∧
    (∀ startedAt now startup rounds t, (gatewayRun policy startedAt now startup rounds).exit = some (.raised t) →
      policy.Overflows) ∧
    (policy.maxElapsedSeconds = 0 → policy.Overflows → ∃ startedAt now startup rounds t,
      EveryRound policy startedAt now startup rounds Waits ∧
      (gatewayRun policy startedAt now startup rounds).exit = some (.raised t)) := by
  refine ⟨fun n randomValue => ReconnectPolicy.sound_iff, ReconnectPolicy.forall_sound_iff.trans ?_,
    fun _ _ _ _ _ h => overflows_of_raised h, fun hunlimited hoverflows => ⟨0, 0, _, exists_raised hunlimited hoverflows⟩⟩
  rw [ReconnectPolicy.Overflows, not_and_or, not_not, not_or, not_le, Nat.pos_iff_ne_zero, Nat.cast_ofNat]

end

theorem shipped_overflows : 2 ^ 1024 ≤ ReconnectPolicy.shipped.multiplier ^ (1025 - 1) := le_rfl

/-- The default policy raises at the 1025th failure in a row, which its loop reaches. -/
theorem shipped_raises :
    ReconnectPolicy.shipped.Retries 1025 ∧ ¬ReconnectPolicy.shipped.Sound 1025 (1 / 2) ∧
      ∃ rounds t, EveryRound .shipped 0 0 (.ready "rtmp" "live.example") rounds Waits ∧
        (gatewayRun .shipped 0 0 (.ready "rtmp" "live.example") rounds).exit = some (.raised t) := by
  have hretries : ReconnectPolicy.shipped.Retries 1025 := ReconnectPolicy.retries_iff.mpr ⟨by decide, .inl rfl⟩
  refine ⟨hretries, ?_, exists_raised rfl (.of_retries hretries shipped_overflows)⟩
  rw [ReconnectPolicy.sound_iff]
  exact not_lt.mpr shipped_overflows

end IRLight.Egress
