import IRLight.Theorems.EgressCadence
import Mathlib.Data.List.DropRight

/-! # The outcome of a gateway

A gateway ends with its first terminal status, and the exit code says which. Each status carries the number of attempts
that have failed since the last connection. -/

namespace IRLight.Egress

/-! ### What happens to a gateway -/

/-- What a status is written for, the first one apart. -/
inductive Moment where
  | connected
  | progress
  | failed
  | stopped
  deriving DecidableEq

/-- The attempts that have failed since the last connection. -/
def failures (moments : List Moment) : ℕ := (moments.rtakeWhile fun m => m ≠ .connected).count .failed

def Report.moment : Report → Moment
  | .connected _ => .connected
  | .progress _ => .progress

namespace Round
variable (r : Round)

/-- What the attempt has reported. One that the guard has blocked is not made. -/
def reports : List (Timestamp × Report) := if r.blocked.isSome then [] else r.attempt.reports

/-- The result of the attempt, or of the guard. -/
def result : AttemptResult :=
  match r.blocked with
  | some (reason, terminal) => ⟨reason, false, 0, terminal, none, none⟩
  | none => r.attempt.result

/-- An attempt that is stopped is not a failure. -/
def ending : Moment := if r.stopped || r.result.reasonCode = "STOPPED" then .stopped else .failed

def moments : List Moment :=
  if r.stopBefore.isSome then [.stopped] else (r.reports.map fun m => m.2.moment) ++ [r.ending]

end Round

/-- What happens in the rounds until the gateway ends. -/
def EgressGateway.moments (policy : ReconnectPolicy) : EgressGateway → List Round → List Moment
  | _, [] => []
  | g, r :: rounds => if g.exit.isSome then [] else r.moments ++ moments policy (g.round policy r) rounds

section
variable {moments : List Moment} {m : Moment}

@[simp] theorem failures_nil : failures [] = 0 := rfl

@[simp] theorem failures_connected : failures (moments ++ [.connected]) = 0 := by
  unfold failures
  rw [List.rtakeWhile_concat_neg _ _ _ (by decide)]
  rfl

theorem failures_concat (h : m ≠ .connected) : failures (moments ++ [m]) = failures moments + [m].count .failed := by
  unfold failures
  have hkept : (moments ++ [m]).rtakeWhile (fun m => m ≠ .connected) = moments.rtakeWhile (fun m => m ≠ .connected) ++ [m] :=
    List.rtakeWhile_concat_pos _ _ _ (decide_eq_true h)
  rw [hkept, List.count_append]

@[simp] theorem failures_progress : failures (moments ++ [.progress]) = failures moments := failures_concat (by decide)
@[simp] theorem failures_failed : failures (moments ++ [.failed]) = failures moments + 1 := failures_concat (by decide)
@[simp] theorem failures_stopped : failures (moments ++ [.stopped]) = failures moments := failures_concat (by decide)

/-- The failures without a connection in between are among those since the last connection. -/
theorem count_le_failures {front mid : List Moment} (h : .connected ∉ mid) : mid.count .failed ≤ failures (front ++ mid) := by
  induction mid using List.reverseRecOn with
  | nil => exact Nat.zero_le _
  | append_singleton mid m ih =>
    rw [List.mem_append, List.mem_singleton, not_or] at h
    rw [List.count_append, ← List.append_assoc, failures_concat (Ne.symm h.2)]
    exact Nat.add_le_add_right (ih h.1) _

end

/-! ### What is written -/

section
variable {policy : ReconnectPolicy} {g : EgressGateway} {moments : List Moment} {m : Moment} {w : StatusRecord}
  {writes : List StatusRecord} {r : Round} {rounds : List Round} {startedAt now : Timestamp}
  {startup : EgressGateway.Startup}

/-- Each status carries the count of the failures before it. -/
def Numbered (writes : List StatusRecord) (moments : List Moment) : Prop :=
  ∀ i w, writes[i]? = some w → w.attempt = 1 + failures (moments.take i)

/-- No more attempts have ever failed in a row than there may be. -/
def Bounded (policy : ReconnectPolicy) (moments : List Moment) : Prop :=
  ∀ i, 0 < policy.maxAttempts → failures (moments.take i) ≤ policy.maxAttempts

/-- How the statuses end. -/
inductive Concluded : EgressGateway → Prop
  | running {g : EgressGateway} (hexit : g.exit = none) (h : ∀ w ∈ g.writes, w.status.terminal = false) : Concluded g
  | returned {g : EgressGateway} {n : ℕ} {before : List StatusRecord} {last : StatusRecord} (hexit : g.exit = some (.code n))
      (hwrites : g.writes = before ++ [last]) (hbefore : ∀ w ∈ before, w.status.terminal = false)
      (hlast : last.status.terminal = true) (hcode : n = 0 ↔ last.status = .stopped) : Concluded g
  | raised {g : EgressGateway} {t : Timestamp} (hexit : g.exit = some (.raised t))
      (h : ∀ w ∈ g.writes, w.status.terminal = false) : Concluded g

structure Accounted (policy : ReconnectPolicy) (g : EgressGateway) (moments : List Moment) : Prop where
  numbered : Numbered g.writes moments
  length : (∀ t, g.exit ≠ some (.raised t)) → g.writes.length = moments.length + 1
  bounded : Bounded policy moments
  concluded : Concluded g

/-- A gateway that goes on. -/
structure Going (policy : ReconnectPolicy) (g : EgressGateway) (moments : List Moment) : Prop
    extends Accounted policy g moments where
  running : g.exit = none
  count : g.failureCount = failures moments
  below : 0 < policy.maxAttempts → failures moments < policy.maxAttempts

/-- A gateway after any moments, whether it has ended or not. -/
structure Outcome (policy : ReconnectPolicy) (g : EgressGateway) (moments : List Moment) : Prop
    extends Accounted policy g moments where
  going : g.exit = none → Going policy g moments

theorem Going.outcome (h : Going policy g moments) : Outcome policy g moments := ⟨h.toAccounted, fun _ => h⟩

theorem Accounted.outcome (h : Accounted policy g moments) (hexit : g.exit ≠ none) : Outcome policy g moments :=
  ⟨h, fun hgoes => absurd hgoes hexit⟩

theorem Numbered.moment (h : Numbered writes moments) (hlength : writes.length = moments.length + 1) :
    Numbered writes (moments ++ [m]) := by
  intro i w hw
  obtain ⟨hi, -⟩ := List.getElem?_eq_some_iff.mp hw
  rw [List.take_append_of_le_length (by omega)]
  exact h i w hw

theorem Numbered.concat (h : Numbered writes moments) (hlength : writes.length = moments.length + 1)
    (hw : w.attempt = failures (moments ++ [m]) + 1) : Numbered (writes ++ [w]) (moments ++ [m]) := by
  intro i w' hw'
  by_cases hi : i < writes.length
  · rw [List.getElem?_append_left hi] at hw'
    exact h.moment hlength i w' hw'
  · obtain ⟨hlt, -⟩ := List.getElem?_eq_some_iff.mp hw'
    rw [List.length_append, List.length_singleton] at hlt
    obtain rfl : i = writes.length := by omega
    rw [List.getElem?_concat_length] at hw'
    rw [← Option.some.inj hw', List.take_of_length_le (by rw [List.length_append, List.length_singleton]; omega), hw,
      Nat.add_comm]

theorem Bounded.concat (h : Bounded policy moments)
    (hm : 0 < policy.maxAttempts → failures (moments ++ [m]) ≤ policy.maxAttempts) : Bounded policy (moments ++ [m]) := by
  intro i hpositive
  by_cases hi : i ≤ moments.length
  · rw [List.take_append_of_le_length hi]
    exact h i hpositive
  · rw [List.take_of_length_le (by rw [List.length_append, List.length_singleton]; omega)]
    exact hm hpositive

theorem Going.written (h : Going policy g moments) : g.writes.length = moments.length + 1 :=
  h.length fun _ ht => Option.some_ne_none _ (ht.symm.trans h.running)

theorem length_concat (h : writes.length = moments.length + 1) : (writes ++ [w]).length = (moments ++ [m]).length + 1 := by
  rw [List.length_append, List.length_append, h]
  rfl

theorem Going.statuses (h : Going policy g moments) : ∀ w ∈ g.writes, w.status.terminal = false := by
  cases h.concluded with
  | running hexit hstatuses => exact hstatuses
  | returned hexit => cases h.running.symm.trans hexit
  | raised hexit => cases h.running.symm.trans hexit

theorem forall_mem_concat {φ : StatusRecord → Prop} (h : ∀ w ∈ writes, φ w) (hw : φ w) : ∀ w' ∈ writes ++ [w], φ w' := by
  intro w' hw'
  rcases List.mem_append.mp hw' with hw' | hw'
  · exact h w' hw'
  · rw [List.mem_singleton.mp hw']
    exact hw

/-- A gateway goes on when it writes a status that is not terminal. -/
theorem Going.write {g' : EgressGateway} (h : Going policy g moments) (hwrites : g'.writes = g.writes ++ [w])
    (hattempt : w.attempt = g'.failureCount + 1) (hcount : g'.failureCount = failures (moments ++ [m]))
    (hbelow : 0 < policy.maxAttempts → failures (moments ++ [m]) < policy.maxAttempts)
    (hstatus : w.status.terminal = false) (hrunning : g'.exit = none) : Going policy g' (moments ++ [m]) where
  numbered := by
    rw [hwrites]
    exact h.numbered.concat h.written (hattempt.trans (congrArg (· + 1) hcount))
  length := fun _ => by
    rw [hwrites]
    exact length_concat h.written
  bounded := h.bounded.concat fun hpositive => (hbelow hpositive).le
  concluded := .running hrunning (by rw [hwrites]; exact forall_mem_concat h.statuses hstatus)
  running := hrunning
  count := hcount
  below := hbelow

/-- It ends when it writes a terminal one. -/
theorem Going.last {g' : EgressGateway} {n : ℕ} (h : Going policy g moments) (hwrites : g'.writes = g.writes ++ [w])
    (hattempt : w.attempt = failures (moments ++ [m]) + 1)
    (hbounded : 0 < policy.maxAttempts → failures (moments ++ [m]) ≤ policy.maxAttempts)
    (hstatus : w.status.terminal = true) (hexit : g'.exit = some (.code n)) (hcode : n = 0 ↔ w.status = .stopped) :
    Outcome policy g' (moments ++ [m]) := by
  refine Accounted.outcome ⟨?_, fun _ => ?_, h.bounded.concat hbounded, .returned hexit hwrites h.statuses hstatus hcode⟩ ?_
  · rw [hwrites]
    exact h.numbered.concat h.written hattempt
  · rw [hwrites]
    exact length_concat h.written
  · rw [hexit]
    exact Option.some_ne_none _

theorem Going.report (h : Going policy g moments) (m : Timestamp × Report) :
    Going policy (g.takeReport m) (moments ++ [m.2.moment]) := by
  obtain ⟨now, report⟩ := m
  cases report with
  | connected rendered =>
    have hzero : failures (moments ++ [.connected]) = 0 := failures_connected
    exact h.write rfl rfl hzero.symm (fun hpositive => hzero.trans_lt hpositive) rfl h.running
  | progress rendered =>
    have hsame : failures (moments ++ [.progress]) = failures moments := failures_progress
    exact h.write rfl rfl (h.count.trans hsame.symm) (fun hpositive => hsame.trans_lt (h.below hpositive)) rfl h.running

theorem Going.reports {reports : List (Timestamp × Report)} (h : Going policy g moments) :
    Going policy (reports.foldl EgressGateway.takeReport g) (moments ++ reports.map fun m => m.2.moment) := by
  induction reports generalizing g moments with
  | nil =>
    rw [List.map_nil, List.append_nil]
    exact h
  | cons m reports ih =>
    rw [List.foldl_cons, List.map_cons, List.append_cons]
    exact ih (h.report m)

theorem Going.stop (h : Going policy g moments) (now : Timestamp) (rendered : ℕ) :
    Outcome policy (g.stop now rendered) (moments ++ [.stopped]) := by
  have hsame : failures (moments ++ [.stopped]) = failures moments := failures_stopped
  exact h.last rfl (congrArg (· + 1) (h.count.trans hsame.symm)) (fun hpositive => hsame.trans_le (h.below hpositive).le) rfl
    rfl (iff_of_true rfl rfl)

/-- A failure is counted, and the gateway goes on when the attempts are not exhausted. -/
theorem Going.retry (h : Going policy g moments) (now : Timestamp) (random : ℚ) (result : AttemptResult) :
    Outcome policy (g.retry policy now random result) (moments ++ [.failed]) := by
  have hfailed : g.failureCount + 1 = failures (moments ++ [.failed]) := by rw [failures_failed, h.count]
  have hbounded : 0 < policy.maxAttempts → failures (moments ++ [.failed]) ≤ policy.maxAttempts := fun hpositive => by
    rw [failures_failed]
    exact h.below hpositive
  unfold EgressGateway.retry
  dsimp only
  split
  · refine h.last rfl (congrArg (· + 1) hfailed) hbounded ?_ rfl (iff_of_false (by decide) ?_)
    · dsimp only
      split <;> rfl
    · dsimp only
      split <;> exact EgressStatus.noConfusion
  · split
    · exact h.last rfl (congrArg (· + 1) hfailed) hbounded rfl rfl (iff_of_false (by decide) EgressStatus.noConfusion)
    · rename_i hexhausted
      split
      · exact Accounted.outcome ⟨h.numbered.moment h.written, fun hraised => absurd rfl (hraised now),
          h.bounded.concat hbounded, .raised rfl h.statuses⟩ (Option.some_ne_none _)
      · have hbelow : 0 < policy.maxAttempts → failures (moments ++ [.failed]) < policy.maxAttempts := fun hpositive => by
          rw [← hfailed]
          by_contra hle
          exact hexhausted (by simp [ReconnectPolicy.exhausted, hpositive, not_lt.mp hle])
        exact Going.outcome (h.write rfl rfl hfailed hbelow rfl h.running)

/-- A round, with the attempt or the guard's answer in it. -/
theorem round_eq (hexit : g.exit = none) (hgoes : r.stopBefore = none) : g.round policy r =
    if r.ending = .stopped then (r.reports.foldl EgressGateway.takeReport g).stop r.ended r.result.renderedBuffers
    else (r.reports.foldl EgressGateway.takeReport g).retry policy r.ended r.random r.result := by
  unfold EgressGateway.round Round.ending Round.reports Round.result
  rw [hexit, hgoes]
  cases r.blocked with
  | none =>
    dsimp only [Option.isSome]
    rw [if_neg Bool.false_ne_true, if_neg Bool.false_ne_true]
    split
    · rfl
    · rfl
  | some blocked =>
    dsimp only [Option.isSome]
    rw [if_neg Bool.false_ne_true, if_pos rfl]
    split
    · rfl
    · rfl

theorem Going.round (h : Going policy g moments) : Outcome policy (g.round policy r) (moments ++ r.moments) := by
  cases hstop : r.stopBefore with
  | some waited =>
    have hround : g.round policy r = g.stop (g.idleSince + waited) 0 := by
      unfold EgressGateway.round
      rw [h.running, hstop]
      rfl
    rw [hround, Round.moments, hstop]
    exact h.stop _ _
  | none =>
    rw [round_eq h.running hstop, Round.moments, hstop, Option.isSome_none, if_neg Bool.false_ne_true, ← List.append_assoc]
    split
    · rename_i hending
      rw [hending]
      exact h.reports.stop _ _
    · rename_i hending
      have hfailed : r.ending = .failed := by
        unfold Round.ending at hending ⊢
        split
        · rename_i hstopped
          exact absurd (if_pos hstopped) hending
        · rfl
      rw [hfailed]
      exact h.reports.retry _ _ _

theorem outcome_start : Outcome policy (.start startedAt now startup) [] := by
  have hbounded : Bounded policy [] := fun i _ => by
    rw [List.take_nil]
    exact Nat.zero_le _
  have hnumbered : ∀ {w : StatusRecord}, w.attempt = 1 → Numbered [w] [] := fun hw i w' hw' => by
    rw [List.take_nil]
    rw [← List.mem_singleton.mp (List.mem_of_getElem? hw')] at hw
    exact hw
  cases startup with
  | badSinkFactory =>
    refine Accounted.outcome ⟨hnumbered rfl, fun _ => rfl, hbounded, .returned rfl (List.nil_append _).symm (fun w hw => by cases hw) rfl ?_⟩
      (Option.some_ne_none _)
    exact iff_of_false (by decide) EgressStatus.noConfusion
  | secretUnavailable =>
    refine Accounted.outcome ⟨hnumbered rfl, fun _ => rfl, hbounded, .returned rfl (List.nil_append _).symm (fun w hw => by cases hw) rfl ?_⟩
      (Option.some_ne_none _)
    exact iff_of_false (by decide) EgressStatus.noConfusion
  | ready scheme host =>
    refine Going.outcome ⟨⟨hnumbered rfl, fun _ => rfl, hbounded, .running rfl fun w hw => ?_⟩, rfl, rfl, id⟩
    rw [List.mem_singleton.mp hw]
    rfl

theorem run_of_ended (hexit : g.exit ≠ none) : g.run policy rounds = g := by
  unfold EgressGateway.run
  induction rounds with
  | nil => rfl
  | cons r rounds ih => rw [List.foldl_cons, round_of_ended hexit, ih]

theorem moments_of_ended (hexit : g.exit ≠ none) : g.moments policy rounds = [] := by
  cases rounds with
  | nil => rfl
  | cons r rounds =>
    rw [EgressGateway.moments]
    exact if_pos (Option.isSome_iff_ne_none.mpr hexit)

theorem Outcome.run (h : Outcome policy g moments) : Outcome policy (g.run policy rounds) (moments ++ g.moments policy rounds) := by
  induction rounds generalizing g moments with
  | nil =>
    rw [EgressGateway.moments, List.append_nil]
    exact h
  | cons r rounds ih =>
    by_cases hexit : g.exit = none
    · rw [EgressGateway.moments, hexit, Option.isSome_none, if_neg Bool.false_ne_true, ← List.append_assoc]
      exact ih (h.going hexit).round
    · rw [moments_of_ended hexit, run_of_ended hexit, List.append_nil]
      exact h

theorem outcome_run : Outcome policy ((EgressGateway.start startedAt now startup).run policy rounds)
    ((EgressGateway.start startedAt now startup).moments policy rounds) :=
  (outcome_start.run : Outcome policy _ ([] ++ _))

/-! ### The outcome -/

theorem Concluded.mem_dropLast (h : Concluded g) : ∀ w ∈ g.writes.dropLast, w.status.terminal = false := by
  intro w hw
  cases h with
  | running hexit h => exact h w (List.dropLast_subset _ hw)
  | returned hexit hwrites hbefore hlast hcode =>
    rw [hwrites, List.dropLast_concat] at hw
    exact hbefore w hw
  | raised hexit h => exact h w (List.dropLast_subset _ hw)

theorem terminal_cases {status : EgressStatus} (h : status.terminal = true) :
    status ≠ .stopped ↔ status = .authFailed ∨ status = .failed := by
  cases status with
  | authFailed => exact iff_of_true EgressStatus.noConfusion (.inl rfl)
  | failed => exact iff_of_true EgressStatus.noConfusion (.inr rfl)
  | stopped => exact iff_of_false (not_not.mpr rfl) (by rintro (h | h) <;> cases h)
  | starting => cases h
  | connected => cases h
  | reconnecting => cases h

/-- The exit code goes with the last status. -/
theorem Concluded.returns {n : ℕ} (h : Concluded g) (hcode : g.exit = some (.code n)) : ∃ last, g.writes.getLast? = some last ∧
    (last.status = .stopped ↔ n = 0) ∧ (last.status = .authFailed ∨ last.status = .failed ↔ n ≠ 0) := by
  cases h with
  | running hexit h => cases hcode.symm.trans hexit
  | raised hexit h => cases hcode.symm.trans hexit
  | @returned n' before last hexit hwrites hbefore hlast hstopped =>
    obtain rfl : n = n' := Exit.code.inj (Option.some.inj (hcode.symm.trans hexit))
    refine ⟨last, by rw [hwrites, List.getLast?_concat], hstopped.symm, ?_⟩
    rw [← terminal_cases hlast]
    exact (not_congr hstopped).symm

theorem Concluded.ended (h : Concluded g) (hw : w ∈ g.writes) (hterminal : w.status.terminal = true) : g.exit ≠ none := by
  intro hexit
  cases h with
  | running _ h => exact absurd hterminal (by rw [h w hw]; exact Bool.false_ne_true)
  | returned hcode => cases hexit.symm.trans hcode
  | raised hraised => cases hexit.symm.trans hraised

/-- An attempt with a terminal result is the last one. -/
theorem ended_of_terminal (hexit : g.exit = none) (hgoes : r.stopBefore = none) (hterminal : r.result.terminal = true) :
    (g.round policy r).exit ≠ none := by
  rw [round_eq hexit hgoes]
  split
  · exact Option.some_ne_none _
  · unfold EgressGateway.retry
    dsimp only
    rw [if_pos hterminal]
    exact Option.some_ne_none _

/-- Nothing happens in the rounds after these ones. -/
def Settled (policy : ReconnectPolicy) (g : EgressGateway) (before rounds : List Round) : Prop :=
  g.run policy rounds = g.run policy before ∧ g.moments policy rounds = g.moments policy before

theorem moments_append {before after : List Round} : g.moments policy (before ++ after) =
    g.moments policy before ++ (g.run policy before).moments policy after := by
  induction before generalizing g with
  | nil => rfl
  | cons r before ih =>
    by_cases hexit : g.exit = none
    · rw [List.cons_append, EgressGateway.moments, EgressGateway.moments, hexit, Option.isSome_none,
        if_neg Bool.false_ne_true, if_neg Bool.false_ne_true, ih, List.append_assoc]
      rfl
    · rw [moments_of_ended hexit, moments_of_ended hexit, run_of_ended hexit, moments_of_ended hexit]
      rfl

theorem settled_of_ended {before after : List Round} (h : (g.run policy before).exit ≠ none) :
    Settled policy g before (before ++ after) := by
  constructor
  · have hrun : g.run policy (before ++ after) = (g.run policy before).run policy after := List.foldl_append
    rw [hrun, run_of_ended h]
  · rw [moments_append, moments_of_ended h, List.append_nil]

/-- **The outcome of a gateway, after any rounds.** It returns zero exactly when its last status is that it was stopped, it
    does nothing after a terminal status or a terminal result, and the status that is written for each moment counts the
    attempts that have failed since the last connection, of which there are no more than there may be. -/
theorem gateway_outcome (policy : ReconnectPolicy) (startedAt now : Timestamp) (startup : EgressGateway.Startup)
    (rounds : List Round) :
    let start := EgressGateway.start startedAt now startup
    let g := start.run policy rounds
    let moments := start.moments policy rounds
    (∀ n, g.exit = some (.code n) → ∃ last, g.writes.getLast? = some last ∧ (last.status = .stopped ↔ n = 0) ∧
      (last.status = .authFailed ∨ last.status = .failed ↔ n ≠ 0)) ∧
    (∀ w ∈ g.writes.dropLast, w.status.terminal = false) ∧
    (∀ before after, rounds = before ++ after → (∃ w ∈ (start.run policy before).writes, w.status.terminal = true) →
      Settled policy start before rounds) ∧
    (∀ before r after, rounds = before ++ r :: after → (start.run policy before).exit = none → r.stopBefore = none →
      r.result.terminal = true → Settled policy start (before ++ [r]) rounds) ∧
    (0 < policy.maxAttempts → ∀ front mid back, moments = front ++ mid ++ back → .connected ∉ mid →
      mid.count .failed ≤ policy.maxAttempts) ∧
    ((∀ t, g.exit ≠ some (.raised t)) → g.writes.length = moments.length + 1) ∧
    (∀ i w, g.writes[i]? = some w → w.attempt = 1 + failures (moments.take i)) := by
  intro start g moments
  have houtcome : Outcome policy g moments := outcome_run
  refine ⟨fun n hcode => houtcome.concluded.returns hcode, houtcome.concluded.mem_dropLast, ?_, ?_, ?_, houtcome.length,
    houtcome.numbered⟩
  · rintro before after rfl ⟨w, hw, hterminal⟩
    have hbefore : Outcome policy (start.run policy before) (start.moments policy before) := outcome_run
    exact settled_of_ended (hbefore.concluded.ended hw hterminal)
  · rintro before r after rfl hexit hgoes hterminal
    have hsplit : before ++ r :: after = before ++ [r] ++ after := List.append_cons before r after
    rw [hsplit]
    refine settled_of_ended ?_
    have hround : start.run policy (before ++ [r]) = (start.run policy before).round policy r := by
      unfold EgressGateway.run
      rw [List.foldl_append]
      rfl
    rw [hround]
    exact ended_of_terminal hexit hgoes hterminal
  · intro hpositive front mid back hmoments hmid
    have hbounded := houtcome.bounded (front ++ mid).length hpositive
    rw [hmoments, List.take_left' rfl] at hbounded
    exact (count_le_failures hmid).trans hbounded

end
end IRLight.Egress
