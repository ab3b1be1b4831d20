import IRLight.Theorems.ChildSupervision
import Mathlib.Algebra.Order.Field.Rat
import Mathlib.Algebra.Order.Ring.NNRat
import Mathlib.Data.List.Chain
import Mathlib.Tactic.Linarith

/-! # The liveness window of a punctual child

The child reports at the first of its polls that is due, so its reports follow each other by the heartbeat rounded up to
polls at most. The window is only armed when it is longer. -/

namespace IRLight.Egress

/-! ### The interval -/

/-- A poll that is not due yet is followed by another one within the interval. -/
theorem poll_after_le_interval {heartbeat : Timestamp} (hbeat : 0 < heartbeat) {polls : ℕ}
    (hdue : (polls : ℚ) / 4 < heartbeat) : ((polls + 1 : ℕ) : ℚ) / 4 ≤ heartbeatReportInterval heartbeat := by
  have hfloor := Int.floor_le ((heartbeat : ℚ) / (1 / 4))
  have hnext := Int.lt_floor_add_one ((heartbeat : ℚ) / (1 / 4))
  unfold heartbeatReportInterval
  rw [if_neg (not_le.mpr hbeat)]
  dsimp only
  generalize ⌊(heartbeat : ℚ) / (1 / 4)⌋ = quotient at hfloor hnext ⊢
  split
  · rename_i hremainder
    have hpolls : (polls : ℚ) < quotient := by linarith
    have hint : (polls : ℤ) + 1 ≤ quotient := by exact_mod_cast hpolls
    have hrat : (polls : ℚ) + 1 ≤ quotient := by exact_mod_cast hint
    push_cast
    linarith
  · have hpolls : (polls : ℚ) < quotient + 1 := by linarith
    have hint : (polls : ℤ) < quotient + 1 := by exact_mod_cast hpolls
    have hrat : (polls : ℚ) ≤ quotient := by exact_mod_cast Int.lt_add_one_iff.mp hint
    push_cast
    linarith

/-! ### The child -/

/-- The attempt is connected, and its next report is due. -/
def EgressAttempt.ReportDue (config : AttemptConfig) (a : EgressAttempt) (now : Timestamp) : Prop :=
  a.connectedOnce = true ∧ 0 < config.statusHeartbeatSeconds ∧ a.lastProgressAt + config.statusHeartbeatSeconds ≤ now

section
variable (config : AttemptConfig) (started phase : Timestamp)

/-- The time of a poll. The polls are 250 ms apart. -/
def pollAt (n : ℕ) : Timestamp := phase + (n : Timestamp) / (4 : ℕ)

/-- The polls so far, none of which ended the attempt, and what they reported. A report is made at the first poll at which
    it is due. -/
inductive PunctualChild : ℕ → EgressAttempt → List (Timestamp × Report) → Prop
  | start : PunctualChild 0 (.new started) []
  | poll {n : ℕ} {a a' : EgressAttempt} {sent : List (Timestamp × Report)} {p : Poll} {r : Option Report}
      (before : PunctualChild n a sent) (htime : p.now = pollAt phase n) (h : a.pollSink config p = (a', r, none))
      (hdue : a.ReportDue config p.now → ∃ rendered, r = some (.progress rendered)) :
      PunctualChild (n + 1) a' (sent ++ r.toList.map fun r => (p.now, r))

/-- The last report was made at an earlier poll, and no other one was due since. -/
structure LastReported (n : ℕ) (a : EgressAttempt) (sent : List (Timestamp × Report)) : Prop where
  last : sent.getLast?.map Prod.fst = some a.lastProgressAt
  undue : ∃ reported silent, n = reported + silent + 1 ∧ a.lastProgressAt = pollAt phase reported ∧
    (silent : ℚ) / 4 < config.statusHeartbeatSeconds

/-- The reports follow each other within the interval. -/
structure Regular (n : ℕ) (a : EgressAttempt) (sent : List (Timestamp × Report)) : Prop where
  silent : a.connectedOnce = false → sent = []
  connected : a.connectedOnce = true → LastReported config phase n a sent
  gaps : sent.IsChain fun m m' => (m'.1 : ℚ) ≤ m.1 + heartbeatReportInterval config.statusHeartbeatSeconds

end

section
variable {config : AttemptConfig} {started phase : Timestamp} {n : ℕ} {a a' : EgressAttempt} {p : Poll} {r : Option Report}
  {sent : List (Timestamp × Report)}

theorem coe_pollAt : ((pollAt phase n : Timestamp) : ℚ) = phase + (n : ℚ) / 4 := by
  unfold pollAt
  push_cast
  rfl

/-- The next poll is within the interval after the last report. -/
theorem LastReported.next_le (h : LastReported config phase n a sent) (hbeat : 0 < config.statusHeartbeatSeconds) :
    (pollAt phase n : ℚ) ≤ a.lastProgressAt + heartbeatReportInterval config.statusHeartbeatSeconds := by
  obtain ⟨reported, silent, rfl, hlast, hundue⟩ := h.undue
  have hinterval := poll_after_le_interval hbeat hundue
  rw [hlast, coe_pollAt, coe_pollAt]
  push_cast at hinterval ⊢
  linarith

/-- A poll that reports starts the interval again. -/
theorem LastReported.report {n : ℕ} {m : Report} (hbeat : 0 < config.statusHeartbeatSeconds) (htime : p.now = pollAt phase n)
    (hlast : a'.lastProgressAt = p.now) : LastReported config phase (n + 1) a' (sent ++ [(p.now, m)]) := by
  refine ⟨by rw [List.getLast?_concat, hlast]; rfl, n, 0, rfl, hlast.trans htime, ?_⟩
  rw [Nat.cast_zero, zero_div]
  exact_mod_cast hbeat

theorem LastReported.quiet (h : LastReported config phase n a sent) (htime : p.now = pollAt phase n)
    (hlast : a'.lastProgressAt = a.lastProgressAt) (hundue : p.now < a.lastProgressAt + config.statusHeartbeatSeconds) :
    LastReported config phase (n + 1) a' sent := by
  obtain ⟨reported, silent, rfl, hreported, -⟩ := h.undue
  refine ⟨hlast ▸ h.last, reported, silent + 1, rfl, hlast.trans hreported, ?_⟩
  have hundue' : (p.now : ℚ) < a.lastProgressAt + config.statusHeartbeatSeconds := by exact_mod_cast hundue
  rw [htime, hreported, coe_pollAt, coe_pollAt] at hundue'
  push_cast at hundue' ⊢
  linarith

theorem Regular.poll (h : Regular config phase n a sent) (hbeat : 0 < config.statusHeartbeatSeconds)
    (htime : p.now = pollAt phase n) (hpoll : a.pollSink config p = (a', r, none))
    (hdue : a.ReportDue config p.now → ∃ rendered, r = some (.progress rendered)) :
    Regular config phase (n + 1) a' (sent ++ r.toList.map fun r => (p.now, r)) := by
  rcases EgressAttempt.pollSink_cases hpoll with ⟨-, -, hnone⟩ | ⟨progressChanged, hreports, -, -⟩
  · exact absurd rfl hnone
  · cases hreports with
    | quiet hconnected hlast _ =>
      rw [Option.toList_none, List.map_nil, List.append_nil]
      refine ⟨fun hafter => h.silent (hconnected ▸ hafter), fun hafter => ?_, h.gaps⟩
      rw [hconnected] at hafter
      refine (h.connected hafter).quiet htime hlast (not_le.mp fun hle => ?_)
      obtain ⟨rendered, hrendered⟩ := hdue ⟨hafter, hbeat, hle⟩
      cases hrendered
    | connected rendered hbefore hconnected hlast =>
      rw [h.silent hbefore]
      refine ⟨fun hafter => ?_, fun _ => .report hbeat htime hlast, .singleton _⟩
      rw [hconnected] at hafter
      cases hafter
    | progress rendered hbefore hconnected hlast =>
      refine ⟨fun hafter => ?_, fun _ => .report hbeat htime hlast, ?_⟩
      · rw [hconnected] at hafter
        cases hafter
      · have hreported := h.connected hbefore
        refine List.isChain_append.mpr ⟨h.gaps, .singleton _, fun m hm m' hm' => ?_⟩
        obtain rfl := Option.some.inj hm'
        have htime' : m.1 = a.lastProgressAt := by
          have hlast := hreported.last
          rw [hm] at hlast
          exact Option.some.inj hlast
        rw [htime', htime]
        exact hreported.next_le hbeat

theorem PunctualChild.regular (h : PunctualChild config started phase n a sent) (hbeat : 0 < config.statusHeartbeatSeconds) :
    Regular config phase n a sent := by
  induction h with
  | start => exact ⟨fun _ => rfl, fun hconnected => (by cases hconnected), .nil⟩
  | poll before htime h hdue ih => exact ih.poll hbeat htime h hdue

/-- What has been sent ends with a report that the next poll follows within the interval. -/
theorem Regular.horizon (h : Regular config phase n a sent) (hbeat : 0 < config.statusHeartbeatSeconds)
    {m : Timestamp × Report} (hm : m ∈ sent.getLast?) :
    (pollAt phase n : ℚ) ≤ m.1 + heartbeatReportInterval config.statusHeartbeatSeconds := by
  cases hconnected : a.connectedOnce with
  | false =>
    rw [h.silent hconnected] at hm
    cases hm
  | true =>
    have hreported := h.connected hconnected
    have htime : m.1 = a.lastProgressAt := by
      have hlast := hreported.last
      rw [hm] at hlast
      exact Option.some.inj hlast
    rw [htime]
    exact hreported.next_le hbeat

end

/-! ### The parent -/

/-- Iterations that have read so many of the child's messages. A message is read once it has been sent, and at once: an
    iteration that finds none is over before the next one is sent, and before the child's next poll. -/
inductive Heard (sent : List (Timestamp × Report)) (next : Timestamp) : List Turn → ℕ → Prop
  | start : Heard sent next [] 0
  | idle {turns : List Turn} {k : ℕ} {t : Turn} (before : Heard sent next turns k) (h : t.polled = .idle)
      (hunread : ∀ m ∈ sent[k]?, t.checkedAt ≤ m.1) (hnext : t.checkedAt ≤ next) : Heard sent next (turns ++ [t]) k
  | message {turns : List Turn} {k : ℕ} {t : Turn} {m : Timestamp × Report} (before : Heard sent next turns k)
      (hm : sent[k]? = some m) (h : t.polled = .message m.2.envelope) (hsent : m.1 ≤ t.refreshedAt)
      (hclock : t.checkedAt = t.refreshedAt) : Heard sent next (turns ++ [t]) (k + 1)

/-- The deadline is a window after the last message that was read, at least. -/
def Refreshed (config : SuperviseConfig) (sent : List (Timestamp × Report)) (k : ℕ) (s : Supervision) : Prop :=
  ∀ d ∈ s.livenessDeadline, livenessWindowCanBeArmed config.livenessTimeout config.statusHeartbeat = true ∧
    ∃ i m, k = i + 1 ∧ sent[i]? = some m ∧ m.1 + config.livenessTimeout ≤ d

section
variable {config : SuperviseConfig} {attempt : AttemptConfig} {started phase startedAt next : Timestamp}
  {process : ChildProcess} {a : EgressAttempt} {sent : List (Timestamp × Report)} {m : Timestamp × Report}
  {s s' : Supervision} {t : Turn} {front turns : List Turn} {k n : ℕ} {leave : Leave}

theorem livenessWindowCanBeArmed_iff {livenessTimeout statusHeartbeat : Timestamp} :
    livenessWindowCanBeArmed livenessTimeout statusHeartbeat = true ↔
      0 < livenessTimeout ∧ 0 < statusHeartbeat ∧ heartbeatReportInterval statusHeartbeat < livenessTimeout := by
  simp only [livenessWindowCanBeArmed, Bool.and_eq_true, decide_eq_true_eq, and_assoc]

theorem livenessDeadline_noticeStop : (s.noticeStop config t).livenessDeadline = s.livenessDeadline := by
  unfold Supervision.noticeStop
  split <;> rfl

/-- A message refreshes the deadline, and arms it only when it can be armed. -/
theorem accept_report {r : Report} (h : s.accept config t r.message = .ok s') : ∀ d ∈ s'.livenessDeadline,
    livenessWindowCanBeArmed config.livenessTimeout config.statusHeartbeat = true ∨ ∃ d', d' ∈ s.livenessDeadline := by
  intro d hd
  cases r with
  | connected rendered =>
    rw [← Except.ok.inj h] at hd
    dsimp only at hd
    split at hd
    · rename_i harmed
      exact .inl harmed
    · exact .inr ⟨d, hd⟩
  | progress rendered =>
    rw [← Except.ok.inj h] at hd
    exact .inr ⟨d, hd⟩

theorem Refreshed.idle (h : Refreshed config sent k s) (hidle : t.polled = .idle)
    (hreceive : (s.noticeStop config t).receive config t = .ok s') : Refreshed config sent k s' := by
  unfold Supervision.receive at hreceive
  rw [hidle] at hreceive
  rw [← Except.ok.inj hreceive]
  unfold Refreshed
  rw [livenessDeadline_noticeStop]
  exact h

theorem Refreshed.message (h : Refreshed config sent k s) (hm : sent[k]? = some m)
    (hpolled : t.polled = .message m.2.envelope) (hsent : m.1 ≤ t.refreshedAt)
    (hreceive : (s.noticeStop config t).receive config t = .ok s') :
    Refreshed config sent (k + 1) s' ∧ ∀ d ∈ s'.livenessDeadline, d = t.refreshedAt + config.livenessTimeout := by
  unfold Supervision.receive at hreceive
  rw [hpolled] at hreceive
  dsimp only at hreceive
  rw [parseChildMessage_envelope] at hreceive
  obtain ⟨s₁, haccept, hrefresh⟩ := bind_eq_ok.mp hreceive
  rw [← pure_eq_ok.mp hrefresh]
  have hdeadline : ∀ d ∈ (s₁.refresh config t).livenessDeadline,
      d = t.refreshedAt + config.livenessTimeout ∧ ∃ d', d' ∈ s₁.livenessDeadline := by
    intro d hd
    obtain ⟨d', hd', rfl⟩ := Option.map_eq_some_iff.mp hd
    exact ⟨rfl, d', hd'⟩
  refine ⟨fun d hd => ?_, fun d hd => (hdeadline d hd).1⟩
  obtain ⟨rfl, d', hd'⟩ := hdeadline d hd
  refine ⟨?_, k, m, rfl, hm, add_le_add_left hsent _⟩
  rcases accept_report haccept d' hd' with harmed | ⟨d'', hd''⟩
  · exact harmed
  · rw [livenessDeadline_noticeStop] at hd''
    exact (h d'' hd'').1

/-- The next message that is read, or the next poll, is within the interval after the last message that was read. -/
theorem Regular.unread (h : Regular attempt phase n a sent) (hbeat : 0 < attempt.statusHeartbeatSeconds) {i : ℕ}
    (hm : sent[i]? = some m) {now : Timestamp} (hunread : ∀ m' ∈ sent[i + 1]?, now ≤ m'.1) (hnext : now ≤ pollAt phase n) :
    (now : ℚ) ≤ m.1 + heartbeatReportInterval attempt.statusHeartbeatSeconds := by
  obtain ⟨hi, hget⟩ := List.getElem?_eq_some_iff.mp hm
  by_cases hlast : i + 1 < sent.length
  · have hgap := List.isChain_iff_getElem.mp h.gaps i hlast
    rw [hget] at hgap
    have hle : (now : ℚ) ≤ (sent[i + 1]).1 := by exact_mod_cast hunread _ (List.getElem?_eq_getElem hlast)
    exact hle.trans hgap
  · have hend : m ∈ sent.getLast? := by
      rw [List.getLast?_eq_getElem?, show sent.length - 1 = i by omega]
      exact hm
    have hle : (now : ℚ) ≤ pollAt phase n := by exact_mod_cast hnext
    exact hle.trans (h.horizon hbeat hend)

/-- What every iteration finds that has read the messages so far. -/
theorem Heard.refreshed (h : Heard sent next turns k)
    (hthrough : (Supervision.start config startedAt process).through config turns = some s) :
    Refreshed config sent k s := by
  induction h generalizing s with
  | start =>
    rw [← Option.some.inj hthrough]
    intro d hd
    cases hd
  | idle before hidle hunread hnext ih =>
    obtain ⟨s₁, hfront, hturn⟩ := through_concat hthrough
    obtain ⟨s₂, hreceive, -, rfl⟩ := turn_ok hturn
    have hrefreshed : Refreshed config sent _ s₂ := (ih hfront).idle hidle hreceive
    exact hrefreshed
  | message before hm hmessage hsent hclock ih =>
    obtain ⟨s₁, hfront, hturn⟩ := through_concat hthrough
    obtain ⟨s₂, hreceive, -, rfl⟩ := turn_ok hturn
    have hrefreshed : Refreshed config sent _ s₂ := ((ih hfront).message hm hmessage hsent hreceive).1
    exact hrefreshed

/-- The window is longer than the interval, so it is not over when the next message is sent. -/
theorem livenessDeadline_not_due (hheartbeat : attempt.statusHeartbeatSeconds = config.statusHeartbeat)
    (hchild : PunctualChild attempt started phase n a sent) (hheard : Heard sent (pollAt phase n) (front ++ [t]) k)
    (hthrough : (Supervision.start config startedAt process).through config front = some s)
    (hreceive : (s.noticeStop config t).receive config t = .ok s') :
    Supervision.due s'.livenessDeadline t.checkedAt = false := by
  unfold Supervision.due
  rw [Option.any_eq_false]
  intro d hd
  rw [decide_eq_false_iff_not, not_le]
  generalize hturns : front ++ [t] = turns at hheard
  cases hheard with
  | start => exact absurd hturns (List.append_ne_nil_of_right_ne_nil _ (List.cons_ne_nil t []))
  | idle before hidle hunread hnext =>
    obtain ⟨rfl, ht⟩ := List.append_inj' hturns rfl
    obtain rfl := List.singleton_inj.mp ht
    obtain ⟨harmed, i, m, rfl, hm, hle⟩ := (before.refreshed hthrough).idle hidle hreceive d hd
    obtain ⟨-, hbeat, hwindow⟩ := livenessWindowCanBeArmed_iff.mp harmed
    rw [← hheartbeat] at hbeat hwindow
    have hquiet := (hchild.regular hbeat).unread hbeat hm hunread hnext
    have hdeadline : (m.1 : ℚ) + config.livenessTimeout ≤ d := by exact_mod_cast hle
    have hlt : (t.checkedAt : ℚ) < d := by linarith
    exact_mod_cast hlt
  | message before hm hmessage hsent hclock =>
    obtain ⟨rfl, ht⟩ := List.append_inj' hturns rfl
    obtain rfl := List.singleton_inj.mp ht
    obtain ⟨hrefreshed, hdeadline⟩ := (before.refreshed hthrough).message hm hmessage hsent hreceive
    obtain ⟨hwindow, -, -⟩ := livenessWindowCanBeArmed_iff.mp (hrefreshed d hd).1
    rw [hdeadline d hd, hclock]
    exact lt_add_of_pos_right _ hwindow

/-- **A punctual child is never fenced by the liveness deadline**, whatever the timers are, whatever the phase of its polls
    is and however long it runs. -/
theorem punctual_child_not_fenced (hheartbeat : attempt.statusHeartbeatSeconds = config.statusHeartbeat)
    (hchild : PunctualChild attempt started phase n a sent) (hheard : Heard sent (pollAt phase n) (front ++ [t]) k)
    (hleft : Left config (.start config startedAt process) front t s leave) : leave.site? ≠ some .livenessDeadline := by
  intro hsite
  cases turn_error hleft.leaves with
  | closed h => cases hsite
  | malformed h hcaught => cases hsite
  | uncaught h error hother => cases hsite
  | answered result h => cases hsite
  | due s' hreceive leave hdue =>
    have hlive := livenessDeadline_not_due hheartbeat hchild hheard hleft.through hreceive
    unfold Supervision.checkDeadlines at hdue
    rw [hlive] at hdue
    split at hdue
    · rw [← Except.error.inj hdue] at hsite
      cases hsite
    · split at hdue
      · rw [← Except.error.inj hdue] at hsite
        cases hsite
      · split at hdue
        · rw [← Except.error.inj hdue] at hsite
          cases hsite
        · rw [if_neg Bool.false_ne_true] at hdue
          cases hdue
  | exited s' hreceive hexited => cases hsite

end

namespace LivenessSample

/-- The shortest heartbeat that the polls can keep, with no stability window. -/
def attempt : AttemptConfig := ⟨(15 : ℕ), 1 / (4 : ℕ), 0, (5 : ℕ), .rtmpsink⟩

def config : SuperviseConfig :=
  { ChildSample.config with livenessTimeout := (3 : ℕ) / (10 : ℕ), statusHeartbeat := 1 / (4 : ℕ) }

def poll (n : ℕ) : Poll :=
  ⟨false, pollAt 0 n, pollAt 0 n, [("rendered", .int (n + 1))], 0⟩

def child (polls : List Poll) : EgressAttempt := polls.foldl (fun a p => (a.pollSink attempt p).1) (.new 0)

/-- What the two polls report. -/
def sent : List (Timestamp × Report) := [(pollAt 0 0, .connected 1), (pollAt 0 1, .progress 2)]

theorem punctual : PunctualChild attempt 0 0 2 (child [poll 0, poll 1]) sent := by
  have hfirst : ((child []).pollSink attempt (poll 0)).2 = (some (.connected 1), none) := by decide +kernel
  have hsecond : ((child [poll 0]).pollSink attempt (poll 1)).2 = (some (.progress 2), none) := by decide +kernel
  have hdown : (child []).connectedOnce = false := by decide +kernel
  refine .poll (.poll .start rfl (Prod.ext rfl hfirst) fun hdue => ?_) rfl (Prod.ext rfl hsecond) fun _ => ⟨2, rfl⟩
  cases hdown.symm.trans hdue.1

/-- The connection is read at once. -/
def reads : Turn :=
  { ChildSample.reads (.message (Report.connected 1).envelope) with refreshedAt := 0, checkedAt := 0 }

/-- Nothing is there for a poll's time, and the child has exited. -/
def exits : Turn := { ChildSample.reads .idle with checkedAt := 1 / (4 : ℕ), exits := some 1 }

theorem heard : Heard sent (pollAt 0 2) ([reads] ++ [exits]) 1 := by
  refine .idle (.message .start rfl rfl (le_of_eq ?_) rfl) rfl (fun m hm => ?_) ?_
  · decide +kernel
  · rw [← Option.some.inj hm]
    decide +kernel
  · decide +kernel

end LivenessSample

open LivenessSample in
theorem punctual_child_not_fenced_sample : ∃ s leave, Left config (.start config 0 .alive) [reads] exits s leave ∧
    leave.site? ≠ some .livenessDeadline := by
  have hgoes : ((Supervision.start config 0 .alive).through config [reads]).isSome := by decide +kernel
  have hends : (((Supervision.start config 0 .alive).through config [reads]).bind fun s =>
      (s.turn config exits).toOption).isNone := by decide +kernel
  obtain ⟨s, hs⟩ := Option.isSome_iff_exists.mp hgoes
  rw [hs, Option.bind_some] at hends
  cases hturn : s.turn config exits with
  | ok s' =>
    rw [hturn] at hends
    cases hends
  | error leave => exact ⟨s, leave, ⟨hs, hturn⟩, punctual_child_not_fenced rfl punctual heard ⟨hs, hturn⟩⟩

end IRLight.Egress
