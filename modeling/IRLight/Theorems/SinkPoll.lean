import IRLight.Egress.Attempt
import Mathlib.Algebra.Order.Ring.NNRat
import Mathlib.Data.List.DropRight

/-! # The timers of a sink

A sink is connected after a window of polls that were all ready, and its output has stalled when its counters have not
advanced for the stall timeout. A counter that falls back does not advance until it is above what it was. -/

namespace IRLight.Egress

section
variable (config : AttemptConfig) (started : Timestamp)

/-- What the sink shows at a poll. -/
def Poll.sample (p : Poll) : SinkProgress := sinkProgress config.sinkFactory p.stats p.observedSinkBuffers

/-- The counters that are trusted and the time since when, after another poll. -/
def advance (trusted : (ℕ × ℕ) × Timestamp) (p : Poll) : (ℕ × ℕ) × Timestamp :=
  if progressMarkerAdvanced trusted.1 (p.sample config).progressMarker then ((p.sample config).progressMarker, p.now)
  else trusted

/-- The trusted counters after all these polls, and the time of the last advance, which is the start if there is none. -/
def lastAdvance (history : List Poll) : (ℕ × ℕ) × Timestamp := history.foldl (advance config) ((0, 0), started)

/-- The polls at the end that were all ready. -/
def readyWindow (history : List Poll) : List Poll := history.rtakeWhile fun p => (p.sample config).ready

/-- The polls so far, none of which ended the attempt, and what they reported. -/
inductive SinkPolled : List Poll → EgressAttempt → List Report → Prop
  | start : SinkPolled [] (.new started) []
  | poll {history : List Poll} {a a' : EgressAttempt} {reports : List Report} {p : Poll} {r : Option Report}
      (before : SinkPolled history a reports) (h : a.pollSink config p = (a', r, none)) :
      SinkPolled (history ++ [p]) a' (reports ++ r.toList)

end

section
variable {config : AttemptConfig} {started : Timestamp} {a a' : EgressAttempt} {p : Poll} {r : Option Report}
  {result : Option AttemptResult} {history : List Poll} {reports : List Report}

/-! ### One poll -/

variable (config a p) in
/-- What becomes of the connection at a poll. -/
inductive Connects : EgressAttempt → Option Report → Prop
  | up {a' : EgressAttempt} {r : Option Report} (hbefore : a.connectedOnce = true) (hafter : a'.connectedOnce = true)
      (hr : ∀ n, r ≠ some (.connected n)) : Connects a' r
  | unready {a' : EgressAttempt} (hbefore : a.connectedOnce = false) (hafter : a'.connectedOnce = false)
      (hready : (p.sample config).ready = false) (hfirst : a'.firstRenderedAt = none) : Connects a' none
  | waits {a' : EgressAttempt} (hbefore : a.connectedOnce = false) (hafter : a'.connectedOnce = false)
      (hready : (p.sample config).ready = true) (hfirst : a'.firstRenderedAt = some (a.firstRenderedAt.getD p.now)) :
      Connects a' none
  | connects {a' : EgressAttempt} (n : ℕ) (hbefore : a.connectedOnce = false) (hafter : a'.connectedOnce = true)
      (hready : (p.sample config).ready = true)
      (hwindow : a.firstRenderedAt.getD p.now + config.connectStabilitySeconds ≤ p.now) :
      Connects a' (some (.connected n))

variable (config a p) in
/-- The attempt has not connected, and its time to connect is over. -/
def ConnectExpired : Prop :=
  a.connectedOnce = false ∧ 0 < config.connectTimeoutSeconds ∧
    a.attemptStarted + config.connectTimeoutSeconds ≤ p.checkedAt

variable (config p) in
/-- A connected attempt that has not advanced in time. -/
def Stalled (a : EgressAttempt) : Prop :=
  a.connectedOnce = true ∧ 0 < config.outputStallTimeoutSeconds ∧
    a.lastRenderedAt + config.outputStallTimeoutSeconds ≤ p.now

/-- A poll that is not the last one, whatever the result. -/
structure PollEffect (config : AttemptConfig) (a : EgressAttempt) (p : Poll) (a' : EgressAttempt) (r : Option Report)
    (result : Option AttemptResult) : Prop where
  trusted : (a'.lastProgressMarker, a'.lastRenderedAt) = advance config (a.lastProgressMarker, a.lastRenderedAt) p
  attemptStarted : a'.attemptStarted = a.attemptStarted
  connects : Connects config a p a' r
  stalled : Stalled config p a' → result = some (a'.result "TIMEOUT")
  live : ¬Stalled config p a' → result = none

/-- What a poll takes over from the sink, and what it reports. -/
theorem observe_report {changed : Bool} (h : (a.observe p.now (p.sample config) changed).report config p.now
    (p.sample config).ready changed = (a', r)) :
    (a'.lastProgressMarker, a'.lastRenderedAt) =
        (if changed then ((p.sample config).progressMarker, p.now) else (a.lastProgressMarker, a.lastRenderedAt)) ∧
      a'.attemptStarted = a.attemptStarted ∧ Connects config a p a' r := by
  have hobserved : ((a.observe p.now (p.sample config) changed).lastProgressMarker,
      (a.observe p.now (p.sample config) changed).lastRenderedAt) =
        if changed then ((p.sample config).progressMarker, p.now) else (a.lastProgressMarker, a.lastRenderedAt) := by
    cases changed <;> rfl
  unfold EgressAttempt.report at h
  cases hready : (p.sample config).ready with
  | false =>
    rw [hready, Bool.false_and, if_neg Bool.false_ne_true] at h
    cases hconnected : a.connectedOnce with
    | false =>
      have hfirst : (a.observe p.now (p.sample config) changed).firstRenderedAt = none := by
        unfold EgressAttempt.observe
        rw [hconnected, hready]
        rfl
      rw [if_neg (by simp [EgressAttempt.observe, hconnected])] at h
      obtain ⟨rfl, rfl⟩ := Prod.mk.inj h
      exact ⟨hobserved, rfl, .unready hconnected hconnected hready hfirst⟩
    | true =>
      split at h
      · obtain ⟨rfl, rfl⟩ := Prod.mk.inj h
        exact ⟨hobserved, rfl, .up hconnected hconnected fun n hn => by cases hn⟩
      · obtain ⟨rfl, rfl⟩ := Prod.mk.inj h
        exact ⟨hobserved, rfl, .up hconnected hconnected fun n hn => by cases hn⟩
  | true =>
    rw [hready, Bool.true_and] at h
    cases hconnected : a.connectedOnce with
    | false =>
      have hfirst : (a.observe p.now (p.sample config) changed).firstRenderedAt = a.firstRenderedAt := by
        unfold EgressAttempt.observe
        rw [hready]
        simp
      rw [if_pos (by simp [EgressAttempt.observe, hconnected])] at h
      dsimp only at h
      rw [hfirst] at h
      split at h
      · obtain ⟨rfl, rfl⟩ := Prod.mk.inj h
        exact ⟨hobserved, rfl, .waits hconnected hconnected hready rfl⟩
      · rename_i hwindow
        obtain ⟨rfl, rfl⟩ := Prod.mk.inj h
        exact ⟨hobserved, rfl, .connects _ hconnected rfl hready (not_lt.mp hwindow)⟩
    | true =>
      rw [if_neg (by simp [EgressAttempt.observe, hconnected])] at h
      split at h
      · obtain ⟨rfl, rfl⟩ := Prod.mk.inj h
        exact ⟨hobserved, rfl, .up hconnected hconnected fun n hn => by cases hn⟩
      · obtain ⟨rfl, rfl⟩ := Prod.mk.inj h
        exact ⟨hobserved, rfl, .up hconnected hconnected fun n hn => by cases hn⟩

theorem pollSink_expired (hstopped : p.stopped = false) (h : ConnectExpired config a p) :
    a.pollSink config p = (a, none, some (a.result "TIMEOUT")) := by
  unfold EgressAttempt.pollSink
  rw [hstopped, if_neg Bool.false_ne_true, if_pos (by simp [h.1, h.2.1, h.2.2])]

theorem pollSink_effect (hstopped : p.stopped = false) (hexpired : ¬ConnectExpired config a p)
    (h : a.pollSink config p = (a', r, result)) : PollEffect config a p a' r result := by
  have hnot : ¬(!a.connectedOnce && decide (0 < config.connectTimeoutSeconds) &&
      decide (a.attemptStarted + config.connectTimeoutSeconds ≤ p.checkedAt)) = true := by
    intro hcheck
    simp only [Bool.and_eq_true, Bool.not_eq_true', decide_eq_true_eq] at hcheck
    exact hexpired ⟨hcheck.1.1, hcheck.1.2, hcheck.2⟩
  unfold EgressAttempt.pollSink at h
  rw [hstopped, if_neg Bool.false_ne_true, if_neg hnot] at h
  dsimp only at h
  generalize hreport : (a.observe p.now (sinkProgress config.sinkFactory p.stats p.observedSinkBuffers)
    (progressMarkerAdvanced a.lastProgressMarker
      (sinkProgress config.sinkFactory p.stats p.observedSinkBuffers).progressMarker)).report config p.now
    (sinkProgress config.sinkFactory p.stats p.observedSinkBuffers).ready
    (progressMarkerAdvanced a.lastProgressMarker
      (sinkProgress config.sinkFactory p.stats p.observedSinkBuffers).progressMarker) = reported at h
  obtain ⟨b, report⟩ := reported
  obtain ⟨htrusted, hstarted, hconnects⟩ := observe_report hreport
  unfold EgressAttempt.checkStall at h
  have hstall : (b.connectedOnce && decide (0 < config.outputStallTimeoutSeconds) &&
      decide (b.lastRenderedAt + config.outputStallTimeoutSeconds ≤ p.now)) = true ↔ Stalled config p b := by
    simp only [Bool.and_eq_true, decide_eq_true_eq, and_assoc]
    exact Iff.rfl
  split at h
  · rename_i hcheck
    obtain ⟨rfl, hrest⟩ := Prod.mk.inj h
    obtain ⟨rfl, rfl⟩ := Prod.mk.inj hrest
    exact ⟨htrusted, hstarted, hconnects, fun _ => rfl, fun hlive => absurd (hstall.mp hcheck) hlive⟩
  · rename_i hcheck
    obtain ⟨rfl, hrest⟩ := Prod.mk.inj h
    obtain ⟨rfl, rfl⟩ := Prod.mk.inj hrest
    exact ⟨htrusted, hstarted, hconnects, fun hstalled => absurd (hstall.mpr hstalled) hcheck, fun _ => rfl⟩

/-! ### All the polls so far -/

theorem lastAdvance_concat : lastAdvance config started (history ++ [p]) = advance config (lastAdvance config started history) p := by
  unfold lastAdvance
  rw [List.foldl_append]
  rfl

/-- Counters that have just been looked at are no advance any more. -/
theorem advance_settled (trusted : (ℕ × ℕ) × Timestamp) (p : Poll) :
    progressMarkerAdvanced (advance config trusted p).1 (p.sample config).progressMarker = false := by
  unfold advance
  split
  · simp [progressMarkerAdvanced]
  · rename_i h
    exact Bool.eq_false_iff.mpr h

/-- What the attempt has kept of the polls. -/
structure SinkKept (config : AttemptConfig) (started : Timestamp) (history : List Poll) (a : EgressAttempt)
    (reports : List Report) : Prop where
  trusted : (a.lastProgressMarker, a.lastRenderedAt) = lastAdvance config started history
  attemptStarted : a.attemptStarted = started
  connected : a.connectedOnce = true ↔ ∃ n, Report.connected n ∈ reports
  window : a.connectedOnce = false → a.firstRenderedAt = (readyWindow config history).head?.map Poll.now
  settled : ∀ q ∈ history.getLast?,
    progressMarkerAdvanced (lastAdvance config started history).1 (q.sample config).progressMarker = false

theorem readyWindow_of_ready (h : (p.sample config).ready = true) :
    readyWindow config (history ++ [p]) = readyWindow config history ++ [p] := List.rtakeWhile_concat_pos _ _ _ h

theorem readyWindow_of_unready (h : (p.sample config).ready = false) : readyWindow config (history ++ [p]) = [] :=
  List.rtakeWhile_concat_neg _ _ _ (Bool.eq_false_iff.mp h)

theorem SinkKept.poll (h : SinkKept config started history a reports) (he : PollEffect config a p a' r result) :
    SinkKept config started (history ++ [p]) a' (reports ++ r.toList) := by
  refine ⟨?_, he.attemptStarted.trans h.attemptStarted, ?_, fun hdown => ?_, fun q hq => ?_⟩
  · rw [lastAdvance_concat, ← h.trusted]
    exact he.trusted
  · have hsplit : (∃ n, Report.connected n ∈ reports ++ r.toList) ↔
        (∃ n, Report.connected n ∈ reports) ∨ ∃ n, r = some (.connected n) := by
      simp only [List.mem_append, Option.mem_toList, exists_or]
    rw [hsplit, ← h.connected]
    cases he.connects with
    | up hbefore hafter _ => exact iff_of_true hafter (.inl hbefore)
    | unready hbefore hafter _ _ =>
      refine iff_of_false (Bool.eq_false_iff.mp hafter) (not_or.mpr ⟨Bool.eq_false_iff.mp hbefore, ?_⟩)
      rintro ⟨n, hn⟩
      cases hn
    | waits hbefore hafter _ _ =>
      refine iff_of_false (Bool.eq_false_iff.mp hafter) (not_or.mpr ⟨Bool.eq_false_iff.mp hbefore, ?_⟩)
      rintro ⟨n, hn⟩
      cases hn
    | connects n _ hafter _ _ => exact iff_of_true hafter (.inr ⟨n, rfl⟩)
  · cases he.connects with
    | up _ hafter _ => rw [hafter] at hdown; cases hdown
    | unready _ _ hready hfirst =>
      rw [hfirst, readyWindow_of_unready hready]
      rfl
    | waits hbefore _ hready hfirst =>
      rw [hfirst, readyWindow_of_ready hready, h.window hbefore, List.head?_append]
      cases (readyWindow config history).head? <;> rfl
    | connects _ _ hafter _ _ => rw [hafter] at hdown; cases hdown
  · rw [List.getLast?_concat] at hq
    obtain rfl := Option.some.inj hq
    rw [lastAdvance_concat]
    exact advance_settled _ _

/-- A poll that does not end the attempt is not stopped, and its time to connect is not over. -/
theorem effect_of_poll (h : a.pollSink config p = (a', r, none)) : PollEffect config a p a' r none := by
  cases hstopped : p.stopped with
  | true =>
    unfold EgressAttempt.pollSink at h
    rw [hstopped, if_pos rfl] at h
    cases (Prod.mk.inj (Prod.mk.inj h).2).2
  | false =>
    refine pollSink_effect hstopped (fun hexpired => ?_) h
    rw [pollSink_expired hstopped hexpired] at h
    cases (Prod.mk.inj (Prod.mk.inj h).2).2

theorem SinkPolled.kept (h : SinkPolled config started history a reports) : SinkKept config started history a reports := by
  induction h with
  | start =>
    refine ⟨rfl, rfl, iff_of_false Bool.false_ne_true ?_, fun _ => rfl, fun q hq => by cases hq⟩
    rintro ⟨n, hn⟩
    cases hn
  | poll before h ih => exact ih.poll (effect_of_poll h)

/-! ### The counters -/

/-- No counter is above what it was at the poll before, or above zero at the first one. -/
def NoIncrease (config : AttemptConfig) (history : List Poll) (p : Poll) : Prop :=
  let before := (history.getLast?.map fun q => (q.sample config).progressMarker).getD (0, 0)
  (p.sample config).progressMarker.1 ≤ before.1 ∧ (p.sample config).progressMarker.2 ≤ before.2

/-- What does not advance does not advance when it falls. -/
theorem not_advanced_of_le {trusted before now : ℕ × ℕ} (h : progressMarkerAdvanced trusted before = false)
    (hfirst : now.1 ≤ before.1) (hsecond : now.2 ≤ before.2) : progressMarkerAdvanced trusted now = false := by
  obtain ⟨t₁, t₂⟩ := trusted
  obtain ⟨b₁, b₂⟩ := before
  obtain ⟨n₁, n₂⟩ := now
  simp only [progressMarkerAdvanced, Bool.and_eq_false_iff, decide_eq_false_iff_not, ne_eq, Prod.mk.injEq,
    Decidable.not_not] at *
  omega

theorem advance_of_noIncrease (h : SinkKept config started history a reports) (hno : NoIncrease config history p) :
    advance config (a.lastProgressMarker, a.lastRenderedAt) p = (a.lastProgressMarker, a.lastRenderedAt) := by
  refine if_neg (Bool.eq_false_iff.mp ?_)
  obtain ⟨hfirst, hsecond⟩ := hno
  cases hlast : history.getLast? with
  | none =>
    rw [hlast] at hfirst hsecond
    have hnil := List.getLast?_eq_none_iff.mp hlast
    have htrusted : a.lastProgressMarker = (0, 0) := by
      have htrusted := h.trusted
      rw [hnil] at htrusted
      exact congrArg Prod.fst htrusted
    have hzero : progressMarkerAdvanced (0, 0) (0, 0) = false := by decide
    rw [htrusted]
    exact not_advanced_of_le hzero hfirst hsecond
  | some q =>
    rw [hlast] at hfirst hsecond
    have hsettled := h.settled q hlast
    rw [← h.trusted] at hsettled
    exact not_advanced_of_le hsettled hfirst hsecond

/-! ### What a poll after them does -/

/-- The time to connect is over without a connection, or the time since the last advance is, with one. -/
def TimedOut (config : AttemptConfig) (started : Timestamp) (history : List Poll) (reports : List Report) (p : Poll)
    (r : Option Report) : Prop :=
  ((∀ n, Report.connected n ∉ reports) ∧ 0 < config.connectTimeoutSeconds ∧
    started + config.connectTimeoutSeconds ≤ p.checkedAt) ∨
  ((∃ n, Report.connected n ∈ reports ++ r.toList) ∧ 0 < config.outputStallTimeoutSeconds ∧
    (lastAdvance config started (history ++ [p])).2 + config.outputStallTimeoutSeconds ≤ p.now)

/-- The last polls, this one included, were ready for the stability window at least. -/
def ReadyThroughout (config : AttemptConfig) (history : List Poll) (p : Poll) : Prop :=
  ∃ front first window, history ++ [p] = front ++ first :: window ∧
    (∀ q ∈ first :: window, (q.sample config).ready = true) ∧ first.now + config.connectStabilitySeconds ≤ p.now

theorem SinkKept.connected_iff (h : SinkKept config started history a reports) :
    a.connectedOnce = false ↔ ∀ n, Report.connected n ∉ reports := by
  rw [← Bool.not_eq_true, h.connected, not_exists]

theorem SinkKept.expired_iff (h : SinkKept config started history a reports) : ConnectExpired config a p ↔
    (∀ n, Report.connected n ∉ reports) ∧ 0 < config.connectTimeoutSeconds ∧
      started + config.connectTimeoutSeconds ≤ p.checkedAt := by
  unfold ConnectExpired
  rw [h.connected_iff, h.attemptStarted]

theorem SinkKept.readyThroughout (h : SinkKept config started history a reports) (hdown : a.connectedOnce = false)
    (hready : (p.sample config).ready = true)
    (hwindow : a.firstRenderedAt.getD p.now + config.connectStabilitySeconds ≤ p.now) :
    ReadyThroughout config history p := by
  have hsuffix : readyWindow config (history ++ [p]) <:+ history ++ [p] := List.rtakeWhile_suffix _ _
  have hall : ∀ q ∈ readyWindow config (history ++ [p]), (q.sample config).ready = true := fun q hq =>
    List.mem_rtakeWhile_imp (p := fun q : Poll => (q.sample config).ready) hq
  have hfirst : (readyWindow config (history ++ [p])).head?.map Poll.now = some (a.firstRenderedAt.getD p.now) := by
    rw [readyWindow_of_ready hready, h.window hdown, List.head?_append]
    cases (readyWindow config history).head? <;> rfl
  obtain ⟨front, hfront⟩ := hsuffix
  cases hpolls : readyWindow config (history ++ [p]) with
  | nil =>
    rw [hpolls] at hfirst
    cases hfirst
  | cons first window =>
    rw [hpolls] at hfirst hall hfront
    refine ⟨front, first, window, hfront.symm, hall, ?_⟩
    rw [← Option.some.inj hfirst] at hwindow
    exact hwindow

/-- The result of a poll of an attempt that is not stopped. -/
theorem SinkKept.timedOut (h : SinkKept config started history a reports) (hstopped : p.stopped = false)
    (hpoll : a.pollSink config p = (a', r, result)) :
    (TimedOut config started history reports p r → result.map AttemptResult.reasonCode = some "TIMEOUT") ∧
      (¬TimedOut config started history reports p r → result = none) := by
  by_cases hexpired : ConnectExpired config a p
  · rw [pollSink_expired hstopped hexpired] at hpoll
    obtain ⟨rfl, hrest⟩ := Prod.mk.inj hpoll
    obtain ⟨rfl, rfl⟩ := Prod.mk.inj hrest
    exact ⟨fun _ => rfl, fun hnot => absurd (.inl (h.expired_iff.mp hexpired)) hnot⟩
  · have heffect := pollSink_effect hstopped hexpired hpoll
    have hstalled : TimedOut config started history reports p r ↔ Stalled config p a' := by
      have hafter := h.poll heffect
      unfold TimedOut Stalled
      rw [← hafter.connected, ← hafter.trusted, ← h.expired_iff]
      exact or_iff_right hexpired
    rw [hstalled]
    exact ⟨fun hs => by rw [heffect.stalled hs]; rfl, heffect.live⟩

/-- A poll that ends the attempt before it looks at the sink changes nothing. -/
theorem poll_cases (hpoll : a.pollSink config p = (a', r, result)) :
    (a' = a ∧ r = none) ∨ PollEffect config a p a' r result := by
  cases hstopped : p.stopped with
  | true =>
    unfold EgressAttempt.pollSink at hpoll
    rw [hstopped, if_pos rfl] at hpoll
    obtain ⟨rfl, hrest⟩ := Prod.mk.inj hpoll
    obtain ⟨rfl, -⟩ := Prod.mk.inj hrest
    exact .inl ⟨rfl, rfl⟩
  | false =>
    by_cases hexpired : ConnectExpired config a p
    · rw [pollSink_expired hstopped hexpired] at hpoll
      obtain ⟨rfl, hrest⟩ := Prod.mk.inj hpoll
      obtain ⟨rfl, -⟩ := Prod.mk.inj hrest
      exact .inl ⟨rfl, rfl⟩
    · exact .inr (pollSink_effect hstopped hexpired hpoll)

theorem PollEffect.connected {n : ℕ} (h : PollEffect config a p a' (some (.connected n)) result) :
    a.connectedOnce = false ∧ (p.sample config).ready = true ∧
      a.firstRenderedAt.getD p.now + config.connectStabilitySeconds ≤ p.now := by
  cases h.connects with
  | up _ _ hr => exact absurd rfl (hr n)
  | connects _ hbefore _ hready hwindow => exact ⟨hbefore, hready, hwindow⟩

theorem PollEffect.progressed {n : ℕ} (h : PollEffect config a p a' (some (.progress n)) result) :
    a.connectedOnce = true := by
  cases h.connects with
  | up hbefore _ _ => exact hbefore

/-- **The timers of a sink, after any polls.** A connection is reported once, after a window of ready polls, progress after
    it, and no poll without an increase refreshes the stall timer. A poll ends the attempt as soon as its time is over. -/
theorem sink_poll_timers (h : SinkPolled config started history a reports) (hpoll : a.pollSink config p = (a', r, result)) :
    (∀ n, r = some (.connected n) → (∀ m, Report.connected m ∉ reports) ∧ ReadyThroughout config history p) ∧
    (∀ n, r = some (.progress n) → ∃ m, Report.connected m ∈ reports) ∧
    (NoIncrease config history p → a'.lastRenderedAt = a.lastRenderedAt) ∧
    (p.stopped = false →
      (TimedOut config started history reports p r → result.map AttemptResult.reasonCode = some "TIMEOUT") ∧
      (¬TimedOut config started history reports p r → result = none)) := by
  have hkept := h.kept
  refine ⟨fun n hn => ?_, fun n hn => ?_, fun hno => ?_, fun hstopped => hkept.timedOut hstopped hpoll⟩
  · subst hn
    obtain ⟨-, hnone⟩ | heffect := poll_cases hpoll
    · cases hnone
    · obtain ⟨hbefore, hready, hwindow⟩ := heffect.connected
      exact ⟨hkept.connected_iff.mp hbefore, hkept.readyThroughout hbefore hready hwindow⟩
  · subst hn
    obtain ⟨-, hnone⟩ | heffect := poll_cases hpoll
    · cases hnone
    · exact hkept.connected.mp heffect.progressed
  · obtain ⟨rfl, -⟩ | heffect := poll_cases hpoll
    · rfl
    · have htrusted := heffect.trusted
      rw [advance_of_noIncrease hkept hno] at htrusted
      exact congrArg Prod.snd htrusted

end

namespace PollSample

/-- A poll of a sink that has sent so many buffers. -/
def poll (t : ℕ) (rendered : ℤ) : Poll := ⟨false, t, t, [("rendered", .int rendered)], 0⟩

def attempt (polls : List Poll) : EgressAttempt := polls.foldl (fun a p => (a.pollSink .shipped p).1) (.new 0)

/-- Nothing is sent for a second, and the sink is ready from then on. -/
theorem polled : SinkPolled .shipped 0 [poll 0 0, poll 1 1, poll 3 2] (attempt [poll 0 0, poll 1 1, poll 3 2]) [] := by
  have hfirst : ((attempt []).pollSink .shipped (poll 0 0)).2 = (none, none) := by decide +kernel
  have hsecond : ((attempt [poll 0 0]).pollSink .shipped (poll 1 1)).2 = (none, none) := by decide +kernel
  have hthird : ((attempt [poll 0 0, poll 1 1]).pollSink .shipped (poll 3 2)).2 = (none, none) := by decide +kernel
  exact ((SinkPolled.start.poll (Prod.ext rfl hfirst)).poll (Prod.ext rfl hsecond)).poll (Prod.ext rfl hthird)

end PollSample

open PollSample in
theorem sink_poll_timers_sample : ReadyThroughout .shipped [poll 0 0, poll 1 1, poll 3 2] (poll 4 2) := by
  have hconnects : ((attempt [poll 0 0, poll 1 1, poll 3 2]).pollSink .shipped (poll 4 2)).2 =
      (some (.connected 2), none) := by decide +kernel
  have hpoll : (attempt [poll 0 0, poll 1 1, poll 3 2]).pollSink .shipped (poll 4 2) =
      (attempt [poll 0 0, poll 1 1, poll 3 2, poll 4 2], some (.connected 2), none) := Prod.ext rfl hconnects
  exact ((sink_poll_timers polled hpoll).1 2 rfl).2

end IRLight.Egress
