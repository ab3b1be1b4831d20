import IRLight.Python
import Mathlib.Data.List.Chain

/-! # Attempts of the egress gateway

`EgressAttempt` between the start of its pipeline and its end: a timer polls the statistics of the sink, and messages of
the pipeline's bus come in between. A connected attempt that makes progress reports it, and one that makes none ends. -/

namespace IRLight.Egress

inductive SinkFactory where
  | rtmpsink
  | rtmp2sink
  deriving DecidableEq

/-- The statistics of a sink that a poll could read, under their names. -/
abbrev SinkStats := List (String × Json)

structure SinkProgress where
  renderedBuffers : ℕ
  ready : Bool
  progressMarker : ℕ × ℕ

/-- `_nonnegative_int`. -/
def nonnegativeInt : Option Json → ℕ
  | some (.int n) => n.toNat
  | _ => 0

/-- `sink_progress`. -/
def sinkProgress (sinkFactory : SinkFactory) (stats : SinkStats) (observedSinkBuffers : ℕ) : SinkProgress :=
  match sinkFactory with
  | .rtmpsink =>
    let rendered := nonnegativeInt (stats.lookup "rendered")
    ⟨rendered, 0 < rendered, (rendered, 0)⟩
  | .rtmp2sink =>
    let outBytes := nonnegativeInt (stats.lookup "out-bytes-total")
    let ackedBytes := nonnegativeInt (stats.lookup "out-bytes-acked")
    ⟨observedSinkBuffers, 0 < observedSinkBuffers && 0 < outBytes, (outBytes, ackedBytes)⟩

/-- `progress_marker_advanced`. -/
def progressMarkerAdvanced (previous current : ℕ × ℕ) : Bool :=
  previous.1 ≤ current.1 && previous.2 ≤ current.2 && current ≠ previous

/-- The timers of an attempt, none of them negative, and its sink. -/
structure AttemptConfig where
  connectTimeoutSeconds : Timestamp
  statusHeartbeatSeconds : Timestamp
  connectStabilitySeconds : Timestamp
  outputStallTimeoutSeconds : Timestamp
  sinkFactory : SinkFactory

def AttemptConfig.shipped : AttemptConfig := ⟨15, 5, 3, 5, .rtmpsink⟩

structure AttemptResult where
  reasonCode : String
  connectedOnce : Bool
  renderedBuffers : ℕ
  terminal : Bool
  errorDomain : Option String
  errorCode : Option ℤ
  deriving DecidableEq

/-- A call of `on_connected` or `on_progress`. -/
inductive Report where
  | connected (rendered : ℕ)
  | progress (rendered : ℕ)
  deriving DecidableEq

/-- What a poll finds: whether a stop is requested, the two readings of the clock, and the sink. -/
structure Poll where
  stopped : Bool
  checkedAt : Timestamp
  now : Timestamp
  stats : SinkStats
  observedSinkBuffers : ℕ

structure EgressAttempt where
  connectedOnce : Bool
  renderedBuffers : ℕ
  attemptStarted : Timestamp
  firstRenderedAt : Option Timestamp
  lastProgressAt : Timestamp
  lastProgressMarker : ℕ × ℕ
  lastRenderedAt : Timestamp

namespace EgressAttempt

def new (now : Timestamp) : EgressAttempt :=
  { connectedOnce := false
    renderedBuffers := 0
    attemptStarted := now
    firstRenderedAt := none
    lastProgressAt := now
    lastProgressMarker := (0, 0)
    lastRenderedAt := now }

/-- A result that may be tried again. -/
def result (a : EgressAttempt) (reasonCode : String) : AttemptResult :=
  ⟨reasonCode, a.connectedOnce, a.renderedBuffers, false, none, none⟩

/-- What a poll takes over from the sink. -/
def observe (a : EgressAttempt) (now : Timestamp) (progress : SinkProgress) (progressChanged : Bool) : EgressAttempt :=
  { a with
    renderedBuffers := max a.renderedBuffers progress.renderedBuffers
    lastProgressMarker := if progressChanged then progress.progressMarker else a.lastProgressMarker
    lastRenderedAt := if progressChanged then now else a.lastRenderedAt
    firstRenderedAt := if !a.connectedOnce && !progress.ready then none else a.firstRenderedAt }

/-- What a poll reports. A time span is over from its last instant on. -/
def report (config : AttemptConfig) (a : EgressAttempt) (now : Timestamp) (ready progressChanged : Bool) :
    EgressAttempt × Option Report :=
  if ready && !a.connectedOnce then
    let first := a.firstRenderedAt.getD now
    if now < first + config.connectStabilitySeconds then ({ a with firstRenderedAt := some first }, none)
    else
      ({ a with firstRenderedAt := some first, connectedOnce := true, lastProgressAt := now },
        some (.connected a.renderedBuffers))
  else if a.connectedOnce && progressChanged && 0 < config.statusHeartbeatSeconds &&
      a.lastProgressAt + config.statusHeartbeatSeconds ≤ now then
    ({ a with lastProgressAt := now }, some (.progress a.renderedBuffers))
  else (a, none)

/-- The end of a poll: a connected attempt whose output has stalled ends. -/
def checkStall (config : AttemptConfig) (a : EgressAttempt) (now : Timestamp) (report : Option Report) :
    EgressAttempt × Option Report × Option AttemptResult :=
  if a.connectedOnce && 0 < config.outputStallTimeoutSeconds &&
      a.lastRenderedAt + config.outputStallTimeoutSeconds ≤ now then
    (a, report, some (a.result "TIMEOUT"))
  else (a, report, none)

/-- `_poll_sink`: the attempt after the poll, what it reports, and the result if it ends the attempt. -/
def pollSink (config : AttemptConfig) (a : EgressAttempt) (p : Poll) :
    EgressAttempt × Option Report × Option AttemptResult :=
  if p.stopped then (a, none, some (a.result "STOPPED"))
  else if !a.connectedOnce && 0 < config.connectTimeoutSeconds &&
      a.attemptStarted + config.connectTimeoutSeconds ≤ p.checkedAt then
    (a, none, some (a.result "TIMEOUT"))
  else
    let progress := sinkProgress config.sinkFactory p.stats p.observedSinkBuffers
    let progressChanged := progressMarkerAdvanced a.lastProgressMarker progress.progressMarker
    let reported := (a.observe p.now progress progressChanged).report config p.now progress.ready progressChanged
    reported.1.checkStall config p.now reported.2

end EgressAttempt

/-- `TERMINAL_REASON_CODES`. -/
def terminalReasonCodes : List String := ["AUTH_FAILED", "PUBLISH_CONFLICT", "PUBLISH_REJECTED", "LOCAL_PIPELINE_FAILED"]

/-- What the main loop dispatches while the pipeline plays. An error carries the code that `classify_error` has
    given it. -/
inductive AttemptEvent where
  | poll (p : Poll)
  | error (reason : String) (domain : Option String) (code : ℤ)
  | eos
  | padFailure

namespace EgressAttempt

/-- One event: the attempt after it, what it reports, and the result if it ends the attempt. -/
def dispatch (config : AttemptConfig) (a : EgressAttempt) : AttemptEvent →
    EgressAttempt × Option Report × Option AttemptResult
  | .poll p => a.pollSink config p
  | .error reason domain code =>
    (a, none, some ⟨reason, a.connectedOnce, a.renderedBuffers, reason ∈ terminalReasonCodes, domain, some code⟩)
  | .eos => (a, none, some (a.result "UPSTREAM_EOS"))
  | .padFailure => (a, none, some { a.result "LOCAL_PIPELINE_FAILED" with terminal := true })

end EgressAttempt

/-- The readings at which a poll reports. -/
def AttemptEvent.now : AttemptEvent → Timestamp
  | .poll p => p.now
  | _ => 0

/-- What the gateway sees of an attempt: the reports with their times, and the result. -/
structure AttemptRun where
  reports : List (Timestamp × Report)
  result : AttemptResult

namespace EgressAttempt

/-- The main loop over all the events that it dispatches. There is no run unless the last one, and no other, ends
    it. -/
def play (config : AttemptConfig) : EgressAttempt → List AttemptEvent → Option AttemptRun
  | _, [] => none
  | a, e :: events =>
    match a.dispatch config e, events with
    | (_, report, some result), [] => some ⟨report.toList.map fun r => (e.now, r), result⟩
    | (_, _, some _), _ :: _ => none
    | (a, report, none), events =>
      (play config a events).map fun run => { run with reports := (report.toList.map fun r => (e.now, r)) ++ run.reports }

end EgressAttempt

/-- How the pipeline comes up. -/
inductive AttemptInput where
  | buildFailure
  | stateFailure
  | playing (events : List AttemptEvent)

/-- `run` of an attempt that was made at `started`. -/
def EgressAttempt.run (config : AttemptConfig) (started : Timestamp) : AttemptInput → Option AttemptRun
  | .buildFailure => some ⟨[], ⟨"LOCAL_PIPELINE_FAILED", false, 0, true, none, none⟩⟩
  | .stateFailure => some ⟨[], ⟨"EGRESS_PIPELINE_FAILED", false, 0, false, none, none⟩⟩
  | .playing events => (EgressAttempt.new started).play config events

/-! ### What a poll does -/

namespace EgressAttempt
variable {config : AttemptConfig} {a a' : EgressAttempt} {p : Poll} {now : Timestamp} {ready progressChanged : Bool}
  {r r' : Option Report} {result : Option AttemptResult}

/-- What a poll reports follows from whether the attempt has connected and when it reported last. -/
inductive Reports (config : AttemptConfig) (a : EgressAttempt) (now : Timestamp) (progressChanged : Bool) :
    EgressAttempt → Option Report → Prop
  | quiet (after : EgressAttempt) (hconnected : after.connectedOnce = a.connectedOnce)
      (hlast : after.lastProgressAt = a.lastProgressAt)
      (hdue : a.connectedOnce → progressChanged → 0 < config.statusHeartbeatSeconds →
        now < a.lastProgressAt + config.statusHeartbeatSeconds) : Reports config a now progressChanged after none
  | connected (after : EgressAttempt) (n : ℕ) (hbefore : a.connectedOnce = false) (hconnected : after.connectedOnce)
      (hlast : after.lastProgressAt = now) : Reports config a now progressChanged after (some (.connected n))
  | progress (after : EgressAttempt) (n : ℕ) (hbefore : a.connectedOnce) (hconnected : after.connectedOnce)
      (hlast : after.lastProgressAt = now) : Reports config a now progressChanged after (some (.progress n))

theorem report_cases (h : a.report config now ready progressChanged = (a', r)) :
    Reports config a now progressChanged a' r ∧ a'.lastRenderedAt = a.lastRenderedAt := by
  unfold report at h
  split at h
  · rename_i hready
    have hbefore : a.connectedOnce = false := by simpa using (Bool.and_eq_true_iff.mp hready).2
    simp only at h
    split at h
    · obtain ⟨rfl, rfl⟩ := Prod.mk.inj h
      exact ⟨.quiet _ rfl rfl fun hc => absurd hc (by rw [hbefore]; decide), rfl⟩
    · obtain ⟨rfl, rfl⟩ := Prod.mk.inj h
      exact ⟨.connected _ _ hbefore rfl rfl, rfl⟩
  · split at h
    · rename_i hdue
      simp only [Bool.and_eq_true] at hdue
      obtain ⟨rfl, rfl⟩ := Prod.mk.inj h
      exact ⟨.progress _ _ hdue.1.1.1 hdue.1.1.1 rfl, rfl⟩
    · rename_i hdue
      obtain ⟨rfl, rfl⟩ := Prod.mk.inj h
      refine ⟨.quiet _ rfl rfl fun hc hchanged hbeat => ?_, rfl⟩
      simpa [hc, hchanged, hbeat] using hdue

theorem checkStall_cases (h : a.checkStall config now r = (a', r', result)) :
    a' = a ∧ r' = r ∧ (result = none → a.connectedOnce → 0 < config.outputStallTimeoutSeconds →
      now < a.lastRenderedAt + config.outputStallTimeoutSeconds) := by
  unfold checkStall at h
  split at h
  · obtain ⟨rfl, hrest⟩ := Prod.mk.inj h
    obtain ⟨rfl, rfl⟩ := Prod.mk.inj hrest
    exact ⟨rfl, rfl, fun hnone => absurd hnone (Option.some_ne_none _)⟩
  · rename_i hstall
    obtain ⟨rfl, hrest⟩ := Prod.mk.inj h
    obtain ⟨rfl, rfl⟩ := Prod.mk.inj hrest
    refine ⟨rfl, rfl, fun _ hconnected hpositive => ?_⟩
    simpa [hconnected, hpositive] using hstall

/-- Taking over what the sink shows touches neither the connection nor the time of the last report. -/
theorem Reports.of_observe {progress : SinkProgress}
    (h : Reports config (a.observe now progress progressChanged) now progressChanged a' r) :
    Reports config a now progressChanged a' r := by
  cases h with
  | quiet hconnected hlast hdue => exact .quiet _ hconnected hlast hdue
  | connected n hbefore hconnected hlast => exact .connected _ n hbefore hconnected hlast
  | progress n hbefore hconnected hlast => exact .progress _ n hbefore hconnected hlast

/-- A poll ends the attempt at once, or it takes over what the sink shows, reports, and looks at the stall timer. -/
theorem pollSink_cases (h : a.pollSink config p = (a', r, result)) :
    (a' = a ∧ r = none ∧ result ≠ none) ∨
    ∃ progressChanged : Bool, Reports config a p.now progressChanged a' r ∧
      a'.lastRenderedAt = (if progressChanged then p.now else a.lastRenderedAt) ∧
      (result = none → a'.connectedOnce → 0 < config.outputStallTimeoutSeconds →
        p.now < a'.lastRenderedAt + config.outputStallTimeoutSeconds) := by
  unfold pollSink at h
  split at h
  · obtain ⟨rfl, hrest⟩ := Prod.mk.inj h
    obtain ⟨rfl, rfl⟩ := Prod.mk.inj hrest
    exact .inl ⟨rfl, rfl, Option.some_ne_none _⟩
  · split at h
    · obtain ⟨rfl, hrest⟩ := Prod.mk.inj h
      obtain ⟨rfl, rfl⟩ := Prod.mk.inj hrest
      exact .inl ⟨rfl, rfl, Option.some_ne_none _⟩
    · obtain ⟨rfl, rfl, hstall⟩ := checkStall_cases h
      obtain ⟨hreports, hrendered⟩ := report_cases (Prod.mk.eta (p := _)).symm
      exact .inr ⟨_, hreports.of_observe, hrendered, hstall⟩

end EgressAttempt

end IRLight.Egress
