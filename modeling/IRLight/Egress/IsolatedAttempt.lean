import IRLight.Egress.Attempt
import IRLight.Egress.AttemptSupervisor
import Mathlib.Data.Rat.Floor

/-! # The supervision of an attempt's child

`supervise_attempt_child` reads the messages of a child that runs one attempt, and brings the child to an end when it has
answered or when one of the deadlines is reached. -/

namespace IRLight.Egress

/-! ### Messages -/

/-- The messages of a child, by their `type`. -/
inductive ChildMessage where
  | connected (renderedBuffers : ℕ)
  | progress (renderedBuffers : ℕ)
  | teardown (result : ChildAttemptResult)
  | result (result : ChildAttemptResult)

/-- The `rendered_buffers` of a progress message. -/
def parseProgress (fields : List (String × Json)) : Except ChildError ℕ :=
  if !keysBetween ["type", "rendered_buffers"] ["type", "rendered_buffers"] fields then
    .error (.invalidChildMessage "child progress fields are invalid")
  else naturalField fields "rendered_buffers" (.invalidChildMessage "child rendered_buffers is invalid")

/-- The `result` of a result message. -/
def parseResult (fields : List (String × Json)) : Except ChildError ChildAttemptResult :=
  if !keysBetween ["type", "result"] ["type", "result"] fields then
    .error (.invalidChildMessage "child result fields are invalid")
  else
    match parseChildAttemptResult ((fields.lookup "result").getD .null) with
    | .ok result => .ok result
    | .error _ => .error (.invalidChildMessage "child result payload is invalid")

/-- `parse_child_message`. A `type` that has no hash cannot be looked up in a set. -/
def parseChildMessage : Json → Except ChildError ChildMessage
  | .obj fields =>
    match (fields.lookup "type").getD .null with
    | .arr _ => .error (.typeError "unhashable type: 'list'")
    | .obj _ => .error (.typeError "unhashable type: 'dict'")
    | .str "connected" => (parseProgress fields).map .connected
    | .str "progress" => (parseProgress fields).map .progress
    | .str "teardown" => (parseResult fields).map .teardown
    | .str "result" => (parseResult fields).map .result
    | _ => .error (.invalidChildMessage "child message type is invalid")
  | _ => .error (.invalidChildMessage "child message must be an object")

/-- The message in which `_child_attempt_main` passes a report on. -/
def Report.envelope : Report → Json
  | .connected rendered => .obj [("type", .str "connected"), ("rendered_buffers", .int rendered)]
  | .progress rendered => .obj [("type", .str "progress"), ("rendered_buffers", .int rendered)]

def Report.message : Report → ChildMessage
  | .connected rendered => .connected rendered
  | .progress rendered => .progress rendered

@[simp] theorem parseChildMessage_envelope (r : Report) : parseChildMessage r.envelope = .ok r.message := by
  cases r <;> rfl

/-! ### Timers -/

/-- `_finite_number`. -/
def finiteNumber (value : PyFloat) (name : String) : Except ChildError ℚ :=
  match value with
  | .finite q => .ok q
  | _ => .error (.valueError s!"{name} must be a finite number")

/-- `_nonnegative_timeout`. -/
def nonnegativeTimeout (value : PyFloat) (name : String) : Except ChildError Timestamp := do
  let parsed ← finiteNumber value name
  if parsed < 0 then throw (.valueError s!"{name} must be a finite non-negative number")
  return parsed.toNNRat

/-- `_legacy_nonnegative_timer`. -/
def legacyNonnegativeTimer (value : PyFloat) (name : String) : Except ChildError Timestamp := do
  let parsed ← finiteNumber value name
  return (max 0 parsed).toNNRat

/-- The timers of the supervision, as they are validated. -/
structure SuperviseConfig where
  connectTimeout : Timestamp
  livenessTimeout : Timestamp
  statusHeartbeat : Timestamp
  teardownTimeout : Timestamp
  terminateTimeout : Timestamp
  killTimeout : Timestamp
  pollInterval : Timestamp

def SuperviseConfig.new (connectTimeout livenessTimeout statusHeartbeat teardownTimeout terminateTimeout killTimeout
    pollSeconds : PyFloat) : Except ChildError SuperviseConfig := do
  let connectTimeout ← legacyNonnegativeTimer connectTimeout "connect_timeout_seconds"
  let livenessTimeout ← nonnegativeTimeout livenessTimeout "liveness_timeout_seconds"
  let statusHeartbeat ← legacyNonnegativeTimer statusHeartbeat "status_heartbeat_seconds"
  let teardownTimeout ← nonnegativeTimeout teardownTimeout "teardown_timeout_seconds"
  let terminateTimeout ← nonnegativeTimeout terminateTimeout "terminate_timeout_seconds"
  let killTimeout ← nonnegativeTimeout killTimeout "kill_timeout_seconds"
  let pollInterval ← nonnegativeTimeout pollSeconds "poll_seconds"
  return ⟨connectTimeout, livenessTimeout, statusHeartbeat, teardownTimeout, terminateTimeout, killTimeout, pollInterval⟩

/-- `heartbeat_report_interval_seconds`: the heartbeat, rounded up to polls of 250 ms. -/
def heartbeatReportInterval (statusHeartbeat : Timestamp) : ℚ :=
  if statusHeartbeat ≤ 0 then 0
  else
    let poll : ℚ := 1 / 4
    let remainder := (statusHeartbeat : ℚ) - poll * ⌊(statusHeartbeat : ℚ) / poll⌋
    if remainder = 0 then statusHeartbeat else statusHeartbeat + (poll - remainder)

/-- `liveness_window_can_be_armed`. -/
def livenessWindowCanBeArmed (livenessTimeout statusHeartbeat : Timestamp) : Bool :=
  0 < livenessTimeout && 0 < statusHeartbeat && heartbeatReportInterval statusHeartbeat < livenessTimeout

/-- `_NATURAL_REAP_SECONDS`. -/
def naturalReapSeconds : ℚ := 1 / 2

/-! ### The loop -/

/-- What the connection gives when it is polled, and read if it is ready. -/
inductive Polled where
  | idle
  | failed
  | closed
  | undecodable
  | message (payload : Json)

/-- What happens in one iteration of the loop, in the order in which the loop sees it. -/
structure Turn where
  now : Timestamp
  stopRequested : Bool
  polled : Polled
  acceptedAt : Timestamp
  refreshedAt : Timestamp
  checkedAt : Timestamp
  /-- The child exits by itself before the loop looks. -/
  exits : Option ℤ
  /-- The connection is ready after the child has exited. -/
  leftover : Bool
  reaping : Reaping

/-- The loop's variables, what it has told the gateway and the child, and the child's process. -/
structure Supervision where
  startupDeadline : Option Timestamp
  livenessDeadline : Option Timestamp
  teardownDeadline : Option Timestamp
  stopDeadline : Option Timestamp
  pendingResult : Option ChildAttemptResult
  connectedOnce : Bool
  renderedBuffers : ℕ
  reports : List Report
  childStops : ℕ
  process : ChildProcess

/-- Where the loop is left. -/
inductive Site where
  | malformed
  | closed
  | answered
  | stopDeadline
  | teardownDeadline
  | startupDeadline
  | livenessDeadline
  deriving DecidableEq

/-- How the loop is left: it fences the child and returns, it returns since the child has exited, or it raises. -/
inductive Leave where
  | fenced (site : Site) (naturalTimeout : ℚ) (result : ChildAttemptResult)
  | exited (result : ChildAttemptResult) (process : ChildProcess)
  | raised (error : ChildError)

namespace Supervision
variable (config : SuperviseConfig) (s : Supervision) (t : Turn)

def start (startedAt : Timestamp) (process : ChildProcess) : Supervision :=
  { startupDeadline :=
      if 0 < config.connectTimeout then some (startedAt + config.connectTimeout + config.teardownTimeout) else none
    livenessDeadline := none
    teardownDeadline := none
    stopDeadline := none
    pendingResult := none
    connectedOnce := false
    renderedBuffers := 0
    reports := []
    childStops := 0
    process := process }

/-- `_local_failure`. -/
def localFailure : ChildAttemptResult := ⟨"LOCAL_PIPELINE_FAILED", s.connectedOnce, s.renderedBuffers, true, none, none⟩

/-- The start of an iteration: a stop is passed on to the child once. -/
def noticeStop : Supervision :=
  if t.stopRequested && s.stopDeadline.isNone then
    { s with stopDeadline := some (t.now + config.teardownTimeout), childStops := s.childStops + 1 }
  else s

/-- A result that the child has announced. -/
def takeResult (result : ChildAttemptResult) : Supervision :=
  { s with
    pendingResult := some result
    connectedOnce := s.connectedOnce || result.connectedOnce
    renderedBuffers := max s.renderedBuffers result.renderedBuffers }

/-- A valid message. -/
def accept : ChildMessage → Except Leave Supervision
  | .connected n =>
    let rendered := max s.renderedBuffers n
    .ok { s with
      renderedBuffers := rendered
      connectedOnce := true
      startupDeadline := none
      livenessDeadline :=
        if livenessWindowCanBeArmed config.livenessTimeout config.statusHeartbeat then
          some (t.acceptedAt + config.livenessTimeout)
        else s.livenessDeadline
      reports := s.reports ++ [.connected rendered] }
  | .progress n =>
    let rendered := max s.renderedBuffers n
    .ok { s with renderedBuffers := rendered, reports := s.reports ++ [.progress rendered] }
  | .teardown result =>
    .ok { s.takeResult result with
      teardownDeadline := some (s.teardownDeadline.getD (t.acceptedAt + config.teardownTimeout)) }
  | .result result => .error (.fenced .answered naturalReapSeconds result)

/-- A message is evidence that the child is alive. -/
def refresh : Supervision :=
  { s with livenessDeadline := s.livenessDeadline.map fun _ => t.refreshedAt + config.livenessTimeout }

/-- At most one message. -/
def receive : Except Leave Supervision :=
  match t.polled with
  | .idle | .failed => .ok s
  | .closed => .error (.fenced .closed 0 s.localFailure)
  | .undecodable => .error (.raised .unpicklingError)
  | .message payload =>
    match parseChildMessage payload with
    | .error (.invalidChildMessage _) => .error (.fenced .malformed 0 s.localFailure)
    | .error e => .error (.raised e)
    | .ok message => do
      let s ← s.accept config t message
      return s.refresh config t

/-- A deadline is reached. -/
def due (deadline : Option Timestamp) (now : Timestamp) : Bool := deadline.any (· ≤ now)

/-- The deadlines, after one message. -/
def checkDeadlines (now : Timestamp) : Except Leave Unit :=
  if due s.stopDeadline now then
    .error (.fenced .stopDeadline 0 ⟨"STOPPED", s.connectedOnce, s.renderedBuffers, false, none, none⟩)
  else if due s.teardownDeadline now then
    .error (.fenced .teardownDeadline 0 (s.pendingResult.getD s.localFailure))
  else if due s.startupDeadline now then
    .error (.fenced .startupDeadline 0 ⟨"TIMEOUT", false, s.renderedBuffers, false, none, none⟩)
  else if due s.livenessDeadline now then
    .error (.fenced .livenessDeadline 0
      (s.pendingResult.getD ⟨"TIMEOUT", s.connectedOnce, s.renderedBuffers, false, none, none⟩))
  else .ok ()

/-- The end of an iteration: a child that has exited may have left messages. -/
def checkExit : Except Leave Supervision :=
  let process := s.process.join t.exits
  if process.isAlive || t.leftover then .ok { s with process := process }
  else .error (.exited (s.pendingResult.getD s.localFailure) process)

/-- One iteration. -/
def turn : Except Leave Supervision := do
  let s ← (s.noticeStop config t).receive config t
  s.checkDeadlines t.checkedAt
  s.checkExit t

end Supervision

/-- What the function returns or raises, and the process then. -/
def Leave.finish (config : SuperviseConfig) (process : ChildProcess) (e : Reaping) :
    Leave → Except ChildError ChildAttemptResult × ChildProcess
  | .fenced _ naturalTimeout result =>
    match reapChild (.finite naturalTimeout) (.finite config.terminateTimeout) (.finite config.killTimeout) process e with
    | (.ok _, process) => (.ok result, process)
    | (.error error, process) => (.error error, process)
  | .exited result process => (.ok result, process)
  | .raised error => (.error error, process)

/-- The loop, which goes on as long as nothing leaves it. -/
def Supervision.loop (config : SuperviseConfig) :
    Supervision → List Turn → Option (Except ChildError ChildAttemptResult × ChildProcess)
  | _, [] => none
  | s, t :: turns =>
    match s.turn config t with
    | .ok s => loop config s turns
    | .error leave => some (leave.finish config s.process t.reaping)

end IRLight.Egress
