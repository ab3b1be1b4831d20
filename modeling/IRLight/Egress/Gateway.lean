import IRLight.ControlPlane.Authorities
import IRLight.Egress.Attempt
import IRLight.Egress.Policy

/-! # The egress gateway

`EgressGateway.run` tries attempt after attempt, and writes its status to a file. `read_egress_status` of the Node agent
reads the file at any time. -/

namespace IRLight.Egress

/-- `ALLOWED_STATUSES`. -/
inductive EgressStatus where
  | starting
  | connected
  | reconnecting
  | authFailed
  | failed
  | stopped
  deriving DecidableEq

namespace EgressStatus

def str : EgressStatus → String
  | starting => "STARTING"
  | connected => "CONNECTED"
  | reconnecting => "RECONNECTING"
  | authFailed => "AUTH_FAILED"
  | failed => "FAILED"
  | stopped => "STOPPED"

def all : List EgressStatus := [starting, connected, reconnecting, authFailed, failed, stopped]

/-- `TERMINAL_STATUSES`. -/
def terminal : EgressStatus → Bool
  | authFailed | failed | stopped => true
  | starting | connected | reconnecting => false

/-- The status of a text, if it is allowed. -/
def ofStr (text : String) : Option EgressStatus := all.find? fun status => status.str = text

@[simp] theorem ofStr_str (status : EgressStatus) : ofStr status.str = some status := by
  cases status <;> decide

end EgressStatus

/-! ### The writer -/

/-- A status file. -/
structure StatusRecord where
  status : EgressStatus
  connected : Bool
  attempt : ℕ
  reasonCode : Option String
  renderedBuffers : ℕ
  nextRetryAt : Option Timestamp
  errorDomain : Option String
  errorCode : Option ℤ
  destinationScheme : String
  destinationHost : String
  startedAt : Timestamp
  observedAt : Timestamp

/-- The JSON object that is written. -/
def StatusRecord.payload (w : StatusRecord) : List (String × Json) :=
  [ ("status", .str w.status.str), ("connected", .bool w.connected), ("attempt", .int w.attempt),
    ("reason_code", .ofOption .str w.reasonCode), ("rendered_buffers", .int w.renderedBuffers),
    ("next_retry_at", .ofOption (fun t => .float (.finite t)) w.nextRetryAt),
    ("error_domain", .ofOption .str w.errorDomain), ("error_code", .ofOption .int w.errorCode),
    ("destination_scheme", .str w.destinationScheme), ("destination_host", .str w.destinationHost),
    ("started_at", .float (.finite w.startedAt)), ("observed_at", .float (.finite w.observedAt)) ]

/-- How a gateway ends: with an exit code, or at some time with an exception that nothing catches. -/
inductive Exit where
  | code (n : ℕ)
  | raised (time : Timestamp)

/-- The gateway between two rounds of its loop. It has been idle since its last write, and it waits for `delay` before
    the next round. -/
structure EgressGateway where
  startedAt : Timestamp
  destinationScheme : String
  destinationHost : String
  failureCount : ℕ
  outageStarted : Option Timestamp
  writes : List StatusRecord
  idleSince : Timestamp
  delay : Timestamp
  exit : Option Exit

/-- What happens in a round of the loop: a stop that is requested before it, so long after the gateway went idle; what
    the destination guard says; the attempt; whether a stop is requested when it has ended; the clock then; and the
    random number for the next delay. -/
structure Round where
  stopBefore : Option Timestamp
  blocked : Option (String × Bool)
  attempt : AttemptRun
  stopped : Bool
  ended : Timestamp
  random : ℚ

namespace EgressGateway

/-- `_write_status`. -/
def writeStatus (g : EgressGateway) (now : Timestamp) (status : EgressStatus) (connected : Bool)
    (reasonCode : Option String) (renderedBuffers : ℕ) (nextRetryAt : Option Timestamp) (error : Option String × Option ℤ) :
    EgressGateway :=
  { g with
    writes := g.writes ++ [⟨status, connected, g.failureCount + 1, reasonCode, renderedBuffers, nextRetryAt, error.1,
      error.2, g.destinationScheme, g.destinationHost, g.startedAt, now⟩] }

/-- The gateway until its loop. -/
inductive Startup where
  | badSinkFactory
  | secretUnavailable
  | ready (scheme host : String)

def start (startedAt now : Timestamp) (startup : Startup) : EgressGateway :=
  let g : EgressGateway := ⟨startedAt, "", "", 0, none, [], now, 0, none⟩
  match startup with
  | .badSinkFactory =>
    { g.writeStatus now .failed false (some "LOCAL_PIPELINE_FAILED") 0 none (none, none) with exit := some (.code 2) }
  | .secretUnavailable =>
    { g.writeStatus now .failed false (some "SECRET_UNAVAILABLE") 0 none (none, none) with exit := some (.code 1) }
  | .ready scheme host =>
    { g with destinationScheme := scheme, destinationHost := host }.writeStatus now .starting false none 0 none (none, none)

/-- A report of an attempt. A connection ends the outage. -/
def takeReport (g : EgressGateway) : Timestamp × Report → EgressGateway
  | (now, .connected rendered) =>
    { g with failureCount := 0, outageStarted := none }.writeStatus now .connected true none rendered none (none, none)
  | (now, .progress rendered) => g.writeStatus now .connected true none rendered none (none, none)

/-- The stop that a round ends with. -/
def stop (g : EgressGateway) (now : Timestamp) (rendered : ℕ) : EgressGateway :=
  { g.writeStatus now .stopped false (some "USER_STOPPED") rendered none (none, none) with exit := some (.code 0) }

/-- What follows a failed attempt. -/
def retry (policy : ReconnectPolicy) (g : EgressGateway) (now : Timestamp) (random : ℚ) (result : AttemptResult) :
    EgressGateway :=
  let outageStarted := g.outageStarted.getD now
  let g := { g with failureCount := g.failureCount + 1, outageStarted := some outageStarted }
  let error := (result.errorDomain, result.errorCode)
  if result.terminal then
    let status : EgressStatus := if result.reasonCode ∈ ["AUTH_FAILED", "PUBLISH_CONFLICT"] then .authFailed else .failed
    { g.writeStatus now status false (some result.reasonCode) result.renderedBuffers none error with
      exit := some (.code 2) }
  else if policy.exhausted g.failureCount (now - outageStarted) then
    { g.writeStatus now .failed false (some "RETRY_EXHAUSTED") result.renderedBuffers none error with
      exit := some (.code 3) }
  else
    match policy.delayFor g.failureCount random with
    | .error _ => { g with exit := some (.raised now) }
    | .ok delay =>
      { g.writeStatus now .reconnecting false (some result.reasonCode) result.renderedBuffers (some (now + delay)) error
        with idleSince := now, delay := delay }

/-- One round of the loop, with the wait before it. -/
def round (policy : ReconnectPolicy) (g : EgressGateway) (r : Round) : EgressGateway :=
  if g.exit.isSome then g
  else
    match r.stopBefore with
    | some waited => g.stop (g.idleSince + waited) 0
    | none =>
      let (g, result) : EgressGateway × AttemptResult :=
        match r.blocked with
        | some (reason, terminal) => (g, ⟨reason, false, 0, terminal, none, none⟩)
        | none => (r.attempt.reports.foldl takeReport g, r.attempt.result)
      if r.stopped || result.reasonCode = "STOPPED" then g.stop r.ended result.renderedBuffers
      else g.retry policy r.ended r.random result

/-- The gateway after some rounds. -/
def run (policy : ReconnectPolicy) (g : EgressGateway) (rounds : List Round) : EgressGateway :=
  rounds.foldl (round policy) g

end EgressGateway

/-! ### The reader -/

/-- What the reader finds at the path. -/
inductive StatusFile where
  | unavailable
  | undecodable
  | invalid
  | json (raw : Json)

/-- `_nonnegative_finite_number`. -/
def nonnegativeFiniteNumber : Option Json → Option Timestamp
  | some (.int n) => if 0 ≤ n ∧ n.natAbs < floatOverflow then some n.natAbs else none
  | some (.float (.finite q)) => if 0 ≤ q then some q.toNNRat else none
  | _ => none

/-- `_max_age_seconds` of a number. -/
def maxAgeSeconds : PyFloat → ℚ
  | .finite q => q
  | _ => 30

/-- `bool(value)`. -/
def truthy : Json → Bool
  | .null => false
  | .bool b => b
  | .int n => n ≠ 0
  | .float x => x ≠ .finite 0
  | .str text => text ≠ ""
  | .arr items => !items.isEmpty
  | .obj fields => !fields.isEmpty

/-- `str(value)`. Only the text of a string is the string itself. -/
def text (str : Json → String) : Json → String
  | .str s => s
  | value => str value

/-- `str(raw.get(key))[:limit] if raw.get(key) else None`. -/
def shortText (str : Json → String) (fields : List (String × Json)) (key : String) (limit : ℕ) : Option String :=
  match fields.lookup key with
  | some value => if truthy value then some (clip limit (text str value)) else none
  | none => none

/-- `_optional_boolean_field`. -/
def optionalBoolean : Option Json → Option Bool
  | none => some false
  | some (.bool b) => some b
  | some _ => none

/-- `_optional_nonnegative_int_field`. -/
def optionalNonnegativeInt : Option Json → Option ℕ
  | none => some 0
  | some (.int n) => if n < 0 then none else some n.natAbs
  | some _ => none

/-- `_unknown`. -/
def unknown (reasonCode : String) (observedAt : Timestamp) : EgressObservation :=
  { status := "UNKNOWN", connected := false, attempt := 0, reasonCode := some reasonCode, renderedBuffers := 0,
    nextRetryAt := none, destinationScheme := none, destinationHost := none, observedAt := .finite observedAt }

/-- The reader's checks on an object, up to its age. -/
def parseStatus (str : Json → String) (fields : List (String × Json)) (current : Timestamp) :
    Option (EgressStatus × Bool × ℕ × ℕ × Timestamp) := do
  let status ← EgressStatus.ofStr (text str ((fields.lookup "status").getD (.str "UNKNOWN")))
  let connected ← optionalBoolean (fields.lookup "connected")
  let attempt ← optionalNonnegativeInt (fields.lookup "attempt")
  let renderedBuffers ← optionalNonnegativeInt (fields.lookup "rendered_buffers")
  let observedAt ←
    match fields.lookup "observed_at" with
    | none => some current
    | some value => nonnegativeFiniteNumber (some value)
  return (status, connected, attempt, renderedBuffers, observedAt)

def readEgressStatus (str : Json → String) (file : StatusFile) (now maxAge : PyFloat) : Except Exc EgressObservation := do
  let current ← requireTimestamp now (.runtimeError "egress status clock is invalid")
  match file with
  | .unavailable => return unknown "STATUS_UNAVAILABLE" current
  | .json (.obj fields) =>
    match parseStatus str fields current with
    | none => return unknown "STATUS_INVALID" current
    | some (status, connected, attempt, renderedBuffers, observedAt) =>
      let maxAge := maxAgeSeconds maxAge
      if !status.terminal && 0 < maxAge && maxAge < (current : ℚ) - observedAt then return unknown "STATUS_STALE" observedAt
      else
        return { status := status.str, connected := status = .connected && connected, attempt := attempt,
                 reasonCode := shortText str fields "reason_code" 100, renderedBuffers := renderedBuffers,
                 nextRetryAt := (nonnegativeFiniteNumber (fields.lookup "next_retry_at")).map fun t : Timestamp => .finite t,
                 destinationScheme := shortText str fields "destination_scheme" 20,
                 destinationHost := shortText str fields "destination_host" 253, observedAt := .finite observedAt }
  | _ => return unknown "STATUS_INVALID" current

/-- The reader's checks accept what the gateway writes. -/
theorem parseStatus_payload {str : Json → String} {w : StatusRecord} {current : Timestamp} :
    parseStatus str w.payload current = some (w.status, w.connected, w.attempt, w.renderedBuffers, w.observedAt) := by
  have hattempt : optionalNonnegativeInt (some (.int w.attempt)) = some w.attempt := by simp [optionalNonnegativeInt]
  have hrendered : optionalNonnegativeInt (some (.int w.renderedBuffers)) = some w.renderedBuffers := by
    simp [optionalNonnegativeInt]
  have hobserved : nonnegativeFiniteNumber (some (.float (.finite w.observedAt))) = some w.observedAt := by
    simp [nonnegativeFiniteNumber]
  simp [parseStatus, StatusRecord.payload, List.lookup_cons, text, optionalBoolean, hattempt, hrendered, hobserved]

/-- A reader with this greatest age reports a file of the gateway as stale. -/
def StatusRecord.ReadsStale (w : StatusRecord) (str : Json → String) (now maxAge : Timestamp) : Prop :=
  ∃ t, readEgressStatus str (.json (.obj w.payload)) (.finite now) (.finite maxAge) = .ok (unknown "STATUS_STALE" t)

/-- It does so exactly when the status is not terminal and the file is older than the greatest age. -/
theorem StatusRecord.readsStale_iff {w : StatusRecord} {str : Json → String} {now maxAge : Timestamp} (hmax : 0 < maxAge) :
    w.ReadsStale str now maxAge ↔ w.status.terminal = false ∧ w.observedAt + maxAge < now := by
  have hpositive : (0 : ℚ) < maxAge := NNRat.coe_pos.mpr hmax
  have hage : (maxAge : ℚ) < (now : ℚ) - w.observedAt ↔ w.observedAt + maxAge < now := by
    rw [lt_sub_iff_add_lt', ← NNRat.coe_add, NNRat.coe_lt_coe]
  have hnow : requireTimestamp (.finite now) (.runtimeError "egress status clock is invalid") = .ok now :=
    requireTimestamp_eq_ok.mpr rfl
  unfold ReadsStale readEgressStatus
  simp only [hnow, bind, Except.bind, pure, Except.pure, parseStatus_payload, maxAgeSeconds, hpositive, hage, decide_true,
    Bool.and_true, Bool.and_eq_true, Bool.not_eq_true', decide_eq_true_eq]
  split
  · rename_i hstale
    exact ⟨fun _ => hstale, fun _ => ⟨_, rfl⟩⟩
  · rename_i hfresh
    refine ⟨fun ⟨t, h⟩ => ?_, fun h => absurd h hfresh⟩
    have hstatus : w.status.str = "UNKNOWN" := congrArg EgressObservation.status (Except.ok.inj h)
    cases hw : w.status <;> rw [hw] at hstatus <;> exact absurd hstatus (by decide)

end IRLight.Egress
