import IRLight.ControlPlane.NodeDocument
import IRLight.Egress.Gateway

/-! # The handlers of the Node authority

`node_internal.py`: bootstrap, heartbeat and stop as they change the document of the Node authority. Handlers run one at a
time, under the exclusive Node state lock. What the Session store, the clock and the environment answer is an input. -/

namespace IRLight.NodeState
open Egress (truthy)

/-! ### Requests -/

/-- A text of `Field(min_length=lo, max_length=hi)`. -/
abbrev Text (lo hi : ℕ) := {text : String // lo ≤ text.length ∧ text.length ≤ hi}

/-- A text of `Field(pattern=...)`. -/
abbrev Choice (texts : List String) := {text : String // text ∈ texts}

/-- An integer of `Field(ge=lo, le=hi)`. -/
abbrev IntIn (lo hi : ℤ) := {n : ℤ // lo ≤ n ∧ n ≤ hi}

/-- A float of `Field(ge=0, le=hi)`. `allow_inf_nan=False` leaves the finite ones. -/
abbrev FloatIn (hi : ℚ) := {q : ℚ // 0 ≤ q ∧ q ≤ hi}

/-- A float of `Field(ge=0)`. -/
abbrev Nonnegative := {q : ℚ // 0 ≤ q}

/-- A `hexdigest` of SHA-256. -/
abbrev Sha256 := {digest : String // isSha256 digest}

/-- A name that is not empty. -/
abbrev Name := {name : String // name ≠ ""}

structure BootstrapRequest where
  providerServerId : Text 1 200
  bootId : Text 1 200
  agentVersion : Text 1 100
  bootstrapRequestId : Text 16 200
  nodeAccessTokenSha256 : Sha256
  publicAddress : Option (Text 0 200)
  privateAddress : Option (Text 0 200)

structure TrackObservation where
  codec : Text 1 100
  width : Option (IntIn 1 16384)
  height : Option (IntIn 1 16384)
  profile : Option (String ⊕ ℤ)
  level : Option (String ⊕ ℤ)
  sampleRate : Option (IntIn 1 768000)
  channelCount : Option (IntIn 1 64)

structure QualityObservation where
  sampleElapsedSeconds : Option (FloatIn 60)
  videoFrames : Option (IntIn 0 1000000)
  audioFrames : Option (IntIn 0 10000000)
  videoFps : Option (FloatIn 1000)
  videoTimestampSpanSeconds : Option (FloatIn 60)
  audioTimestampSpanSeconds : Option (FloatIn 60)
  keyframes : Option (IntIn 0 1000000)
  maxGopSeconds : Option (FloatIn 60)
  videoTimestampRegressions : Option (IntIn 0 1000000)
  audioTimestampRegressions : Option (IntIn 0 1000000)
  error : Option (Text 0 200)

structure IngestObservationRequest where
  status : Choice ["OFFLINE", "UNKNOWN", "PENDING", "ACCEPTED", "WARNING", "DEGRADED", "REJECTED"]
  path : Text 1 200
  online : Bool
  sourceType : Option (Text 0 50)
  sourceId : Option (Text 0 200)
  bitrateBps : Option Nonnegative
  maxBitrateBps : Option ℕ
  tracks : {tracks : List TrackObservation // tracks.length ≤ 8}
  reasons : {reasons : List (Text 1 100) // reasons.length ≤ 16}
  warnings : {warnings : List (Text 1 100) // warnings.length ≤ 16}
  quality : Option QualityObservation
  enforced : Bool
  enforcementError : Option (Text 0 200)
  observedAt : Nonnegative

structure EgressObservationRequest where
  status : Choice ["UNKNOWN", "STARTING", "CONNECTED", "RECONNECTING", "AUTH_FAILED", "FAILED", "STOPPED"]
  connected : Bool
  attempt : ℕ
  reasonCode : Option (Text 0 100)
  renderedBuffers : ℕ
  nextRetryAt : Option Nonnegative
  destinationScheme : Option (Text 0 20)
  destinationHost : Option (Text 0 253)
  observedAt : Nonnegative

structure RelayClientObservationRequest where
  status : Choice ["UNKNOWN", "CONNECTED", "DISCONNECTED"]
  connected : Bool
  readerCount : ℕ
  reasonCode : Option (Text 0 100)
  observedAt : Nonnegative

structure HeartbeatRequest where
  status : Choice ["BOOTSTRAPPING", "READY", "STOPPING", "STOPPED", "FAILED"]
  mediaHealth : Text 0 200
  activePublisher : Bool
  egressConnected : Bool
  cpuPercent : Option (FloatIn 1000)
  memoryMb : Option Nonnegative
  softwareVersion : Option (Text 0 100)
  deadlineRemainingSeconds : Option Nonnegative
  ingest : Option IngestObservationRequest
  egress : Option EgressObservationRequest
  relayClient : Option RelayClientObservationRequest

/-! ### `model_dump` -/

section
variable {lo hi : ℕ} {a b : ℤ} {bound : ℚ}

def Text.json (text : Text lo hi) : Json := .str text.1
def IntIn.json (n : IntIn a b) : Json := .int n.1
def FloatIn.json (q : FloatIn bound) : Json := .float (.finite q.1)
def Nonnegative.json (q : Nonnegative) : Json := .float (.finite q.1)

end

def codecValue : String ⊕ ℤ → Json
  | .inl text => .str text
  | .inr n => .int n

def TrackObservation.modelDump (t : TrackObservation) : Json :=
  .obj [("codec", t.codec.json), ("width", .ofOption IntIn.json t.width), ("height", .ofOption IntIn.json t.height),
    ("profile", .ofOption codecValue t.profile), ("level", .ofOption codecValue t.level),
    ("sampleRate", .ofOption IntIn.json t.sampleRate), ("channelCount", .ofOption IntIn.json t.channelCount)]

def QualityObservation.modelDump (q : QualityObservation) : Json :=
  .obj [("sample_elapsed_seconds", .ofOption FloatIn.json q.sampleElapsedSeconds),
    ("video_frames", .ofOption IntIn.json q.videoFrames), ("audio_frames", .ofOption IntIn.json q.audioFrames),
    ("video_fps", .ofOption FloatIn.json q.videoFps),
    ("video_timestamp_span_seconds", .ofOption FloatIn.json q.videoTimestampSpanSeconds),
    ("audio_timestamp_span_seconds", .ofOption FloatIn.json q.audioTimestampSpanSeconds),
    ("keyframes", .ofOption IntIn.json q.keyframes), ("max_gop_seconds", .ofOption FloatIn.json q.maxGopSeconds),
    ("video_timestamp_regressions", .ofOption IntIn.json q.videoTimestampRegressions),
    ("audio_timestamp_regressions", .ofOption IntIn.json q.audioTimestampRegressions),
    ("error", .ofOption Text.json q.error)]

def IngestObservationRequest.modelDump (o : IngestObservationRequest) : Json :=
  .obj [("status", .str o.status.1), ("path", o.path.json), ("online", .bool o.online),
    ("source_type", .ofOption Text.json o.sourceType), ("source_id", .ofOption Text.json o.sourceId),
    ("bitrate_bps", .ofOption Nonnegative.json o.bitrateBps),
    ("max_bitrate_bps", .ofOption (fun n : ℕ => .int n) o.maxBitrateBps),
    ("tracks", .arr (o.tracks.1.map TrackObservation.modelDump)), ("reasons", .arr (o.reasons.1.map Text.json)),
    ("warnings", .arr (o.warnings.1.map Text.json)), ("quality", .ofOption QualityObservation.modelDump o.quality),
    ("enforced", .bool o.enforced), ("enforcement_error", .ofOption Text.json o.enforcementError),
    ("observed_at", o.observedAt.json)]

def EgressObservationRequest.modelDump (o : EgressObservationRequest) : Json :=
  .obj [("status", .str o.status.1), ("connected", .bool o.connected), ("attempt", .int o.attempt),
    ("reason_code", .ofOption Text.json o.reasonCode), ("rendered_buffers", .int o.renderedBuffers),
    ("next_retry_at", .ofOption Nonnegative.json o.nextRetryAt),
    ("destination_scheme", .ofOption Text.json o.destinationScheme),
    ("destination_host", .ofOption Text.json o.destinationHost), ("observed_at", o.observedAt.json)]

def RelayClientObservationRequest.modelDump (o : RelayClientObservationRequest) : Json :=
  .obj [("status", .str o.status.1), ("connected", .bool o.connected), ("reader_count", .int o.readerCount),
    ("reason_code", .ofOption Text.json o.reasonCode), ("observed_at", o.observedAt.json)]

/-! ### Events -/

/-- `observation.get(key)`, of an observation that may be missing. -/
def field (observation : Json) (key : String) : Json := (observation.get? key).getD .null

def isText (text : String) (value : Json) : Bool := sameText (.str text) value

/-- `previous != current`, of values that are strings or null. -/
def differ : Json → Json → Bool
  | .null, .null => false
  | .str a, .str b => a ≠ b
  | _, _ => true

/-- `str(value)`, of a string or a missing value. -/
def textOf : Json → String
  | .str text => text
  | _ => ""

/-- `_ingest_event_types`. -/
def ingestEventTypes (previous current : Json) (hadConnection : Bool) : List String :=
  let previousStatus := field previous "status"
  let currentStatus := field current "status"
  let previousOnline := truthy (field previous "online")
  let currentOnline := truthy (field current "online")
  if previousOnline && !currentOnline then ["ingest.disconnected"]
  else
    let connected := if hadConnection then "ingest.reconnected" else "ingest.connected"
    let events :=
      if currentOnline && (!previousOnline || differ (field previous "source_id") (field current "source_id")) then
        [connected, "ingest.format_detected"]
      else []
    if isText "REJECTED" currentStatus && !isText "REJECTED" previousStatus then events ++ ["ingest.rejected"]
    else if isText "DEGRADED" currentStatus && !isText "DEGRADED" previousStatus then events ++ ["ingest.degraded"]
    else if isText "DEGRADED" previousStatus && currentOnline && oneOf ["PENDING", "ACCEPTED", "WARNING"] currentStatus then
      events ++ ["ingest.recovered"]
    else if differ currentStatus previousStatus && events = [] then ["ingest.policy_changed"]
    else events

/-- `_egress_event_types`. -/
def egressEventTypes (previous current : Json) (hadConnection : Bool) : List String :=
  let previousStatus := textOf (field previous "status")
  let currentStatus := textOf (field current "status")
  let previousConnected := truthy (field previous "connected")
  let currentConnected := truthy (field current "connected")
  if currentStatus = previousStatus && currentConnected = previousConnected then []
  else if currentStatus = "STARTING" then ["egress.starting"]
  else if currentConnected && currentStatus = "CONNECTED" then
    [if hadConnection then "egress.recovered" else "egress.connected"]
  else
    (if previousConnected && currentStatus ≠ "STOPPED" then ["egress.disconnected"] else []) ++
      match currentStatus with
      | "RECONNECTING" => ["egress.reconnecting"]
      | "AUTH_FAILED" => ["egress.auth_failed"]
      | "FAILED" => ["egress.failed"]
      | "STOPPED" => ["egress.stopped"]
      | _ => []

/-- The events of `_append_relay_client_events`. -/
def relayClientEventTypes (previous current : Json) (everConnected : Bool) : List String :=
  let previousConnected := truthy (field previous "connected")
  let currentConnected := truthy (field current "connected")
  if currentConnected && !previousConnected then
    [if everConnected then "relay.client.reconnected" else "relay.client.connected"]
  else if !currentConnected && previousConnected then ["relay.client.disconnected"]
  else []

/-- `list(node.get("events", []))`. -/
def eventsOf (node : Fields) : List Json :=
  match node.get? "events" with
  | some (.arr events) => events
  | _ => []

/-- `int(value)`, of an integer. -/
def intOf : Json → ℤ
  | .int n => n
  | _ => 0

/-- The sequence number of the next event. -/
def nextSequence (node : Fields) (events : List Json) : ℤ :=
  match node.get? "next_event_seq" with
  | some value => intOf value
  | none =>
    match events.getLast? with
    | some event => intOf (field event "sequence") + 1
    | none => 1

def event (sequence : ℤ) (eventType : String) (occurredAt : Timestamp) (payload : Json) : Json :=
  .obj [("sequence", .int sequence), ("type", .str eventType), ("occurred_at", .float (.finite occurredAt)),
    ("payload", payload)]

/-- An event for each type, numbered from `sequence`. -/
def newEvents (sequence : ℤ) (occurredAt : Timestamp) (payload : Json) : List String → List Json
  | [] => []
  | eventType :: eventTypes =>
    event sequence eventType occurredAt payload :: newEvents (sequence + 1) occurredAt payload eventTypes

/-- The Node with events for the types. It keeps the newest hundred. -/
def appendEvents (node : Fields) (eventTypes : List String) (payload : Json) (occurredAt : Timestamp) : Fields :=
  let events := eventsOf node
  let sequence := nextSequence node events
  let events := events ++ newEvents sequence occurredAt payload eventTypes
  (node.set "events" (.arr (lastItems 100 events))).set "next_event_seq" (.int (sequence + eventTypes.length))

/-- `node[key] = True`, when the condition holds. -/
def flag (condition : Bool) (node : Fields) (key : String) : Fields :=
  if condition then node.set key (.bool true) else node

/-- `_append_ingest_events`. -/
def appendIngestEvents (node : Fields) (previous current : Json) (occurredAt : Timestamp) : List String × Fields :=
  let eventTypes := ingestEventTypes previous current (truthy (valueOf node "ingest_ever_online"))
  if eventTypes = [] then ([], node)
  else
    let payload : Json :=
      .obj [("status", field current "status"), ("source_type", field current "source_type"),
        ("source_id", field current "source_id"), ("bitrate_bps", field current "bitrate_bps"),
        ("tracks", (current.get? "tracks").getD (.arr [])), ("quality", field current "quality"),
        ("reasons", (current.get? "reasons").getD (.arr [])), ("warnings", (current.get? "warnings").getD (.arr [])),
        ("enforced", (current.get? "enforced").getD (.bool false))]
    (eventTypes,
      flag (truthy (field current "online")) (appendEvents node eventTypes payload occurredAt) "ingest_ever_online")

/-- `_egress_payload`. -/
def egressPayload (nodeId : Json) (current : Json) : Json :=
  .obj [("node_id", nodeId), ("status", field current "status"), ("connected", .bool (truthy (field current "connected"))),
    ("attempt", field current "attempt"), ("reason_code", field current "reason_code"),
    ("rendered_buffers", field current "rendered_buffers"), ("next_retry_at", field current "next_retry_at"),
    ("destination_scheme", field current "destination_scheme"), ("destination_host", field current "destination_host"),
    ("observed_at", field current "observed_at")]

/-- `_append_egress_events`. -/
def appendEgressEvents (node : Fields) (previous current : Json) (occurredAt : Timestamp) : List String × Fields :=
  let eventTypes := egressEventTypes previous current (truthy (valueOf node "egress_ever_connected"))
  if eventTypes = [] then ([], node)
  else
    let payload := egressPayload (.str (textOf (valueOf node "node_id"))) current
    (eventTypes,
      flag (truthy (field current "connected") && isText "CONNECTED" (field current "status"))
        (appendEvents node eventTypes payload occurredAt) "egress_ever_connected")

/-- `_relay_client_payload`. -/
def relayClientPayload (nodeId : Json) (current : Json) : Json :=
  .obj [("node_id", nodeId), ("status", field current "status"), ("connected", .bool (truthy (field current "connected"))),
    ("reader_count", .int (max 0 (intOf (field current "reader_count")))), ("reason_code", field current "reason_code"),
    ("observed_at", field current "observed_at")]

/-- `_append_relay_client_events`. -/
def appendRelayClientEvents (node : Fields) (previous current : Json) (occurredAt : Timestamp) : List String × Fields :=
  let eventTypes := relayClientEventTypes previous current (truthy (valueOf node "relay_client_ever_connected"))
  if eventTypes = [] then ([], node)
  else
    let payload := relayClientPayload (.str (textOf (valueOf node "node_id"))) current
    (eventTypes,
      flag (truthy (field current "connected")) (appendEvents node eventTypes payload occurredAt)
        "relay_client_ever_connected")

/-! ### Heartbeat -/

/-- What the clock and the Session store answer to a heartbeat. -/
structure HeartbeatAnswers where
  time : PyFloat
  /-- `record_node_heartbeat`. -/
  recorded : Except Exc Bool
  /-- `apply_ingest_observation`. -/
  ingest : Except Exc Unit
  /-- `_apply_egress_to_session`. -/
  egress : Except Exc Unit
  /-- `_apply_relay_client_to_session`. -/
  relayClient : Except Exc Unit
  /-- `media_health_failure_grace_seconds`. -/
  graceSeconds : PyFloat
  /-- The Session's Node and status. -/
  session : Except Exc (Option (Option String × Status))
  transition : Except Exc Unit
  appended : Except Exc Unit

/-- `_require_node_access`. -/
def requireNodeAccess (node : Fields) (authorization : NodeApi.Authorization) : Except Exc Unit := do
  let supplied ← authorization.digest
  let expected := textOf (valueOf node "access_token_sha256")
  raiseIf (expected = "" ∨ expected ≠ supplied) (.httpException 401 (.text "invalid node access token"))

/-- `node[key] = value`, unless the value is missing. -/
def setSome (node : Fields) (key : String) : Option Json → Fields
  | some value => node.set key value
  | none => node

/-- The Node with what every heartbeat says about it. -/
def observed (node : Fields) (request : HeartbeatRequest) (observedAt : Timestamp) : Fields :=
  let node := node.set "status" (.str request.status.1)
  let node := node.set "last_heartbeat_at" (.float (.finite observedAt))
  let node := node.set "media_health" request.mediaHealth.json
  let node := node.set "active_publisher" (.bool request.activePublisher)
  let node := node.set "egress_connected" (.bool request.egressConnected)
  let node := setSome node "software_version" ((request.softwareVersion.map Text.json).filter truthy)
  let node := setSome node "cpu_percent" (request.cpuPercent.map FloatIn.json)
  let node := setSome node "memory_mb" (request.memoryMb.map Nonnegative.json)
  setSome node "deadline_remaining_seconds" (request.deadlineRemainingSeconds.map Nonnegative.json)

def assigned (node : Fields) : Bool := truthy (valueOf node "session_assigned")

/-- The Session accepts the heartbeat. -/
def requireRecorded (node : Fields) (recorded : Except Exc Bool) : Except Exc Unit :=
  if assigned node then do
    let accepted ← recorded
    raiseIf (!accepted) (.httpException 409 (.text "assigned Session no longer accepts this Node heartbeat"))
  else .ok ()

/-- `except (KeyError, RuntimeError)`. -/
def caught (exc : Exc) : Bool := exc.isRuntimeError || exc matches .keyError _

/-- The Node after a report to its Session, whose error it keeps. -/
def afterReport (node : Fields) (errorField : String) : Except Exc Unit → Except Exc Fields
  | .ok () => .ok (node.erase errorField)
  | .error exc => if caught exc then .ok (node.set errorField (.str (clip 200 exc.str))) else .error exc

/-- The ingest part of a heartbeat. -/
def reportIngest (node : Fields) (request : IngestObservationRequest) (observedAt : Timestamp) (answer : Except Exc Unit) :
    Except Exc Fields :=
  let current := request.modelDump
  let reported := appendIngestEvents node (valueOf node "ingest") current observedAt
  let node := reported.2.set "ingest" current
  if assigned node then afterReport node "session_event_error" answer else .ok node

/-- The egress part of a heartbeat. -/
def reportEgress (node : Fields) (request : EgressObservationRequest) (observedAt : Timestamp) (answer : Except Exc Unit) :
    Except Exc Fields :=
  let current := request.modelDump
  let reported := appendEgressEvents node (valueOf node "egress") current observedAt
  let node := (reported.2.set "egress" current).set "egress_connected" (.bool (truthy (field current "connected")))
  if assigned node && reported.1 ≠ [] then afterReport node "egress_session_event_error" answer else .ok node

/-- The relay client part of a heartbeat. -/
def reportRelayClient (node : Fields) (request : RelayClientObservationRequest) (observedAt : Timestamp)
    (answer : Except Exc Unit) : Except Exc Fields :=
  let current := request.modelDump
  let reported := appendRelayClientEvents node (valueOf node "relay_client") current observedAt
  let node := reported.2.set "relay_client" current
  if assigned node && reported.1 ≠ [] then afterReport node "relay_client_session_event_error" answer else .ok node

/-- The part of a heartbeat about an observation that may be missing. -/
def reportSome {α : Type} (report : Fields → α → Except Exc Fields) (node : Fields) : Option α → Except Exc Fields
  | some request => report node request
  | none => .ok node

/-- `float(value)`, of a number. -/
def numberOf : Json → Option ℚ
  | .int n => some n
  | .float (.finite q) => some q
  | _ => none

/-- `elapsed < grace`. -/
def within (elapsed : ℚ) : PyFloat → Bool
  | .finite grace => elapsed < grace
  | .infinity negative => !negative
  | .nan => false

/-- The latching part of `apply_pipeline_health`. An exception comes with the Node as it was then. -/
def latchPipelineFailure (nodeId : String) (node : Fields) (current : Timestamp) (answers : HeartbeatAnswers) :
    Fields × Except Exc Unit :=
  match answers.session with
  | .error exc => (node, .error exc)
  | .ok none => (node, .error (.keyError (textOf (valueOf node "session_id"))))
  | .ok (some (sessionNode, status)) =>
    if sessionNode.any (· ≠ nodeId) then (node, .error (.runtimeError "node is not assigned to session"))
    else if status ∉ activeStates then (node, .ok ())
    else
      match answers.transition with
      | .error exc => (node, .error exc)
      | .ok () =>
        ((node.set "desired_state" (.str "STOPPED")).set "pipeline_failure_latched_at" (.float (.finite current)),
          answers.appended)

/-- The unhealthy timer of `apply_pipeline_health`, and when it started. -/
def unhealthySince (node : Fields) (current : Timestamp) : ℚ × Fields :=
  match numberOf (valueOf node "media_unhealthy_since") with
  | some since =>
    if current < since then (current, node.set "media_unhealthy_since" (.float (.finite current))) else (since, node)
  | none => (current, node.set "media_unhealthy_since" (.float (.finite current)))

/-- `apply_pipeline_health`. -/
def applyPipelineHealth (nodeId : String) (node : Fields) (status mediaHealth : String) (current : Timestamp)
    (answers : HeartbeatAnswers) : Fields × Except Exc Unit :=
  let health := NodeApi.normalizedHealth mediaHealth
  if health = "running" then ((node.erase "media_unhealthy_since").erase "media_failure_reason", .ok ())
  else if status ≠ "FAILED" && health ∉ ["stopped", "failed", "crashed"] then (node, .ok ())
  else
    let timer := unhealthySince node current
    let node := timer.2.set "media_failure_reason" (.str "PIPELINE_CRASHED")
    if status ≠ "FAILED" && within (current - timer.1) answers.graceSeconds then (node, .ok ())
    else latchPipelineFailure nodeId node current answers

/-- The pipeline part of a heartbeat. -/
def reportPipeline (nodeId : String) (node : Fields) (request : HeartbeatRequest) (observedAt : Timestamp)
    (answers : HeartbeatAnswers) : Except Exc Fields :=
  if assigned node then
    let applied := applyPipelineHealth nodeId node request.status.1 request.mediaHealth.1 observedAt answers
    afterReport applied.1 "pipeline_session_event_error" applied.2
  else .ok node

/-- The record of a Node after a heartbeat. -/
def heartbeatNode (nodeId : String) (node : Fields) (request : HeartbeatRequest) (observedAt : Timestamp)
    (answers : HeartbeatAnswers) : Except Exc Fields := do
  let node := observed node request observedAt
  requireRecorded node answers.recorded
  let node ← reportSome (fun node o => reportIngest node o observedAt answers.ingest) node request.ingest
  let node ← reportSome (fun node o => reportEgress node o observedAt answers.egress) node request.egress
  let node ← reportSome (fun node o => reportRelayClient node o observedAt answers.relayClient) node request.relayClient
  reportPipeline nodeId node request observedAt answers

def findNode (authority : Document) (nodeId : String) : Except Exc Fields :=
  match authority.nodes.get? nodeId with
  | some node => .ok node
  | none => .error (.httpException 404 (.text "unknown node"))

def Document.withNode (d : Document) (nodeId : String) (node : Fields) : Document :=
  { d with nodes := d.nodes.set nodeId node }

/-- The document that `_heartbeat_locked` builds. -/
def heartbeat (authority : Document) (nodeId : String) (request : HeartbeatRequest)
    (authorization : NodeApi.Authorization) (answers : HeartbeatAnswers) : Except Exc Document := do
  let node ← findNode authority nodeId
  requireNodeAccess node authorization
  let observedAt ← NodeApi.requireFinite answers.time "heartbeat clock"
  let node ← heartbeatNode nodeId node request observedAt answers
  return authority.withNode nodeId node

/-- The document that `stop_node` builds, for an administrator whose token was accepted. -/
def stopNode (authority : Document) (nodeId : String) : Except Exc Document := do
  let node ← findNode authority nodeId
  return authority.withNode nodeId ((node.set "desired_state" (.str "STOPPED")).set "status" (.str "STOPPING"))

/-! ### Bootstrap -/

/-- The Session that a server is assigned to, as far as a bootstrap looks at it. -/
structure AssignedSession where
  sessionId : Name
  destinationId : Option Name
  relayOnly : Bool
  absoluteDeadlineAt : Option Timestamp

/-- What the clock, the environment and the Session store answer to a bootstrap. -/
structure BootstrapAnswers where
  time : PyFloat
  /-- `bootstrap_at + deadline_hours * 3600`, when the environment holds a number of hours. -/
  configuredDeadline : Option PyFloat
  /-- `_resolve_assigned_session`. -/
  session : Except Exc (Option AssignedSession)
  /-- `uuid.uuid4()`. -/
  uuid : Name
  /-- `bind_node`. -/
  bound : Except Exc Unit
  /-- `_bootstrap_response`, with the Session that it is about. -/
  response : Except Exc Unit

/-- A token that was consumed, as the document knows it. -/
def consumedToken (authority : Document) (digest : Sha256) : Option Fields :=
  (authority.tokens.get? digest.1).filter fun record => truthy (valueOf record "consumed")

/-- Whether the request repeats the attempt that consumed its token. -/
def sameAttempt (authority : Document) (consumed : Fields) (request : BootstrapRequest) : Bool :=
  match authority.nodes.get? (textOf (valueOf consumed "node_id")) with
  | none => false
  | some node =>
    isText request.bootstrapRequestId.1 (valueOf consumed "bootstrap_request_id") &&
      isText request.providerServerId.1 (valueOf consumed "provider_server_id") &&
      isText request.bootId.1 (valueOf consumed "boot_id") &&
      isText request.nodeAccessTokenSha256.1 (valueOf consumed "node_access_token_sha256") &&
      isText request.nodeAccessTokenSha256.1 (valueOf node "access_token_sha256")

def deadlineError : Exc := invalid "absolute deadline"

/-- The deadline of the environment. -/
def configuredDeadline (answers : BootstrapAnswers) : Except Exc Timestamp :=
  match answers.configuredDeadline with
  | some deadline => requireTimestamp deadline deadlineError
  | none => .error deadlineError

/-- `bind_node`, for the Session that the server is assigned to. -/
def bindAssigned (session : Option AssignedSession) (bound : Except Exc Unit) : Except Exc Unit :=
  match session, bound with
  | some _, .error exc => .error (if caught exc then .httpException 409 (.text exc.str) else exc)
  | _, _ => .ok ()

/-- The record of a Node that has just bootstrapped. -/
def newNode (nodeId sessionId : Name) (session : Option AssignedSession) (request : BootstrapRequest)
    (absoluteDeadline bootstrapAt : Timestamp) : Fields where
  items :=
    [("node_id", .str nodeId.1), ("session_id", .str sessionId.1), ("session_assigned", .bool session.isSome),
      ("destination_id", .ofOption (fun name : Name => .str name.1) (session.bind (·.destinationId))),
      ("egress_mode", .str (if session.any (·.relayOnly) then "RELAY_ONLY" else "DIRECT_PUSH")),
      ("provider_server_id", request.providerServerId.json), ("boot_id", request.bootId.json),
      ("agent_version", request.agentVersion.json), ("public_address", .ofOption Text.json request.publicAddress),
      ("private_address", .ofOption Text.json request.privateAddress), ("status", .str "BOOTSTRAPPING"),
      ("desired_state", .str "RUNNING"), ("absolute_deadline", .float (.finite absoluteDeadline)),
      ("last_heartbeat_at", .null), ("ingest", .null), ("ingest_ever_online", .bool false), ("egress", .null),
      ("egress_ever_connected", .bool false), ("relay_client", .null), ("relay_client_ever_connected", .bool false),
      ("events", .arr []), ("next_event_seq", .int 1), ("created_at", .float (.finite bootstrapAt)),
      ("access_token_sha256", .str request.nodeAccessTokenSha256.1)]
  nodup := by simp

/-- What the ledger of the former build keeps of a consumed token. -/
def fuseRecord (nodeId sessionId : Name) (consumedAt : Timestamp) : Fields where
  items := [("consumed", .bool true), ("consumed_at", .float (.finite consumedAt)), ("node_id", .str nodeId.1),
    ("session_id", .str sessionId.1)]
  nodup := by simp

def tokenRecord (nodeId sessionId : Name) (request : BootstrapRequest) (consumedAt : Timestamp) : Fields where
  items := [("consumed", .bool true), ("consumed_at", .float (.finite consumedAt)), ("node_id", .str nodeId.1),
    ("session_id", .str sessionId.1), ("bootstrap_request_id", request.bootstrapRequestId.json),
    ("provider_server_id", request.providerServerId.json), ("boot_id", request.bootId.json),
    ("node_access_token_sha256", .str request.nodeAccessTokenSha256.1)]
  nodup := by simp

theorem nodeId_ne_empty {sequence : ℕ} : NodeAuthority.nodeId sequence ≠ "" := by
  intro h
  have hlist := congrArg String.toList h
  simp [NodeAuthority.nodeId] at hlist

/-- The id that `_issue_node_id` issues. -/
def issueNodeId (d : Document) : Name := ⟨NodeAuthority.nodeId d.nextNodeSeq.toNat, nodeId_ne_empty⟩

/-- The document after the id has been issued, with the new Node and the token that it consumed. -/
def Document.register (d : Document) (digest : Sha256) (node token : Fields) : Document where
  nodes := d.nodes.set (issueNodeId d).1 node
  nextNodeSeq := d.nextNodeSeq + 1
  tokens := d.tokens.set digest.1 token

/-- What `_bootstrap_locked` builds: the document, and the record of the token for the ledger of the former build. -/
structure Bootstrapped where
  document : Document
  fuse : Fields

/-- The part of `_bootstrap_locked` for a token that is not consumed. -/
def createNode (authority : Document) (digest : Sha256) (request : BootstrapRequest) (answers : BootstrapAnswers) :
    Except Exc Bootstrapped := do
  let bootstrapAt ← NodeApi.requireFinite answers.time "bootstrap clock"
  let configured ← configuredDeadline answers
  let session ← answers.session
  let nodeId := issueNodeId authority
  let sessionId := (session.map (·.sessionId)).getD answers.uuid
  let deadline := (session.bind (·.absoluteDeadlineAt)).getD configured
  bindAssigned session answers.bound
  let node := newNode nodeId sessionId session request deadline bootstrapAt
  return {
    document := authority.register digest node (tokenRecord nodeId sessionId request bootstrapAt)
    fuse := fuseRecord nodeId sessionId bootstrapAt }

/-- What `_bootstrap_locked` builds, and nothing for an attempt that is answered again. -/
def bootstrap (authority : Document) (digest : Sha256) (request : BootstrapRequest) (answers : BootstrapAnswers) :
    Except Exc (Option Bootstrapped) :=
  match consumedToken authority digest with
  | some consumed =>
    if sameAttempt authority consumed request then answers.response.map fun () => none
    else .error (.httpException 409 (.text "bootstrap token already consumed"))
  | none => some <$> createNode authority digest request answers

/-! ### The files -/

/-- The files `nodes.json` and `bootstrap_tokens.json`, and the marker that the second was initialized. -/
structure State where
  authority : Document
  fuse : Option (Dict String Fields)
  fuseInitialized : Bool

/-- `ensure_state`, in an empty directory. -/
def State.initial : State := ⟨.default, none, false⟩

/-- The merge of `_read_authority`: what the ledger of the former build knows as consumed counts as consumed. -/
def mergeFuse (tokens fuse : Dict String Fields) : Dict String Fields :=
  fuse.items.foldl (fun tokens i =>
    if !truthy (valueOf i.2 "consumed") || (tokens.get? i.1).any (fun record => truthy (valueOf record "consumed")) then tokens
    else tokens.set i.1 i.2) tokens

/-- `_read_authority`. -/
def readAuthority (s : State) : Except Exc Document := do
  validateNodeAuthority s.authority
  match s.fuse with
  | some fuse =>
    validateTokens none fuse
    return { s.authority with tokens := mergeFuse s.authority.tokens fuse }
  | none =>
    raiseIf (s.fuseInitialized = true) (.nodeStateError "bootstrap token fuse disappeared after initialization")
    return s.authority

/-- Where `atomic_write_json` fails. -/
inductive WriteFault where
  | beforeMarker
  | beforeReplace
  | afterReplace

/-- An I/O error, as the Node state lock passes it on. -/
def ioError : Exc := .nodeStateError "cannot lock Node state"

/-- `_write_authority`. -/
def writeAuthority (s : State) (document : Document) (fault : Option WriteFault) : State × Except Exc Unit :=
  match validateNodeAuthority document with
  | .error exc => (s, .error exc)
  | .ok () =>
    match fault with
    | none => ({ s with authority := document }, .ok ())
    | some .afterReplace => ({ s with authority := document }, .error ioError)
    | some _ => (s, .error ioError)

/-- `_write_legacy_token_fuse`. -/
def writeFuse (s : State) (digest : Sha256) (record : Fields) (fault : Option WriteFault) : State × Except Exc Unit :=
  let fuse := (s.fuse.getD .empty).set digest.1 record
  match validateTokens none fuse with
  | .error exc => (s, .error exc)
  | .ok () =>
    match fault with
    | none => ({ s with fuse := some fuse, fuseInitialized := true }, .ok ())
    | some .afterReplace => ({ s with fuse := some fuse, fuseInitialized := true }, .error ioError)
    | some .beforeReplace => ({ s with fuseInitialized := true }, .error ioError)
    | some .beforeMarker => (s, .error ioError)

/-- A request and what the other authorities answer to it. -/
inductive Call where
  | bootstrap (digest : Sha256) (request : BootstrapRequest) (answers : BootstrapAnswers)
  | heartbeat (nodeId : String) (request : HeartbeatRequest) (authorization : NodeApi.Authorization)
    (answers : HeartbeatAnswers)
  | stop (nodeId : String)

/-- A call and the I/O errors that it meets. -/
structure Attempt where
  call : Call
  reading : Option Exc
  fuse : Option WriteFault
  authority : Option WriteFault

/-- What the handler of a call makes of the document that it has read. -/
inductive Built where
  | answer
  | document (document : Document)
  | bootstrapped (digest : Sha256) (bootstrapped : Bootstrapped)

def Call.build (authority : Document) : Call → Except Exc Built
  | .bootstrap digest request answers => do
    let made ← NodeState.bootstrap authority digest request answers
    return made.elim .answer (.bootstrapped digest)
  | .heartbeat nodeId request authorization answers =>
    .document <$> NodeState.heartbeat authority nodeId request authorization answers
  | .stop nodeId => .document <$> stopNode authority nodeId

/-- What the handler builds from the files. -/
def Attempt.build (s : State) (a : Attempt) : Except Exc Built := do
  a.reading.elim (.ok ()) .error
  a.call.build (← readAuthority s)

/-- The document of a handler that writes one. -/
def Built.document? : Built → Option Document
  | .answer => none
  | .document d => some d
  | .bootstrapped _ made => some made.document

/-- A call under the Node state lock. A bootstrap burns its token before the document is written. -/
def step (s : State) (a : Attempt) : State × Except Exc Unit :=
  match a.build s with
  | .error exc => (s, .error exc)
  | .ok .answer => (s, .ok ())
  | .ok (.document d) => writeAuthority s d a.authority
  | .ok (.bootstrapped digest made) =>
    match writeFuse s digest made.fuse a.fuse with
    | (s, .error exc) => (s, .error exc)
    | (s, .ok ()) => writeAuthority s made.document a.authority

/-- The files after the calls, one after the other. -/
def run (attempts : List Attempt) : State := attempts.foldl (fun s a => (step s a).1) .initial

end IRLight.NodeState
