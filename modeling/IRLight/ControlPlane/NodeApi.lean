import IRLight.ControlPlane.Api
import Mathlib.Data.List.Sort

/-! # The Node-facing API

Bootstrap, heartbeat and stop of a Node. A handler works on the copy of the registry that it read and
writes it back at its end. -/

namespace IRLight
open Interleaving Status Call

namespace NodeApi

/-! ### Authentication -/

/-- An `Authorization` header. A bearer token is known by its digest. -/
inductive Authorization where
  | missing
  | empty
  | bearer (sha256 : String)

/-- The digest of `_bearer`. -/
def Authorization.digest : Authorization → Except Exc String
  | missing => .error (.httpException 401 (.text "missing bearer token"))
  | empty => .error (.httpException 401 (.text "empty bearer token"))
  | bearer sha256 => .ok sha256

/-- `_require_node_access`. -/
def requireNodeAccess (node : Node) (authorization : Authorization) : Except Exc Unit := do
  let supplied ← authorization.digest
  raiseIf (node.accessTokenSha256 = "" ∨ node.accessTokenSha256 ≠ supplied)
    (.httpException 401 (.text "invalid node access token"))

/-- `require_assigned_node`. The registry keeps its Nodes in the order of their ids. -/
def requireAssignedNode (authorization : Authorization) (sessionId : String) : Control Node := do
  let supplied ← ofExcept authorization.digest
  let authority ← call .readAuthority
  let nodes := (authority.nodes.entries.map (·.2)).insertionSort fun n m => n.nodeId ≤ m.nodeId
  match nodes.find? fun node => node.accessTokenSha256 ≠ "" && node.accessTokenSha256 = supplied with
  | some node =>
    if node.sessionAssigned && node.sessionId = sessionId && node.desiredState = .running then return node
    else throw (.httpException 401 (.text "invalid node access token"))
  | none => throw (.httpException 401 (.text "invalid node access token"))

/-- `_require_finite_number` of a clock reading. -/
def requireFinite (reading : PyFloat) (label : String) : Except Exc Timestamp :=
  requireTimestamp reading (.nodeStateError s!"Node state has an invalid {label}")

/-! ### Bootstrap -/

structure NodeConfig where
  requireSessionAssignment : Bool
  absoluteDeadlineHours : Timestamp
  configuredTokenDigests : List String
  mediaHealthFailureGraceSeconds : Timestamp

structure BootstrapRequest where
  providerServerId : String
  bootId : String
  bootstrapRequestId : String
  nodeAccessTokenSha256 : String

def BootstrapRequest.attempt (request : BootstrapRequest) : BootstrapAttempt :=
  { bootstrapRequestId := request.bootstrapRequestId
    providerServerId := request.providerServerId
    bootId := request.bootId
    nodeAccessTokenSha256 := request.nodeAccessTokenSha256 }

/-- `_resolve_assigned_session`. -/
def resolveAssignedSession (config : NodeConfig) (providerServerId : String) : Control (Option Session) := do
  match ← store (.findByProviderServerId providerServerId activeStates) with
  | [] =>
    if config.requireSessionAssignment then
      throw (.httpException 409 (.text "provider server is not assigned to an active session"))
    else return none
  | [session] => return some session
  | _ => throw (.httpException 409 (.text "provider server matches multiple sessions"))

/-- Whether the request repeats the attempt that consumed its token. -/
def sameAttempt (node : Node) (consumed : TokenRecord) (request : BootstrapRequest) : Bool :=
  consumed.attempt = some request.attempt && node.accessTokenSha256 = request.nodeAccessTokenSha256

/-- The record of a Node that has just bootstrapped. -/
def newNode (nodeId sessionId : String) (session : Option Session) (request : BootstrapRequest)
    (absoluteDeadline bootstrapAt : Timestamp) : Node :=
  { nodeId := nodeId
    sessionId := sessionId
    sessionAssigned := session.isSome
    egressMode := if session.any (·.egressMode = .relayOnly) then .relayOnly else .directPush
    providerServerId := request.providerServerId
    bootId := request.bootId
    status := .bootstrapping
    desiredState := .running
    absoluteDeadline := absoluteDeadline
    createdAt := bootstrapAt
    accessTokenSha256 := request.nodeAccessTokenSha256
    lastHeartbeatAt := none
    ingest := none
    ingestEverOnline := false
    egress := none
    egressEverConnected := false
    relayClient := none
    relayClientEverConnected := false
    events := []
    nextEventSeq := 1
    mediaUnhealthySince := none
    mediaFailureReason := none
    pipelineFailureLatchedAt := none
    sessionEventError := none
    egressSessionEventError := none
    relayClientSessionEventError := none
    pipelineSessionEventError := none }

/-- The answer to an attempt that consumed its token already. -/
def replayBootstrap (authority : NodeAuthority) (consumed : TokenRecord) (request : BootstrapRequest)
    (delivery : Except Exc Unit) : Control Node :=
  match authority.nodes.lookup consumed.nodeId with
  | some node => do
    ofExcept (raiseIf (!sameAttempt node consumed request) (.httpException 409 (.text "bootstrap token already consumed")))
    if node.sessionAssigned then
      let session ← get node.sessionId
      ofExcept (raiseIf session.isNone (.httpException 409 (.text "assigned Session is no longer available")))
      ofExcept (delivery.map fun () => node)
    else ofExcept (delivery.map fun () => node)
  | none => throw (.httpException 409 (.text "bootstrap token already consumed"))

/-- The binding of a new Node to the Session that its server is assigned to. -/
def bindAssigned (session : Option Session) (nodeId : String) (request : BootstrapRequest) : Control Unit :=
  match session with
  | none => pure ()
  | some session => do
    let _ ← (store (.bindNode session.sessionId nodeId request.bootId request.providerServerId)).tryExcept fun exc =>
      if exc.isRuntimeError || exc matches .keyError _ then throw (.httpException 409 (.text exc.str)) else throw exc

/-- `bootstrap`. `delivery` is what resolving the egress destination for the response gives. -/
def bootstrap (config : NodeConfig) (authorization : Authorization) (request : BootstrapRequest)
    (delivery : Except Exc Unit) : Control Node := do
  let digest ← ofExcept authorization.digest
  ofExcept (raiseIf (digest ∉ config.configuredTokenDigests) (.httpException 401 (.text "unknown bootstrap token")))
  let authority ← call .readAuthority
  match authority.tokens.lookup digest with
  | some consumed => replayBootstrap authority consumed request delivery
  | none =>
    let bootstrapAt ← ofExcept (requireFinite (← time) "bootstrap clock")
    let session ← resolveAssignedSession config request.providerServerId
    let (nodeId, authority) := authority.issueNodeId
    let sessionId ← (match session with
      | some session => pure session.sessionId
      | none => Uuid.str <$> uuid)
    let configured := bootstrapAt + config.absoluteDeadlineHours * (3600 : ℕ)
    let deadline := (session.bind (·.absoluteDeadlineAt)).getD configured
    bindAssigned session nodeId request
    let node := newNode nodeId sessionId session request deadline bootstrapAt
    let token : TokenRecord := ⟨bootstrapAt, nodeId, sessionId, some request.attempt⟩
    call (.writeTokenFuse digest nodeId sessionId bootstrapAt)
    call (.writeAuthority
      { authority with nodes := authority.nodes.insert nodeId node, tokens := authority.tokens.insert digest token })
    ofExcept (delivery.map fun () => node)

/-! ### What a heartbeat reports -/

structure HeartbeatRequest where
  status : NodeStatus
  mediaHealth : String
  ingest : Option SessionStore.IngestObservation
  egress : Option EgressObservation
  relayClient : Option SessionStore.RelayClientObservation

/-- `_ingest_event_types`. -/
def ingestEventTypes (previous : Option SessionStore.IngestObservation) (current : SessionStore.IngestObservation)
    (hadConnection : Bool) : List String :=
  let previousStatus := previous.map (·.status)
  let previousOnline := previous.any (·.online)
  if previousOnline && !current.online then ["ingest.disconnected"]
  else
    let connected := if hadConnection then "ingest.reconnected" else "ingest.connected"
    let events :=
      if current.online && (!previousOnline || previous.bind (·.sourceId) ≠ current.sourceId) then
        [connected, "ingest.format_detected"]
      else []
    if current.status = "REJECTED" && previousStatus ≠ some "REJECTED" then events ++ ["ingest.rejected"]
    else if current.status = "DEGRADED" && previousStatus ≠ some "DEGRADED" then events ++ ["ingest.degraded"]
    else if previousStatus = some "DEGRADED" && current.online && current.status ∈ ["PENDING", "ACCEPTED", "WARNING"] then
      events ++ ["ingest.recovered"]
    else if some current.status ≠ previousStatus && events = [] then ["ingest.policy_changed"]
    else events

/-- `_egress_event_types`. -/
def egressEventTypes (previous : Option EgressObservation) (current : EgressObservation) (hadConnection : Bool) :
    List String :=
  let previousStatus := (previous.map (·.status)).getD ""
  let previousConnected := previous.any (·.connected)
  if current.status = previousStatus && current.connected = previousConnected then []
  else if current.status = "STARTING" then ["egress.starting"]
  else if current.connected && current.status = "CONNECTED" then
    [if hadConnection then "egress.recovered" else "egress.connected"]
  else
    (if previousConnected && current.status ≠ "STOPPED" then ["egress.disconnected"] else []) ++
      match current.status with
      | "RECONNECTING" => ["egress.reconnecting"]
      | "AUTH_FAILED" => ["egress.auth_failed"]
      | "FAILED" => ["egress.failed"]
      | "STOPPED" => ["egress.stopped"]
      | _ => []

/-- The relay events of `_append_relay_client_events`. -/
def relayEventTypes (previous : Option SessionStore.RelayClientObservation)
    (current : SessionStore.RelayClientObservation) (everConnected : Bool) : List String :=
  let previousConnected := previous.any (·.connected)
  if current.connected && !previousConnected then
    [if everConnected then "relay.client.reconnected" else "relay.client.connected"]
  else if !current.connected && previousConnected then ["relay.client.disconnected"]
  else []

/-- `_egress_payload`. -/
def egressPayload (nodeId : String) (o : EgressObservation) : Json :=
  .obj [("node_id", .str nodeId), ("status", .str o.status), ("connected", .bool o.connected),
    ("attempt", .int o.attempt), ("reason_code", .ofOption .str o.reasonCode),
    ("rendered_buffers", .int o.renderedBuffers), ("next_retry_at", .ofOption .float o.nextRetryAt),
    ("destination_scheme", .ofOption .str o.destinationScheme), ("destination_host", .ofOption .str o.destinationHost),
    ("observed_at", .float o.observedAt)]

/-- The payload of a Node's own ingest events. -/
def nodeIngestPayload (o : SessionStore.IngestObservation) : Json :=
  .obj [("status", .str o.status), ("source_type", .ofOption .str o.sourceType),
    ("source_id", .ofOption .str o.sourceId), ("bitrate_bps", .ofOption .float o.bitrateBps), ("tracks", o.tracks),
    ("quality", o.quality), ("reasons", .arr (o.reasons.map .str)), ("warnings", .arr (o.warnings.map .str)),
    ("enforced", .bool o.enforced)]

/-- The error that the Node record keeps when the Session store refused an observation, and no error when
    it did not. Any other exception goes through. -/
def reporting (p : Control Unit) : Control (Option String) :=
  (do p; return none : Control (Option String)).tryExcept fun exc =>
    if exc.isRuntimeError || exc matches .keyError _ then return some (clip 200 exc.str) else throw exc

/-- The ingest part of a heartbeat. -/
def reportIngest (nodeId : String) (node : Node) (current : SessionStore.IngestObservation) (observedAt : Timestamp) :
    Control Node := do
  let types := ingestEventTypes node.ingest current node.ingestEverOnline
  let node := node.appendEvents types (nodeIngestPayload current) observedAt
  let node :=
    { node with
      ingestEverOnline := node.ingestEverOnline || (types ≠ [] && current.online)
      ingest := some current }
  if !node.sessionAssigned then return node
  let error ← reporting do
    let _ ← store (.applyIngestObservation node.sessionId nodeId types current observedAt)
  return { node with sessionEventError := error }

/-- `_apply_egress_to_session`. -/
def applyEgressToSession (sessionId nodeId : String) (eventTypes : List String) (current : EgressObservation)
    (occurredAt : Timestamp) : Control Unit := do
  let some session ← get sessionId | throw (.keyError sessionId)
  ofExcept (raiseIf (session.nodeId.any (· ≠ nodeId)) (.runtimeError "node is not assigned to session"))
  if session.status ∉ activeStates then return
  Prog.forFold eventTypes () fun () eventType =>
    appendEvent sessionId eventType current.reasonCode (egressPayload nodeId current) "node-agent" (some occurredAt)
  let _ ← store (.update sessionId [.egress current.status current.connected current.reasonCode current.observedAt])

/-- The egress part of a heartbeat. -/
def reportEgress (nodeId : String) (node : Node) (current : EgressObservation) (observedAt : Timestamp) :
    Control Node := do
  let types := egressEventTypes node.egress current node.egressEverConnected
  let node := node.appendEvents types (egressPayload node.nodeId current) observedAt
  let node :=
    { node with
      egressEverConnected :=
        node.egressEverConnected || (types ≠ [] && current.connected && current.status = "CONNECTED")
      egress := some current }
  if !node.sessionAssigned || types = [] then return node
  let error ← reporting (applyEgressToSession node.sessionId nodeId types current observedAt)
  return { node with egressSessionEventError := error }

/-- The relay part of a heartbeat. -/
def reportRelayClient (nodeId : String) (node : Node) (current : SessionStore.RelayClientObservation)
    (observedAt : Timestamp) : Control Node := do
  let types := relayEventTypes node.relayClient current node.relayClientEverConnected
  let node := node.appendEvents types (current.payload node.nodeId) observedAt
  let node :=
    { node with
      relayClientEverConnected := node.relayClientEverConnected || (types ≠ [] && current.connected)
      relayClient := some current }
  if !node.sessionAssigned || types = [] then return node
  let error ← reporting do
    let _ ← store (.applyRelayClientObservation node.sessionId nodeId types current)
  return { node with relayClientSessionEventError := error }

/-! ### Pipeline health -/

/-- The code points that Python's `str.strip` removes. -/
def isPythonSpace (c : Char) : Bool :=
  let n := c.toNat
  (9 ≤ n && n ≤ 13) || (28 ≤ n && n ≤ 32) || n ∈ [133, 160, 5760, 8232, 8233, 8239, 8287, 12288] ||
    (8192 ≤ n && n ≤ 8202)

/-- `str(media_health).strip().lower()`. -/
def normalizedHealth (mediaHealth : String) : String :=
  let stripped := ((mediaHealth.toList.dropWhile isPythonSpace).reverse.dropWhile isPythonSpace).reverse
  String.ofList (stripped.map Char.toLower)

/-- The Node with its unhealthy timer running. -/
def startUnhealthyTimer (node : Node) (current : Timestamp) : Timestamp × Node :=
  let since := match node.mediaUnhealthySince with
    | some since => if current < since then current else since
    | none => current
  (since, { node with mediaUnhealthySince := some since, mediaFailureReason := some "PIPELINE_CRASHED" })

/-- The latching part of `apply_pipeline_health`. An exception comes with the Node as it was then. -/
def latchPipelineFailure (nodeId : String) (node : Node) (mediaHealth : String) (unhealthySince current : Timestamp) :
    Control (Node × Option Exc) := do
  match ← (get node.sessionId).attempt with
  | .error exc => return (node, some exc)
  | .ok none => return (node, some (.keyError node.sessionId))
  | .ok (some session) =>
    if session.nodeId.any (· ≠ nodeId) then
      return (node, some (.runtimeError "node is not assigned to session"))
    -- STOPPING, FAILED_CLEANUP and terminal states win races with a late health observation
    if session.status ∉ activeStates then return (node, none)
    match ← (transition node.sessionId failedCleanup activeStates
        [.cleanupPending true, .failureReason "media pipeline remained unavailable",
          .failureReasonCode "PIPELINE_CRASHED"]).attempt with
    | .error exc => return (node, some exc)
    | .ok _ =>
      let node := { node with desiredState := .stopped, pipelineFailureLatchedAt := some current }
      let payload := Json.obj
        [("node_id", .str nodeId), ("from_state", .str session.status.str), ("to_state", .str "FAILED_CLEANUP"),
          ("cleanup_pending", .bool true), ("media_health", .str (clip 100 mediaHealth)),
          ("unhealthy_since", .float (.finite unhealthySince))]
      match ← (appendEvent node.sessionId "session.failure_detected" (some "PIPELINE_CRASHED") payload "node-agent"
          (some current)).attempt with
      | .error exc => return (node, some exc)
      | .ok () => return (node, none)

/-- `apply_pipeline_health`. -/
def applyPipelineHealth (config : NodeConfig) (nodeId : String) (node : Node) (status : NodeStatus)
    (mediaHealth : String) (current : Timestamp) : Control (Node × Option Exc) := do
  let health := normalizedHealth mediaHealth
  if health = "running" then return ({ node with mediaUnhealthySince := none, mediaFailureReason := none }, none)
  if status ≠ .failed && health ∉ ["stopped", "failed", "crashed"] then return (node, none)
  let (since, node) := startUnhealthyTimer node current
  if status ≠ .failed && (current : ℚ) - since < config.mediaHealthFailureGraceSeconds then return (node, none)
  latchPipelineFailure nodeId node mediaHealth since current

/-- The pipeline part of a heartbeat. -/
def reportPipeline (config : NodeConfig) (nodeId : String) (node : Node) (request : HeartbeatRequest)
    (observedAt : Timestamp) : Control Node := do
  match ← applyPipelineHealth config nodeId node request.status request.mediaHealth observedAt with
  | (node, none) => return { node with pipelineSessionEventError := none }
  | (node, some exc) =>
    if exc.isRuntimeError || exc matches .keyError _ then
      return { node with pipelineSessionEventError := some (clip 200 exc.str) }
    else throw exc

/-! ### Heartbeat -/

/-- The part of a heartbeat that the Session keeps. It is refused when the Session does not accept it. -/
def recordHeartbeat (nodeId : String) (node : Node) (request : HeartbeatRequest) (observedAt : Timestamp) :
    Control Unit :=
  if node.sessionAssigned then do
    let ready := request.status = .ready && request.mediaHealth = "running"
    let recorded ← store (.recordNodeHeartbeat node.sessionId nodeId node.bootId observedAt ready)
    ofExcept (raiseIf (!recorded) (.httpException 409 (.text "assigned Session no longer accepts this Node heartbeat")))
  else pure ()

/-- What a heartbeat reports, one part after the other. -/
def report (config : NodeConfig) (nodeId : String) (node : Node) (request : HeartbeatRequest) (observedAt : Timestamp) :
    Control Node := do
  let node ← (match request.ingest with
    | some current => reportIngest nodeId node current observedAt
    | none => pure node)
  let node ← (match request.egress with
    | some current => reportEgress nodeId node current observedAt
    | none => pure node)
  let node ← (match request.relayClient with
    | some current => reportRelayClient nodeId node current observedAt
    | none => pure node)
  if node.sessionAssigned then reportPipeline config nodeId node request observedAt else return node

/-- `heartbeat`. -/
def heartbeat (config : NodeConfig) (nodeId : String) (authorization : Authorization) (request : HeartbeatRequest) :
    Control DesiredState := do
  let authority ← call .readAuthority
  let some node := authority.nodes.lookup nodeId | throw (.httpException 404 (.text "unknown node"))
  ofExcept (requireNodeAccess node authorization)
  let observedAt ← ofExcept (requireFinite (← time) "heartbeat clock")
  let node := { node with status := request.status, lastHeartbeatAt := some observedAt }
  recordHeartbeat nodeId node request observedAt
  let node ← report config nodeId node request observedAt
  call (.writeAuthority { authority with nodes := authority.nodes.insert nodeId node })
  return node.desiredState

/-- `stop_node`, for an administrator whose token was accepted. -/
def stopNode (nodeId : String) : Control Unit := do
  let authority ← call .readAuthority
  let some node := authority.nodes.lookup nodeId | throw (.httpException 404 (.text "unknown node"))
  let node := { node with desiredState := .stopped, status := .stopping }
  call (.writeAuthority { authority with nodes := authority.nodes.insert nodeId node })

end NodeApi
end IRLight
