import IRLight.Collections.Dict
import IRLight.ControlPlane.NodeApi
import IRLight.Formats.CompactJson

/-! # The document of the Node authority

`node_internal.py`: the document of Nodes and consumed bootstrap tokens, with a dictionary for every record, and
`validate_node_authority`, through which every document goes before it is written. -/

namespace IRLight.NodeState

/-- A record of the document. -/
abbrev Fields := Dict String Json

/-- The document of the Node authority. -/
structure Document where
  nodes : Dict String Fields
  nextNodeSeq : ℤ
  tokens : Dict String Fields

/-- `_default_nodes`. -/
def Document.default : Document := ⟨.empty, 1, .empty⟩

/-- `record.get(field)`. -/
def valueOf (fields : Fields) (field : String) : Json := (fields.get? field).getD .null

/-- The document as a JSON value. -/
def Document.json (d : Document) : Json :=
  .obj [("nodes", .obj (d.nodes.items.map fun i => (i.1, .obj i.2.items))), ("next_node_seq", .int d.nextNodeSeq),
    ("tokens", .obj (d.tokens.items.map fun i => (i.1, .obj i.2.items)))]

/-! ### Values that the checks accept -/

def invalid (label : String) : Exc := .nodeStateError s!"Node state has an invalid {label}"

def require (ok : Bool) (label : String) : Except Exc Unit := raiseIf (!ok) (invalid label)

/-- The value of a field that may be absent or null. -/
def nullOr (accepts : Json → Bool) : Json → Bool
  | .null => true
  | value => accepts value

/-- `_require_nonempty_string`. -/
def nonemptyString : Json → Bool
  | .str text => text ≠ ""
  | _ => false

/-- `_require_bool`. -/
def isBool : Json → Bool
  | .bool _ => true
  | _ => false

/-- What `_require_nonnegative_int` accepts, of an observation. -/
def nonnegativeInt : Json → Bool
  | .int n => 0 ≤ n
  | _ => false

/-- `_require_nonnegative_int`. -/
def requireNonnegativeInt (value : Json) (label : String) (minimum : ℤ) : Except Exc ℤ :=
  match value with
  | .int n => if n < minimum then .error (invalid label) else .ok n
  | _ => .error (invalid label)

/-- What `_require_finite_number` accepts. An integer from `floatOverflow` on has no float. -/
def finiteNumber (minimum : Option ℚ) : Json → Bool
  | .int n => n.natAbs < floatOverflow && minimum.all (· ≤ (n : ℚ))
  | .float (.finite q) => minimum.all (· ≤ q)
  | _ => false

/-- `_require_finite_number`. -/
def requireFiniteNumber (value : Json) (label : String) (minimum : Option ℚ) : Except Exc Unit :=
  require (finiteNumber minimum value) label

/-- A string of the set. -/
def oneOf (texts : List String) : Json → Bool
  | .str text => text ∈ texts
  | _ => false

/-- `_is_sha256`. -/
def isSha256 (text : String) : Bool := text.length = 64 && text.toList.all (· ∈ "0123456789abcdef".toList)

def isDigest : Json → Bool
  | .str text => isSha256 text
  | _ => false

/-- Both are strings, and the same one. -/
def sameText : Json → Json → Bool
  | .str a, .str b => a = b
  | _, _ => false

mutual

/-- `_reject_nonfinite_tree`. -/
def rejectNonfiniteTree (label : String) : Json → Except Exc Unit
  | .int n => requireFiniteNumber (.int n) label none
  | .float x => requireFiniteNumber (.float x) label none
  | .arr items => rejectNonfiniteItems label 0 items
  | .obj fields => rejectNonfiniteFields label fields
  | _ => .ok ()

def rejectNonfiniteItems (label : String) (index : ℕ) : List Json → Except Exc Unit
  | [] => .ok ()
  | item :: items => do
    rejectNonfiniteTree s!"{label}[{index}]" item
    rejectNonfiniteItems label (index + 1) items

def rejectNonfiniteFields (label : String) : List (String × Json) → Except Exc Unit
  | [] => .ok ()
  | (key, item) :: fields => do
    rejectNonfiniteTree s!"{label}.{key}" item
    rejectNonfiniteFields label fields

end

/-! ### Observations and events -/

def nodeStatuses : List String := ["BOOTSTRAPPING", "READY", "STOPPING", "STOPPED", "FAILED"]
def nodeDesiredStates : List String := ["RUNNING", "STOPPED"]
def nodeEgressModes : List String := ["DIRECT_PUSH", "RELAY_ONLY"]
def ingestStatuses : List String := ["OFFLINE", "UNKNOWN", "PENDING", "ACCEPTED", "WARNING", "DEGRADED", "REJECTED"]
def egressStatuses : List String :=
  ["UNKNOWN", "STARTING", "CONNECTED", "RECONNECTING", "AUTH_FAILED", "FAILED", "STOPPED"]
def relayClientStatuses : List String := ["UNKNOWN", "CONNECTED", "DISCONNECTED"]

/-- What `_validate_observation` is told about an observation. -/
structure ObservationRules where
  label : String
  statuses : List String
  boolFields : List String
  intFields : List String
  finiteFields : List String

/-- `_validate_observation`. -/
def validateObservation (rules : ObservationRules) (observation : Json) : Except Exc Unit :=
  match observation with
  | .null => .ok ()
  | .obj fields => do
    let field? := fun field => (Json.obj fields).get? field
    require ((field? "status").any (oneOf rules.statuses)) s!"{rules.label} status"
    requireFiniteNumber ((field? "observed_at").getD .null) s!"{rules.label} observed_at" (some 0)
    rules.boolFields.forM fun field => require ((field? field).all isBool) s!"{rules.label} {field}"
    rules.intFields.forM fun field =>
      require ((field? field).all (nullOr nonnegativeInt)) s!"{rules.label} {field}"
    rules.finiteFields.forM fun field =>
      require ((field? field).all (nullOr (finiteNumber (some 0)))) s!"{rules.label} {field}"
  | _ => .error (invalid s!"{rules.label} observation")

def ingestRules : ObservationRules := ⟨"ingest", ingestStatuses, ["online", "enforced"], ["max_bitrate_bps"], ["bitrate_bps"]⟩

def egressRules : ObservationRules :=
  ⟨"egress", egressStatuses, ["connected"], ["attempt", "rendered_buffers"], ["next_retry_at"]⟩

def relayClientRules : ObservationRules := ⟨"relay client", relayClientStatuses, ["connected"], ["reader_count"], []⟩

/-- What `_validate_node_events` requires of an event after the one with the previous sequence number. -/
def validateEvent (previousSequence : ℤ) (event : Json) : Except Exc ℤ :=
  match event with
  | .obj fields => do
    let field := fun field => ((Json.obj fields).get? field).getD .null
    let sequence ← requireNonnegativeInt (field "sequence") "event sequence" 1
    raiseIf (sequence ≤ previousSequence) (.nodeStateError "Node event sequence is not strictly increasing")
    require (nonemptyString (field "type")) "event type"
    requireFiniteNumber (field "occurred_at") "event timestamp" (some 0)
    require (field "payload" matches .obj _) "event payload"
    return sequence
  | _ => .error (invalid "event record")

def validateEvents (previousSequence : ℤ) : List Json → Except Exc Unit
  | [] => .ok ()
  | event :: events => do
    let sequence ← validateEvent previousSequence event
    validateEvents sequence events

/-- `_validate_node_events`. -/
def validateNodeEvents : Json → Except Exc Unit
  | .null => .ok ()
  | .arr events => validateEvents 0 events
  | _ => .error (.nodeStateError "Node state has invalid events")

/-- The sequence number of the newest event. -/
def lastSequence : Json → Option ℤ
  | .arr events => events.getLast?.bind fun event => (event.get? "sequence").bind fun | .int n => some n | _ => none
  | _ => none

/-! ### The document -/

def validateNextSequence (node : Fields) : Except Exc Unit :=
  match node.get? "next_event_seq" with
  | none => .ok ()
  | some value => do
    let next ← requireNonnegativeInt value "event sequence" 1
    raiseIf ((lastSequence (valueOf node "events")).any (next ≤ ·))
      (.nodeStateError "Node state has an inconsistent next event sequence")

/-- What `_validate_nodes` requires of one Node. -/
def validateNode (nodeId : String) (node : Fields) : Except Exc Unit := do
  raiseIf (!sameText (.str nodeId) (valueOf node "node_id")) (.nodeStateError "Node state has an inconsistent Node id")
  [("session_id", "Session binding"), ("provider_server_id", "provider server id"), ("boot_id", "boot id"),
    ("agent_version", "agent version")].forM fun (field, label) => require (nonemptyString (valueOf node field)) label
  require (isDigest (valueOf node "access_token_sha256")) "access token digest"
  require (oneOf nodeStatuses (valueOf node "status")) "status"
  require (oneOf nodeDesiredStates (valueOf node "desired_state")) "desired state"
  require ((node.get? "egress_mode").all (oneOf nodeEgressModes)) "egress mode"
  require (nullOr nonemptyString (valueOf node "destination_id")) "Destination binding"
  requireFiniteNumber (valueOf node "absolute_deadline") "absolute deadline" (some 0)
  requireFiniteNumber (valueOf node "created_at") "created timestamp" (some 0)
  require (nullOr (finiteNumber (some 0)) (valueOf node "last_heartbeat_at")) "heartbeat timestamp"
  ["session_assigned", "active_publisher", "egress_connected", "ingest_ever_online", "egress_ever_connected",
    "relay_client_ever_connected"].forM fun field => require ((node.get? field).all isBool) field
  ["cpu_percent", "memory_mb", "deadline_remaining_seconds", "media_unhealthy_since",
    "pipeline_failure_latched_at"].forM fun field => require (nullOr (finiteNumber (some 0)) (valueOf node field)) field
  validateNodeEvents (valueOf node "events")
  validateNextSequence node
  validateObservation ingestRules (valueOf node "ingest")
  validateObservation egressRules (valueOf node "egress")
  validateObservation relayClientRules (valueOf node "relay_client")

/-- The highest number that a Node id was issued with. -/
def highestIssuedSequence (d : Document) : ℕ :=
  d.nodes.keys.foldl (fun highest nodeId => max highest (NodeAuthority.issuedSequence nodeId)) 0

/-- `_validate_nodes`. -/
def validateNodes (d : Document) : Except Exc Unit := do
  rejectNonfiniteTree "payload" d.json
  let nextNodeSeq ← requireNonnegativeInt (.int d.nextNodeSeq) "sequence" 1
  d.nodes.items.forM fun i => validateNode i.1 i.2
  raiseIf (nextNodeSeq ≤ highestIssuedSequence d) (.nodeStateError "Node state has an inconsistent next Node sequence")

def canonicalFields : List String := ["bootstrap_request_id", "provider_server_id", "boot_id", "node_access_token_sha256"]

/-- The Node that a consumed token names is the one of the attempt that consumed it. -/
def validateReference (nodes : Dict String Fields) (record : Fields) : Except Exc Unit :=
  match valueOf record "node_id" with
  | .str nodeId =>
    match nodes.get? nodeId with
    | none => .error (.nodeStateError "bootstrap token references a missing Node")
    | some node =>
      raiseIf (!(["session_id", "provider_server_id", "boot_id"].all fun field =>
          sameText (valueOf node field) (valueOf record field)) ||
          !sameText (valueOf node "access_token_sha256") (valueOf record "node_access_token_sha256"))
        (.nodeStateError "bootstrap token and Node authority disagree")
  | _ => .error (.nodeStateError "bootstrap token references a missing Node")

/-- The part of `_validate_tokens` about the identity of the attempt. -/
def validateAttempt (nodes : Option (Dict String Fields)) (record : Fields) : Except Exc Unit := do
  raiseIf (!(["bootstrap_request_id", "provider_server_id", "boot_id"].all fun field => nonemptyString (valueOf record field)))
    (.nodeStateError "bootstrap token state has an invalid attempt identity")
  raiseIf (!isDigest (valueOf record "node_access_token_sha256"))
    (.nodeStateError "bootstrap token state has an invalid access digest")
  match nodes with
  | none => .ok ()
  | some nodes => validateReference nodes record

/-- What `_validate_tokens` requires of one record. The ledger of the former build has no Nodes beside it. -/
def validateToken (nodes : Option (Dict String Fields)) (digest : String) (record : Fields) : Except Exc Unit := do
  raiseIf (!isSha256 digest) (.nodeStateError "bootstrap token state has an invalid record")
  raiseIf (!(valueOf record "consumed" matches .bool true))
    (.nodeStateError "bootstrap token state has an invalid consumed flag")
  requireFiniteNumber (valueOf record "consumed_at") "bootstrap token timestamp" (some 0)
  raiseIf (!(nonemptyString (valueOf record "node_id") && nonemptyString (valueOf record "session_id")))
    (.nodeStateError "bootstrap token state has an invalid binding")
  let present := canonicalFields.filter fun field => (record.get? field).isSome
  raiseIf (present ≠ [] ∧ present ≠ canonicalFields)
    (.nodeStateError "bootstrap token state has a partial attempt identity")
  if present = [] then .ok () else validateAttempt nodes record

/-- `_validate_tokens`. -/
def validateTokens (nodes : Option (Dict String Fields)) (tokens : Dict String Fields) : Except Exc Unit :=
  tokens.items.forM fun i => validateToken nodes i.1 i.2

/-- `validate_node_authority`. -/
def validateNodeAuthority (d : Document) : Except Exc Unit := do
  validateNodes d
  validateTokens (some d.nodes) d.tokens

end IRLight.NodeState
