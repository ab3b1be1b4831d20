import IRLight.Session.Store

/-! # The other authorities of the Control API

The ingest credential store, the provider's inventory and the Node registry, each with its own file or
service and no transaction in common with the Session store. -/

namespace IRLight

/-! ### Ingest credentials -/

inductive CredentialScope where
  | ingest
  | relayClient
  deriving DecidableEq

inductive Protocol where
  | rtmp
  | srt
  deriving DecidableEq

structure Credential where
  id : Uuid
  sessionId : String
  userId : String
  scope : CredentialScope
  protocols : List Protocol
  createdAt : Timestamp
  expiresAt : Timestamp
  revokedAt : Option Timestamp

namespace Credential

/-- `_runtime_timestamp`. -/
def runtimeTimestamp (value : PyFloat) (field : String) : Except Exc Timestamp :=
  if value.isFinite then requireTimestamp value (.valueError s!"{field} must be a finite non-negative number")
  else .error (.valueError s!"{field} must be a finite number")

/-- The credential, revoked at `at` unless it already was. -/
def revoke (c : Credential) (time : Timestamp) : Credential :=
  { c with revokedAt := c.revokedAt.orElse fun _ => some time }

end Credential

/-- `IngestCredentialStore.issue`. The new credential takes the place of the scope's unrevoked ones. -/
def issueCredential (credentials : List Credential) (sessionId userId : String) (scope : CredentialScope)
    (protocols : List Protocol) (ttlSeconds : ℚ) (now : Timestamp) (fresh : Uuid) :
    Except Exc (Credential × List Credential) := do
  raiseIf (ttlSeconds ≤ 0) (.valueError "ttl_seconds must be positive")
  raiseIf (protocols = []) (.valueError "protocols must contain rtmp and/or srt")
  let expiresAt ← Credential.runtimeTimestamp (.finite (now + ttlSeconds)) "expires_at"
  let record : Credential :=
    { id := fresh
      sessionId := sessionId
      userId := userId
      scope := scope
      -- sorted({str(value).lower() for value in protocols})
      protocols := [Protocol.rtmp, Protocol.srt].filter (· ∈ protocols)
      createdAt := now
      expiresAt := expiresAt
      revokedAt := none }
  let rotated := credentials.map fun c =>
    if c.sessionId = sessionId && c.scope = scope then c.revoke now else c
  return (record, rotated ++ [record])

/-- `IngestCredentialStore.revoke_session`. -/
def revokeSessionCredentials (credentials : List Credential) (sessionId : String) (now : PyFloat) :
    Except Exc (ℕ × List Credential) := do
  let revokedAt ← Credential.runtimeTimestamp now "now"
  return ((credentials.filter fun c => c.sessionId = sessionId && c.revokedAt.isNone).length,
    credentials.map fun c => if c.sessionId = sessionId then c.revoke revokedAt else c)

/-! ### Provider inventory -/

/-- The tags of a resource, each under its own field. -/
structure Tags where
  managed : Option String
  sessionId : Option String
  userId : Option String
  environment : Option String
  createdAt : Option ℤ
  deleteAfter : Option ℤ
  deriving DecidableEq

structure ProviderVolume where
  volumeId : String
  name : String
  sizeGb : ℕ
  tags : Tags
  deriving DecidableEq

structure ProviderServer where
  serverId : String
  name : String
  imageRef : String
  flavorRef : String
  volumeId : String
  publicIpv4 : Option String
  tags : Tags
  deriving DecidableEq

structure ManagedResource where
  kind : ResourceKind
  providerId : String
  sessionId : Option String
  userId : Option String
  createdAt : Option ℤ
  deleteAfter : Option ℤ
  deriving DecidableEq

structure Inventory where
  volumes : List ProviderVolume
  servers : List ProviderServer

namespace Inventory

/-- `list_managed_resources`. -/
def managedResources (inv : Inventory) : List ManagedResource :=
  (inv.volumes.filter (·.tags.managed = some "true")).map
      (fun v => ⟨.volume, v.volumeId, v.tags.sessionId, v.tags.userId, v.tags.createdAt, v.tags.deleteAfter⟩) ++
    (inv.servers.filter (·.tags.managed = some "true")).map
      (fun v => ⟨.server, v.serverId, v.tags.sessionId, v.tags.userId, v.tags.createdAt, v.tags.deleteAfter⟩)

end Inventory

/-- `is_safe_session_id`: a canonical UUID of version 4. -/
def isSafeSessionId (value : String) : Bool :=
  let chars := value.toList.map Char.toLower
  chars.length = 36 &&
    chars.zipIdx.all fun (c, i) =>
      if i ∈ [8, 13, 18, 23] then c = '-'
      else if i = 14 then c = '4'
      else if i = 19 then c ∈ ['8', '9', 'a', 'b']
      else c ∈ "0123456789abcdef".toList

/-- `is_safe_user_id`. -/
def isSafeUserId (value : String) : Bool :=
  value ≠ "" && value.length ≤ 128 &&
    (isSafeSessionId value || value.toList.all (· ∈ "0123456789abcdef".toList))

/-- `SessionMetadata(...).as_tags()`, with the second the clock shows. -/
def sessionMetadata (sessionId userId : String) (environment : Environment) (now : PyFloat) : Except Exc Tags := do
  raiseIf (!isSafeSessionId sessionId) (.valueError s!"unsafe session id: {sessionId}")
  raiseIf (!isSafeUserId userId) (.valueError s!"unsafe user id: {userId}")
  match now with
  | .finite q =>
    return { managed := some "true"
             sessionId := some sessionId
             userId := some userId
             environment := some environment.str
             createdAt := some q.floor
             deleteAfter := none }
  | _ => throw (.valueError "cannot convert float to integer")

/-! ### Node registry -/

inductive NodeStatus where
  | bootstrapping
  | ready
  | stopping
  | stopped
  | failed
  deriving DecidableEq

inductive DesiredState where
  | running
  | stopped
  deriving DecidableEq

/-- What a heartbeat says about the egress. -/
structure EgressObservation where
  status : String
  connected : Bool
  attempt : ℕ
  reasonCode : Option String
  renderedBuffers : ℕ
  nextRetryAt : Option PyFloat
  destinationScheme : Option String
  destinationHost : Option String
  observedAt : PyFloat

structure NodeEvent where
  sequence : ℕ
  type : String
  occurredAt : Timestamp
  payload : Json

/-- One record of the Node registry. -/
structure Node where
  nodeId : String
  sessionId : String
  sessionAssigned : Bool
  egressMode : EgressMode
  providerServerId : String
  bootId : String
  status : NodeStatus
  desiredState : DesiredState
  absoluteDeadline : Timestamp
  createdAt : Timestamp
  accessTokenSha256 : String
  lastHeartbeatAt : Option Timestamp
  ingest : Option SessionStore.IngestObservation
  ingestEverOnline : Bool
  egress : Option EgressObservation
  egressEverConnected : Bool
  relayClient : Option SessionStore.RelayClientObservation
  relayClientEverConnected : Bool
  events : List NodeEvent
  nextEventSeq : ℕ
  mediaUnhealthySince : Option Timestamp
  mediaFailureReason : Option String
  pipelineFailureLatchedAt : Option Timestamp
  sessionEventError : Option String
  egressSessionEventError : Option String
  relayClientSessionEventError : Option String
  pipelineSessionEventError : Option String

namespace Node

/-- The numbers that `_validate_nodes` requires to be finite and a record's type does not already bound. -/
def finite (n : Node) : Bool :=
  n.ingest.all (fun o => o.observedAt.isFinite && o.bitrateBps.all (·.isFinite) && o.tracks.serializable &&
    o.quality.serializable) &&
  n.egress.all (fun o => o.observedAt.isFinite && o.nextRetryAt.all (·.isFinite)) &&
  n.relayClient.all (·.observedAt.isFinite) && n.events.all (·.payload.serializable)

/-- The newest hundred events, after the given ones are appended. -/
def appendEvents (n : Node) (eventTypes : List String) (payload : Json) (occurredAt : Timestamp) : Node :=
  eventTypes.foldl (fun n eventType =>
    let events := n.events ++ [⟨n.nextEventSeq, eventType, occurredAt, payload⟩]
    { n with events := events.drop (events.length - 100), nextEventSeq := n.nextEventSeq + 1 }) n

end Node

/-- The identity of a bootstrap attempt. -/
structure BootstrapAttempt where
  bootstrapRequestId : String
  providerServerId : String
  bootId : String
  nodeAccessTokenSha256 : String
  deriving DecidableEq

/-- A consumed bootstrap token. The ledger that the former build reads does not name the attempt. -/
structure TokenRecord where
  consumedAt : Timestamp
  nodeId : String
  sessionId : String
  attempt : Option BootstrapAttempt
  deriving DecidableEq

/-- Whether the Node is the one that the record's attempt created. -/
def TokenRecord.describes (record : TokenRecord) (attempt : BootstrapAttempt) (node : Node) : Bool :=
  node.sessionId = record.sessionId && node.providerServerId = attempt.providerServerId &&
    node.bootId = attempt.bootId && node.accessTokenSha256 = attempt.nodeAccessTokenSha256

abbrev TokenLedger := AList fun _ : String => TokenRecord

structure NodeAuthority where
  nodes : AList fun _ : String => Node
  tokens : TokenLedger
  nextNodeSeq : ℕ

namespace NodeAuthority

/-- The Node id with a sequence number, padded to four digits. -/
def nodeId (sequence : ℕ) : String :=
  let digits := toString sequence
  "node-" ++ String.ofList (List.replicate (4 - digits.length) '0') ++ digits

/-- `_issue_node_id`. -/
def issueNodeId (a : NodeAuthority) : String × NodeAuthority :=
  (nodeId a.nextNodeSeq, { a with nextNodeSeq := a.nextNodeSeq + 1 })

/-- The sequence number that a Node id was issued with, and zero for any other string. -/
def issuedSequence (nodeId : String) : ℕ :=
  match nodeId.toList with
  | 'n' :: 'o' :: 'd' :: 'e' :: '-' :: suffix => if suffix.all Char.isDigit then Nat.ofDigitChars 10 suffix 0 else 0
  | _ => 0

/-- `_validate_nodes`. -/
def validateNodes (a : NodeAuthority) : Except Exc Unit := do
  raiseIf (!a.nodes.entries.all (·.2.finite)) (.nodeStateError "Node state has an invalid payload")
  raiseIf (a.nodes.entries.any fun e => e.2.nodeId ≠ e.1) (.nodeStateError "Node state has an inconsistent Node id")
  raiseIf (a.nodes.entries.any fun e => a.nextNodeSeq ≤ issuedSequence e.1)
    (.nodeStateError "Node state has an inconsistent next Node sequence")

/-- What `_validate_tokens` requires of one record. -/
def validateToken (a : NodeAuthority) (record : TokenRecord) : Except Exc Unit :=
  match record.attempt with
  | none => .ok ()
  | some attempt =>
    match a.nodes.lookup record.nodeId with
    | none => .error (.nodeStateError "bootstrap token references a missing Node")
    | some node =>
      raiseIf (!record.describes attempt node) (.nodeStateError "bootstrap token and Node authority disagree")

/-- `validate_node_authority`. -/
def validate (a : NodeAuthority) : Except Exc Unit := do
  a.validateNodes
  a.tokens.entries.forM fun e => a.validateToken e.2

/-- `_read_authority`: a token that the former build's ledger knows as consumed counts as consumed. -/
def withFuse (a : NodeAuthority) (fuse : TokenLedger) : NodeAuthority := { a with tokens := a.tokens ∪ fuse }

@[simp] theorem withFuse_nodes (a : NodeAuthority) (fuse : TokenLedger) : (a.withFuse fuse).nodes = a.nodes := rfl
@[simp] theorem withFuse_nextNodeSeq (a : NodeAuthority) (fuse : TokenLedger) :
    (a.withFuse fuse).nextNodeSeq = a.nextNodeSeq := rfl

end NodeAuthority

end IRLight
