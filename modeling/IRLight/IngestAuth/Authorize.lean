import IRLight.ControlPlane.Api
import IRLight.IngestAuth.AuthCache

/-! # The Control API's decision

`authorize_mediamtx_request` of the Control API on what it finds in its stores. An audit event that it adds to the
Session's log on a failure is left out: it decides nothing here. -/

namespace IRLight.IngestAuth

/-- What MediaMTX asks. Other fields of the payload are not read. -/
structure MediaMTXAuthRequest where
  user : String
  password : String
  ip : String
  action : String
  path : String
  protocol : String
  id : String

/-- A text field of the request model, empty by default. -/
def textField (payload : Payload) (name : String) : Option String :=
  match payload.lookup name with
  | none => some ""
  | some (.str text) => some text
  | some _ => none

/-- The request that a payload stands for. A field of another type is refused. -/
def MediaMTXAuthRequest.ofPayload (payload : Payload) : Option MediaMTXAuthRequest := do
  let user ← textField payload "user"
  let password ← textField payload "password"
  let _ ← textField payload "token"
  let ip ← textField payload "ip"
  let action ← textField payload "action"
  let path ← textField payload "path"
  let protocol ← textField payload "protocol"
  let id ← textField payload "id"
  let _ ← textField payload "query"
  let _ ← textField payload "userAgent"
  return ⟨user, password, ip, action, path, protocol, id⟩

/-- A credential with what `verify` compares. -/
structure StoredCredential extends Credential where
  username : String
  secretSha256 : Digest

/-- What the endpoint meets: the answer to the Node's own token, the Session of the user name, the credentials, the
    guard's files and configuration, the clock, and the I/O errors of its guard and of its credential store. -/
structure Authority where
  assigned : Except (ℕ × String) Unit
  session : Option Session
  credentials : List StoredCredential
  guardConfig : GuardConfig
  stdlib : Stdlib
  guard : GuardFiles
  authCacheMaxAgeSeconds : Timestamp
  clock : ℕ → PyFloat
  guardFault : ℕ → Option IoFault
  storeFault : Bool

/-- An answer without a grant: an `HTTPException`, or any other exception. -/
inductive ApiError where
  | http (status : ℕ) (detail : String) (retryAfter : Option ℕ)
  | unhandled

structure Authorized where
  sessionId : String
  credentialId : Uuid
  cacheValidUntil : Option Timestamp

/-- The `cache_valid_until` of the answer. -/
def Authorized.validUntil (r : Authorized) : Json := .ofOption (fun t => .float (.finite t)) r.cacheValidUntil

/-- The answer that grants a request. -/
def Authorized.fields (r : Authorized) : Payload :=
  [("authorized", .bool true), ("session_id", .str r.sessionId), ("credential_id", .str r.credentialId.str),
    ("cache_valid_until", r.validUntil)]

def ingestPath : String := "live/input"
def relayPath : String := "output/relay"

/-- `Protocol` under its name. -/
def protocolOf : String → Option Protocol
  | "rtmp" => some .rtmp
  | "srt" => some .srt
  | _ => none

/-- `_cache_valid_until`. -/
def cacheValidUntil (maxAge : Timestamp) (record : StoredCredential) (reading : PyFloat) : Option Timestamp :=
  match requireTimestamp reading (.valueError "") with
  | .error _ => none
  | .ok current => if record.expiresAt ≤ current then none else some (min record.expiresAt (current + maxAge))

namespace Authority
variable (a : Authority)

/-- The `k`-th call of the guard. A guard that is switched off does not look at the clock. -/
def guardCall (k : ℕ) (method : GuardMethod) (guard : GuardFiles) : Except ApiError (Option Decision × GuardFiles) :=
  match if a.guardConfig.enabled then requireTimestamp (a.clock k) (.runtimeError "") else .ok 0 with
  | .error _ => .error .unhandled
  | .ok now =>
    match GuardCall.run a.guardConfig a.stdlib ⟨method, now, a.guardFault k⟩ guard with
    | (.ok answer, guard) => .ok (answer, guard)
    | (.error _, _) => .error .unhandled

/-- `_raise_auth_blocked`. -/
def authBlocked (d : Decision) : ApiError :=
  .http 429 "ingest authentication temporarily blocked" (some (max 1 d.retryAfterSeconds))

/-- `_reject_invalid_ingest_credential`. -/
def rejectInvalid {α : Type} (request : MediaMTXAuthRequest) (guard : GuardFiles) : Except ApiError α :=
  match a.guardCall 1 (.recordFailure ⟨request.ip, request.user, request.protocol, request.id⟩) guard with
  | .error e => .error e
  | .ok (some d, _) => .error (if d.blocked then authBlocked d else .http 401 "invalid ingest credential" none)
  | .ok (none, _) => .error .unhandled

/-- `IngestCredentialStore.verify`. -/
def verify (username secret : String) (protocol : Protocol) (scope : CredentialScope) :
    Except ApiError (Option StoredCredential) :=
  match Credential.runtimeTimestamp (a.clock 2) "now" with
  | .error _ => .error .unhandled
  | .ok current =>
    if username = "" ∨ secret = "" then .ok none
    else if a.storeFault then .error .unhandled
    else .ok <| a.credentials.find? fun record =>
      record.username = username ∧ record.scope = scope ∧ record.revokedAt = none ∧ current < record.expiresAt ∧
        protocol ∈ record.protocols ∧ record.secretSha256 = a.stdlib.sha256 secret

/-- The checks on what is asked for, up to the protocol. -/
def admission (request : MediaMTXAuthRequest) : Except ApiError (CredentialScope × Protocol) := do
  let forbidden (detail : String) : Except ApiError (CredentialScope × Protocol) := .error (.http 403 detail none)
  if request.action ≠ "publish" ∧ request.action ≠ "read" then forbidden "unsupported media action"
  else if request.action = "read" ∧ request.path ≠ relayPath then forbidden "unsupported relay path"
  else if request.action = "publish" ∧ request.path ≠ ingestPath then forbidden "unsupported ingest path"
  else
    let scope := if request.action = "publish" then CredentialScope.ingest else .relayClient
    match protocolOf (a.stdlib.lower request.protocol) with
    | none => forbidden "unsupported ingest protocol"
    | some protocol =>
      if scope = .relayClient ∧ protocol ≠ .rtmp then forbidden "unsupported relay protocol" else .ok (scope, protocol)

/-- The guard's check. -/
def passGuard (request : MediaMTXAuthRequest) : Except ApiError GuardFiles := do
  let (decision, guard) ← a.guardCall 0 (.check ⟨request.ip, request.user, "", ""⟩) a.guard
  match decision with
  | none => throw .unhandled
  | some d =>
    if d.blocked then
      let lowered := a.stdlib.lower request.protocol
      let _ ← a.guardCall 1 (.recordBlocked ⟨request.ip, request.user, lowered, request.id⟩) guard
      throw (authBlocked d)
    else return guard

/-- `_authorize_mediamtx_request`, from the guard's check on. -/
def authenticate (request : MediaMTXAuthRequest) (scope : CredentialScope) (protocol : Protocol) :
    Except ApiError Authorized := do
  let guard ← a.passGuard request
  match a.session with
  | none => a.rejectInvalid request guard
  | some session =>
    if session.status ∉ Api.acceptingIngestStates then a.rejectInvalid request guard
    else if scope = .relayClient ∧ session.egressMode ≠ .relayOnly then a.rejectInvalid request guard
    else
      match ← a.verify request.user request.password protocol scope with
      | none => a.rejectInvalid request guard
      | some record =>
        if record.sessionId ≠ request.user then a.rejectInvalid request guard
        else
          let _ ← a.guardCall 1 (.recordSuccess request.user) guard
          return ⟨request.user, record.id, cacheValidUntil a.authCacheMaxAgeSeconds record (a.clock 3)⟩

/-- `authorize_mediamtx_request`, with the check of the request's shape before it. -/
def authorizeMediamtxRequest (payload : Payload) : Except ApiError Authorized :=
  match MediaMTXAuthRequest.ofPayload payload with
  | none => .error (.http 422 "" none)
  | some request =>
    match a.assigned with
    | .error (status, detail) => .error (.http status detail none)
    | .ok () => do
      let (scope, protocol) ← a.admission request
      a.authenticate request scope protocol

variable {a} {payload : Payload} {request : MediaMTXAuthRequest} {scope : CredentialScope} {protocol : Protocol}
  {r : Authorized}

theorem bind_ok {α β : Type} {x : Except ApiError α} {f : α → Except ApiError β} {b : β} (h : (x >>= f) = .ok b) :
    ∃ y, x = .ok y ∧ f y = .ok b := by
  cases x with
  | error e => cases h
  | ok y => exact ⟨y, rfl, h⟩

theorem rejectInvalid_ne_ok {α : Type} {guard : GuardFiles} {b : α} :
    a.rejectInvalid request guard ≠ .ok b := fun h => by
  unfold rejectInvalid at h
  split at h <;> cases h

theorem authenticate_ok (h : a.authenticate request scope protocol = .ok r) :
    ∃ record, a.verify request.user request.password protocol scope = .ok (some record) ∧
      r.cacheValidUntil = IngestAuth.cacheValidUntil a.authCacheMaxAgeSeconds record (a.clock 3) := by
  unfold authenticate at h
  obtain ⟨guard, -, h⟩ := bind_ok h
  split at h
  · exact absurd h rejectInvalid_ne_ok
  · split at h
    · exact absurd h rejectInvalid_ne_ok
    · split at h
      · exact absurd h rejectInvalid_ne_ok
      · obtain ⟨found, hverify, h⟩ := bind_ok h
        cases found with
        | none => exact absurd h rejectInvalid_ne_ok
        | some record =>
          simp only at h
          split at h
          · exact absurd h rejectInvalid_ne_ok
          · obtain ⟨-, -, h⟩ := bind_ok h
            exact ⟨record, hverify, by rw [← Except.ok.inj h]⟩

/-- The decision grants the request on the strength of this credential. -/
def Grants (a : Authority) (payload : Payload) (record : StoredCredential) : Prop :=
  ∃ request scope protocol, MediaMTXAuthRequest.ofPayload payload = some request ∧
    a.verify request.user request.password protocol scope = .ok (some record)

/-- A grant rests on a credential, and what it advertises to the Nodes follows from it. -/
theorem authorizeMediamtxRequest_ok (h : a.authorizeMediamtxRequest payload = .ok r) :
    ∃ record, a.Grants payload record ∧
      r.cacheValidUntil = IngestAuth.cacheValidUntil a.authCacheMaxAgeSeconds record (a.clock 3) := by
  unfold authorizeMediamtxRequest at h
  split at h
  · cases h
  · rename_i request hrequest
    split at h
    · cases h
    · obtain ⟨⟨scope, protocol⟩, -, h⟩ := bind_ok h
      obtain ⟨record, hverify, hvalid⟩ := authenticate_ok h
      exact ⟨record, ⟨request, scope, protocol, hrequest, hverify⟩, hvalid⟩

end Authority

end IRLight.IngestAuth
