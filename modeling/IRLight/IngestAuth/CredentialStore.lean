import IRLight.IngestAuth.Authorize

/-! # The ingest credential store

`IngestCredentialStore`: records with hashed secrets in one JSON file. Every method reloads the file under the store's
lock, and replaces it if it has changed a record. -/

namespace IRLight.IngestAuth

/-- `public_record`: a record without its digest. -/
structure PublicRecord extends Credential where
  username : String
  lastAuthenticatedAt : Option Timestamp

structure CredentialRecord extends PublicRecord where
  secretSha256 : Digest

abbrev Credentials := Dict Uuid CredentialRecord

/-- `CREDENTIAL_SCOPES`, under their names. -/
def scopeOf : String → Option CredentialScope
  | "INGEST" => some .ingest
  | "RELAY_CLIENT" => some .relayClient
  | _ => none

/-- `sorted(...)` of a set of protocols. -/
def sortedProtocols (among : Protocol → Bool) : List Protocol := [Protocol.rtmp, .srt].filter among

/-! ### Records -/

/-- `_require_nonempty_string`. -/
def requireNonemptyString (value field : String) : Except Exc Unit :=
  raiseIf (value = "") (.ingestCredentialError s!"ingest credential record has invalid {field}")

/-- What `_validate_credentials` asks of the record under a key, apart from what its type says. -/
def validateRecord (credentialId : Uuid) (record : CredentialRecord) : Except Exc Unit := do
  requireNonemptyString record.sessionId "session_id"
  requireNonemptyString record.userId "user_id"
  requireNonemptyString record.username "username"
  raiseIf (record.id ≠ credentialId) (.ingestCredentialError "ingest credential record id does not match its key")
  raiseIf (record.username ≠ record.sessionId)
    (.ingestCredentialError "ingest credential record username does not match session_id")
  raiseIf (record.protocols = []) (.ingestCredentialError "ingest credential record has invalid protocols")
  raiseIf (record.protocols ≠ sortedProtocols (· ∈ record.protocols))
    (.ingestCredentialError "ingest credential record has non-canonical protocols")
  raiseIf (record.expiresAt ≤ record.createdAt) (.ingestCredentialError "ingest credential record has invalid expires_at")

def validateCredentials (credentials : Credentials) : Except Exc Unit :=
  credentials.items.forM fun i => validateRecord i.1 i.2

/-- `_finite_argument`. -/
def finiteArgument (value : PyFloat) (field : String) : Except Exc ℚ :=
  match value with
  | .finite q => .ok q
  | _ => .error (.valueError s!"{field} must be a finite number")

section
variable (lib : Stdlib)

/-- `_normalize_protocols`. -/
def normalizeProtocols (protocols : List String) : Except Exc (List Protocol) := do
  let values := protocols.map lib.lower
  raiseIf (values = [] ∨ ∃ value ∈ values, protocolOf value = none) (.valueError "protocols must contain rtmp and/or srt")
  return sortedProtocols fun p => values.any fun value => protocolOf value = some p

/-- The record that `issue` makes before it takes the lock, from the identifier and the secret it has drawn. -/
def issueRecord (sessionId userId scope : String) (protocols : List String) (ttlSeconds now : PyFloat)
    (credentialId : Uuid) (secret : String) : Except Exc CredentialRecord := do
  let ttl ← finiteArgument ttlSeconds "ttl_seconds"
  raiseIf (ttl ≤ 0) (.valueError "ttl_seconds must be positive")
  match scopeOf scope with
  | none => throw (.valueError "scope must be one of ['INGEST', 'RELAY_CLIENT']")
  | some scope =>
    let normalized ← normalizeProtocols lib protocols
    let issuedAt ← Credential.runtimeTimestamp now "now"
    let expiresAt ← Credential.runtimeTimestamp (.finite (issuedAt + ttl)) "expires_at"
    return { id := credentialId, sessionId := sessionId, userId := userId, scope := scope, protocols := normalized
             createdAt := issuedAt, expiresAt := expiresAt, revokedAt := none, username := sessionId
             lastAuthenticatedAt := none, secretSha256 := lib.sha256 secret }

end

/-- The record, revoked at `time` unless it already was. -/
def CredentialRecord.revoke (r : CredentialRecord) (time : Timestamp) : CredentialRecord :=
  { r with toCredential := r.toCredential.revoke time }

/-! ### The file -/

structure CredentialFiles where
  file : Option Credentials
  initialized : Bool

namespace CredentialFiles

def initial : CredentialFiles := ⟨none, false⟩

/-- What the file holds. -/
def records (files : CredentialFiles) : Credentials := files.file.getD .empty

/-- `_load`. -/
def load (files : CredentialFiles) : Except Exc Credentials :=
  match files.file with
  | some credentials => (validateCredentials credentials).map fun () => credentials
  | none =>
    if files.initialized then
      .error (.ingestCredentialError "ingest credential state disappeared after initialization")
    else .ok .empty

/-- `_persist`, which an I/O error may stop before the marker is set, before the file is replaced or after that. -/
def persist (files : CredentialFiles) (credentials : Credentials) (fault : Option IoFault) :
    Except Exc Unit × CredentialFiles :=
  let failed := Except.error (.ingestCredentialError "cannot lock ingest credential state")
  -- json.dump(..., sort_keys=True)
  let replaced : CredentialFiles := ⟨some (credentials.sort fun i j => i.1.str ≤ j.1.str), true⟩
  match validateCredentials credentials, fault with
  | .error e, _ => (.error e, files)
  | .ok (), none => (.ok (), replaced)
  | .ok (), some .unsynced => (failed, replaced)
  | .ok (), some .unreplaced => (failed, ⟨files.file, true⟩)
  | .ok (), some _ => (failed, files)

/-- A method under the lock. The body gives its result, and the records to persist if it has changed any. -/
def transact {α : Type} (files : CredentialFiles) (fault : Option IoFault)
    (body : Credentials → Except Exc (α × Option Credentials)) : Except Exc α × CredentialFiles :=
  match fault, files.load with
  | some .unlocked, _ => (.error (.ingestCredentialError "cannot lock ingest credential state"), files)
  | some .unread, _ => (.error (.ingestCredentialError "cannot read ingest credential state"), files)
  | _, .error e => (.error e, files)
  | _, .ok credentials =>
    -- a file that can be read is marked
    let files : CredentialFiles := ⟨files.file, files.initialized || files.file.isSome⟩
    match body credentials with
    | .error e => (.error e, files)
    | .ok (a, none) => (.ok a, files)
    | .ok (a, some credentials) =>
      let (saved, files) := files.persist credentials fault
      (saved.map fun () => a, files)

end CredentialFiles

/-! ### The public methods -/

/-- The rotation in `issue`. -/
def rotate (credentials : Credentials) (record : CredentialRecord) : Credentials :=
  (credentials.mapVal fun _ existing =>
    if existing.sessionId = record.sessionId ∧ existing.scope = record.scope then existing.revoke record.createdAt
    else existing).set record.id record

/-- What `verify` asks of a record. -/
def CredentialRecord.Accepts (r : CredentialRecord) (username : String) (digest : Digest) (protocol : Protocol)
    (scope : CredentialScope) (current : Timestamp) : Prop :=
  r.username = username ∧ r.scope = scope ∧ r.revokedAt = none ∧ current < r.expiresAt ∧ protocol ∈ r.protocols ∧
    r.secretSha256 = digest

instance (r : CredentialRecord) (username : String) (digest : Digest) (protocol : Protocol) (scope : CredentialScope)
    (current : Timestamp) : Decidable (r.Accepts username digest protocol scope current) :=
  inferInstanceAs (Decidable (_ ∧ _))

/-- `verify` under the lock. -/
def verifyBody (username : String) (digest : Digest) (protocol : Protocol) (scope : CredentialScope)
    (current : Timestamp) (credentials : Credentials) : Except Exc (Option PublicRecord × Option Credentials) :=
  match credentials.items.find? fun i => i.2.Accepts username digest protocol scope current with
  | none => .ok (none, none)
  | some (key, record) =>
    let record := { record with lastAuthenticatedAt := some current }
    .ok (some record.toPublicRecord, some (credentials.set key record))

/-- `revoke` under the lock. -/
def revokeBody (credentialId : Uuid) (userId : Option String) (now : PyFloat) (credentials : Credentials) :
    Except Exc (PublicRecord × Option Credentials) :=
  match credentials.get? credentialId with
  | none => .error (.keyError credentialId.str)
  | some record => do
    raiseIf (∃ user ∈ userId, record.userId ≠ user) (.keyError credentialId.str)
    if record.revokedAt = none then
      let revokedAt ← Credential.runtimeTimestamp now "now"
      let record := record.revoke revokedAt
      return (record.toPublicRecord, some (credentials.set credentialId record))
    else return (record.toPublicRecord, none)

/-- `revoke_session` under the lock. -/
def revokeSessionBody (sessionId : String) (revokedAt : Timestamp) (credentials : Credentials) :
    Except Exc (ℕ × Option Credentials) :=
  let changed := (credentials.items.filter fun i => i.2.sessionId = sessionId ∧ i.2.revokedAt = none).length
  let revoked := credentials.mapVal fun _ record => if record.sessionId = sessionId then record.revoke revokedAt else record
  .ok (changed, if changed = 0 then none else some revoked)

/-- A call of a method. `now` is what the call is given, or what the clock shows. The identifier and the secret of a
    credential are drawn at random. -/
inductive StoreMethod where
  | issue (sessionId userId scope : String) (protocols : List String) (ttlSeconds now : PyFloat) (credentialId : Uuid)
      (secret : String)
  | verify (username secret protocol : String) (now : PyFloat) (scope : String)
  | revoke (credentialId : Uuid) (userId : Option String) (now : PyFloat)
  | revokeSession (sessionId : String) (now : PyFloat)

structure StoreCall where
  method : StoreMethod
  fault : Option IoFault

inductive StoreAnswer where
  | issued (record : PublicRecord) (secret : String)
  | verified (record : Option PublicRecord)
  | revoked (record : PublicRecord)
  | revokedSession (changed : ℕ)

section
variable (lib : Stdlib)

/-- The answer to a call, and the files after it. -/
def StoreCall.run (c : StoreCall) (files : CredentialFiles) : Except Exc StoreAnswer × CredentialFiles :=
  match c.method with
  | .issue sessionId userId scope protocols ttlSeconds now credentialId secret =>
    match issueRecord lib sessionId userId scope protocols ttlSeconds now credentialId secret with
    | .error e => (.error e, files)
    | .ok record =>
      files.transact c.fault fun credentials =>
        .ok (.issued record.toPublicRecord secret, some (rotate credentials record))
  | .verify username secret protocol now scope =>
    match Credential.runtimeTimestamp now "now", protocolOf (lib.lower protocol), scopeOf scope with
    | .error e, _, _ => (.error e, files)
    | .ok current, some protocol, some scope =>
      if username = "" ∨ secret = "" then (.ok (.verified none), files)
      else
        files.transact c.fault fun credentials =>
          (verifyBody username (lib.sha256 secret) protocol scope current credentials).map (.map .verified id)
    | .ok _, _, _ => (.ok (.verified none), files)
  | .revoke credentialId userId now =>
    files.transact c.fault fun credentials => (revokeBody credentialId userId now credentials).map (.map .revoked id)
  | .revokeSession sessionId now =>
    match Credential.runtimeTimestamp now "now" with
    | .error e => (.error e, files)
    | .ok revokedAt =>
      files.transact c.fault fun credentials =>
        (revokeSessionBody sessionId revokedAt credentials).map (.map .revokedSession id)

/-- The files after a run of calls. -/
def runStore (calls : List StoreCall) : CredentialFiles := calls.foldl (fun files c => (c.run lib files).2) .initial

end
end IRLight.IngestAuth
