import IRLight.Session.Record
import Mathlib.Data.List.AList

/-! # The Session store

`SessionStore` of the Control API. Every public method is one transaction: it reloads the file under the
lock, and either commits one replacement of the file or raises and leaves it as it was. `clock k` is the
reading that the method's `k`-th look at the clock gives, and `fresh` the identifier it may draw. -/

namespace IRLight
open Status

inductive ResourceKind where
  | volume
  | server
  deriving DecidableEq

/-- Whom a cleanup lease serves. -/
inductive LeaseScope where
  | orphan (resourceId : String) (resourceKind : ResourceKind)
  | session (expectedStates : List Status)
  deriving DecidableEq

structure CleanupLease where
  leaseId : Uuid
  scope : LeaseScope
  createdAt : Timestamp
  expiresAt : Timestamp

/-- The first error that `_validate_cleanup_leases` finds in the lease. -/
def CleanupLease.invalid (lease : CleanupLease) : Option String :=
  if lease.expiresAt ≤ lease.createdAt then some "cleanup lease record has invalid expiry"
  else match lease.scope with
    | .orphan resourceId _ => if resourceId = "" then some "cleanup lease record has invalid resource_id" else none
    | .session [] => some "cleanup lease record has invalid expected_states"
    | .session _ => none

structure SessionStore where
  sessions : AList fun _ : String => Session
  orphanCleanupLeases : AList fun _ : String => CleanupLease
  authoritative : Bool
  recoveryStableSeconds : Timestamp

namespace SessionStore

def session? (s : SessionStore) (sessionId : String) : Option Session := s.sessions.lookup sessionId

def records (s : SessionStore) : List Session := s.sessions.entries.map (·.2)

/-- The first error that keeps `_persist` from replacing the file. -/
def invalid (s : SessionStore) : Option String :=
  s.records.findSome? Session.invalid <|>
    (s.orphanCleanupLeases.entries.map (·.2)).findSome? CleanupLease.invalid <|>
      if s.records.all Session.serializable then none else some "Session state cannot be serialized"

/-- `_persist`. -/
def persist (s : SessionStore) : Except Exc SessionStore :=
  match s.invalid with
  | some message => .error (.sessionStateError message)
  | none => .ok { s with authoritative := true }

/-- One transaction on the record of `sessionId`: `f` sees the record and gives the result, and the new
    record when there is something to commit. -/
def edit {α : Type} (s : SessionStore) (sessionId : String)
    (f : Option Session → Except Exc (α × Option Session)) : Except Exc (α × SessionStore) := do
  let (result, record) ← f (s.session? sessionId)
  match record with
  | none => return (result, s)
  | some r => return (result, ← persist { s with sessions := s.sessions.insert sessionId r })

def requireSession (sessionId : String) : Option Session → Except Exc Session
  | some r => .ok r
  | none => .error (.keyError sessionId)

/-! ### Cleanup leases -/

/-- `_active_cleanup_lease_locked`. The clock is read only when there is a lease. -/
def activeCleanupLease (s : SessionStore) (sessionId : String) (reading : PyFloat) :
    Except Exc (Option CleanupLease) :=
  match s.orphanCleanupLeases.lookup sessionId with
  | none => .ok none
  | some lease => do
    let now ← validatedNow reading "Session cleanup lease clock"
    return if lease.expiresAt ≤ now then none else some lease

/-- `_reject_active_cleanup_lease_locked`. -/
def rejectActiveCleanupLease (s : SessionStore) (sessionId : String) (reading : PyFloat) : Except Exc Unit := do
  let lease ← s.activeCleanupLease sessionId reading
  raiseIf lease.isSome (.orphanCleanupInProgress s!"provider cleanup is in progress for Session {sessionId}")

def leaseSeconds : Timestamp := 900

/-- The common end of both lease claims. -/
def takeLease (s : SessionStore) (sessionId : String) (scope : LeaseScope) (fresh : Uuid) (now : Timestamp) :
    Except Exc (Option Uuid × SessionStore) := do
  let lease : CleanupLease :=
    { leaseId := fresh, scope := scope, createdAt := now, expiresAt := now + max 1 leaseSeconds }
  return (some fresh,
    ← persist { s with orphanCleanupLeases := s.orphanCleanupLeases.insert sessionId lease })

def claimOrphanCleanup (s : SessionStore) (sessionId resourceId : String) (resourceKind : ResourceKind)
    (clock : ℕ → PyFloat) (fresh : Uuid) : Except Exc (Option Uuid × SessionStore) := do
  if (s.session? sessionId).any (·.status ∉ terminalStates) then return (none, s)
  if (← s.activeCleanupLease sessionId (clock 0)).isSome then return (none, s)
  let now ← validatedNow (clock 1) "Orphan cleanup lease clock"
  s.takeLease sessionId (.orphan resourceId resourceKind) fresh now

def orphanCleanupStillOwned (s : SessionStore) (sessionId : String) (leaseId : Uuid) (clock : ℕ → PyFloat) :
    Except Exc Bool := do
  match ← s.activeCleanupLease sessionId (clock 0) with
  | some ⟨id, .orphan _ _, _, _⟩ => return id = leaseId && (s.session? sessionId).all (·.status ∈ terminalStates)
  | _ => return false

def releaseOrphanCleanup (s : SessionStore) (sessionId : String) (leaseId : Uuid) : Except Exc SessionStore :=
  match s.orphanCleanupLeases.lookup sessionId with
  | some lease =>
    if lease.leaseId = leaseId then
      persist { s with orphanCleanupLeases := s.orphanCleanupLeases.erase sessionId }
    else .ok s
  | none => .ok s

def claimSessionCleanup (s : SessionStore) (sessionId : String) (clock : ℕ → PyFloat) (fresh : Uuid) :
    Except Exc (Option Uuid × SessionStore) := do
  let allowed := [stopping, failedCleanup]
  if !(s.session? sessionId).any (·.status ∈ allowed) then return (none, s)
  if (← s.activeCleanupLease sessionId (clock 0)).isSome then return (none, s)
  let now ← validatedNow (clock 1) "Session cleanup lease clock"
  s.takeLease sessionId (.session allowed) fresh now

def sessionCleanupStillOwned (s : SessionStore) (sessionId : String) (leaseId : Uuid) (clock : ℕ → PyFloat) :
    Except Exc Bool := do
  match ← s.activeCleanupLease sessionId (clock 0) with
  | some ⟨id, .session expectedStates, _, _⟩ =>
    return id = leaseId && (s.session? sessionId).any (·.status ∈ expectedStates)
  | _ => return false

def releaseSessionCleanup (s : SessionStore) (sessionId : String) (leaseId : Uuid) : Except Exc SessionStore :=
  match s.orphanCleanupLeases.lookup sessionId with
  | some ⟨id, .session _, _, _⟩ =>
    if id = leaseId then persist { s with orphanCleanupLeases := s.orphanCleanupLeases.erase sessionId } else .ok s
  | _ => .ok s

/-! ### Creating and binding Sessions -/

/-- `create` under a given id. A Session that exists is returned as it is. -/
def create (s : SessionStore) (sessionId userId : String) (environment : Environment) (clock : ℕ → PyFloat) :
    Except Exc (Session × SessionStore) := do
  let now ← validatedNow (clock 0) "Session creation clock"
  s.rejectActiveCleanupLease sessionId (clock 1)
  s.edit sessionId fun
    | some r => return (r, none)
    | none =>
      let r := newSession sessionId userId environment .directPush now
      return (r, some r)

/-- How many of the user's other Sessions occupy a slot. -/
def occupied (s : SessionStore) (sessionId userId : String) : ℕ :=
  (s.sessions.entries.filter fun e => e.1 ≠ sessionId && e.2.userId = userId && e.2.occupies).length

/-- The slot check that `reserve_prepare_slot` and `begin_prepare` share. -/
def requireSlot (s : SessionStore) (sessionId userId : String) (maxConcurrentSessions : ℤ) : Except Exc Unit :=
  raiseIf (maxConcurrentSessions ≤ s.occupied sessionId userId) (.entitlementExceeded
    s!"concurrent session limit exceeded ({s.occupied sessionId userId}/{maxConcurrentSessions})")

/-- The record with its slot reserved. -/
def reserved (r : Session) (entitlementId : String) (now : Timestamp) : Session :=
  { r with entitlementId := some entitlementId, entitlementReserved := true, updatedAt := now }

def reservePrepareSlot (s : SessionStore) (sessionId userId : String) (environment : Environment)
    (entitlementId : String) (maxConcurrentSessions : ℤ) (clock : ℕ → PyFloat) :
    Except Exc (Session × SessionStore) := do
  raiseIf (maxConcurrentSessions < 1) (.entitlementExceeded "concurrent session entitlement is disabled")
  s.rejectActiveCleanupLease sessionId (clock 0)
  s.edit sessionId fun
    | some r => do
      raiseIf (r.userId ≠ userId) (.keyError sessionId)
      if r.status ∈ [finished, failed] then return (r, none)
      -- a Session that occupies a slot already is not counted again
      (if r.occupies then pure () else s.requireSlot sessionId userId maxConcurrentSessions)
      let r := reserved r entitlementId (← validatedNow (clock 1) "Session reservation clock")
      return (r, some r)
    | none => do
      s.requireSlot sessionId userId maxConcurrentSessions
      let created := newSession sessionId userId environment .directPush
        (← validatedNow (clock 1) "Session creation clock")
      let r := reserved created entitlementId (← validatedNow (clock 2) "Session reservation clock")
      return (r, some r)

/-- The configuration a Session is bound to. A record without one falls back on its own fields. -/
def configured (r : Session) : PrepareRequest :=
  r.prepareRequest.getD
    { environment := r.environment, destinationId := r.destinationId, egressMode := r.egressMode }

/-- The record bound to a prepare request, with its slot reserved. -/
def bound (r : Session) (request : PrepareRequest) (entitlementId idempotencyKey : String) (now : Timestamp) :
    Session :=
  { r with
    environment := request.environment
    destinationId := request.destinationId
    egressMode := request.egressMode
    prepareRequest := some request
    idempotencyKey := some idempotencyKey
    entitlementId := some entitlementId
    entitlementReserved := true
    updatedAt := now }

/-- The checks of a request against the one that its Session is bound to. -/
def checkReplay (r : Session) (key : String) (request : PrepareRequest) (idempotencyKey : String) :
    Except Exc Unit := do
  raiseIf ((configured r).egressMode ≠ request.egressMode) (.invalidTransition "egress mode cannot be changed")
  raiseIf ((configured r).destinationId ≠ request.destinationId)
    (.invalidTransition "destination cannot be changed")
  raiseIf (configured r ≠ request) (.invalidTransition "environment cannot be changed")
  raiseIf (key ≠ idempotencyKey) (.invalidTransition "session is already bound to another Idempotency-Key")

/-- `begin_prepare`. The second result says whether the request is a replay. -/
def beginPrepare (s : SessionStore) (sessionId userId : String) (request : PrepareRequest)
    (entitlementId : String) (maxConcurrentSessions : ℤ) (idempotencyKey : String) (clock : ℕ → PyFloat) :
    Except Exc ((Session × Bool) × SessionStore) := do
  raiseIf (maxConcurrentSessions < 1) (.entitlementExceeded "concurrent session entitlement is disabled")
  s.rejectActiveCleanupLease sessionId (clock 0)
  s.edit sessionId fun
    | some r => do
      raiseIf (r.userId ≠ userId) (.keyError sessionId)
      raiseIf (r.status ∈ [finished, failed]) (.invalidTransition s!"session {sessionId} is {r.status.str}")
      match r.idempotencyKey with
      | some key =>
        checkReplay r key request idempotencyKey
        return ((r, true), none)
      | none =>
        s.requireSlot sessionId userId maxConcurrentSessions
        let r := bound r request entitlementId idempotencyKey (← validatedNow (clock 1) "Session prepare clock")
        return ((r, false), some r)
    | none => do
      s.requireSlot sessionId userId maxConcurrentSessions
      let created := newSession sessionId userId request.environment request.egressMode
        (← validatedNow (clock 1) "Session creation clock")
      let r := bound created request entitlementId idempotencyKey (← validatedNow (clock 2) "Session prepare clock")
      return ((r, false), some r)

/-- `get_prepare_replay`. -/
def getPrepareReplay (s : SessionStore) (sessionId userId : String) (request : PrepareRequest)
    (idempotencyKey : String) : Except Exc (Option Session) :=
  match s.session? sessionId with
  | none => .ok none
  | some r => do
    raiseIf (r.userId ≠ userId) (.keyError sessionId)
    if r.idempotencyKey ≠ some idempotencyKey then return none
    raiseIf (configured r ≠ request)
      (.invalidTransition "Idempotency-Key was already used with different prepare parameters")
    return some r

/-! ### Reading -/

/-- `authoritative_snapshot`. -/
def authoritativeSnapshot (s : SessionStore) : Except Exc (List Session) :=
  if s.authoritative then .ok s.records
  else .error (.sessionStateError "Session state is missing or uninitialized")

/-- `find_by_provider_server_id`. -/
def findByProviderServerId (s : SessionStore) (providerServerId : String) (states : List Status) : List Session :=
  s.records.filter fun r => r.providerServerId = some providerServerId && r.status ∈ states

/-- `sessions_in_states`. -/
def sessionsInStates (s : SessionStore) (states : List Status) : List Session :=
  s.records.filter (·.status ∈ states)

/-! ### Provisioning -/

/-- The record that a successful claim commits. -/
def claimed (r : Session) (operationId : Uuid) (startedAt updatedAt : Timestamp) : Session :=
  { r with
    status := provisioning
    provisioningOperationId := some operationId
    provisioningInProgress := true
    provisioningCancelRequested := false
    provisioningStartedAt := some startedAt
    cleanupPending := false
    updatedAt := updatedAt }

/-- `claim_provisioning`. -/
def claimProvisioning (s : SessionStore) (sessionId : String) (operationId : Uuid) (startedAt : PyFloat)
    (clock : ℕ → PyFloat) : Except Exc (Session × SessionStore) := do
  let started ← validatedTimestamp startedAt "Session provisioning has invalid started_at"
  s.rejectActiveCleanupLease sessionId (clock 0)
  s.edit sessionId fun existing => do
    let r ← requireSession sessionId existing
    raiseIf (r.status ∉ [stopped, provisioning, bootstrapping])
      (.invalidTransition s!"cannot provision Session in {r.status.str}")
    raiseIf (r.provisioningOperationId.any (· ≠ operationId))
      (.provisioningInProgress s!"session {sessionId} is already being provisioned")
    let r := claimed r operationId started (← validatedNow (clock 1) "Session provisioning clock")
    return (r, some r)

/-- The status part of a checkpoint that is not cancelled. -/
def advanced (r : Session) : Option Status → Except Exc Session
  | none => .ok r
  | some next => do
    raiseIf (next ∉ transitions r.status) (.invalidTransition s!"{r.status.str} -> {next.str} not allowed")
    return { r with status := next }.clearRecoveryCandidate

/-- The record whose provisioning has ended. -/
def completed (r : Session) : Session :=
  { r with provisioningOperationId := none, provisioningInProgress := false, provisioningCancelRequested := false }

/-- `provisioning_checkpoint`. A cancelled Session keeps its status and its owner. -/
def provisioningCheckpoint (s : SessionStore) (sessionId : String) (operationId : Uuid)
    (nextState : Option Status) (complete : Bool) (changes : List Change) (clock : ℕ → PyFloat) :
    Except Exc (Session × SessionStore) := do
  let update ← updateOf "Session provisioning checkpoint" changes
  s.edit sessionId fun existing => do
    let r ← requireSession sessionId existing
    raiseIf (r.provisioningOperationId ≠ some operationId)
      (.provisioningInProgress s!"provisioning lease for {sessionId} is no longer owned")
    let updatedAt ← validatedNow (clock 0) "Session provisioning checkpoint clock"
    let r := update r
    let cancelled := r.provisioningCancelled
    let r ← (if cancelled then .ok r else advanced r nextState)
    let r := if complete && !cancelled then completed r else r
    let r := { r with updatedAt := updatedAt }
    return (r, some r)

/-! ### Stopping and transitions -/

/-- The record that both stop requests commit. -/
def stopRequested (r : Session) (updatedAt : Timestamp) : Session :=
  { r with
    status := stopping
    provisioningCancelRequested := true
    cleanupPending := true
    updatedAt := updatedAt }.clearRecoveryCandidate

/-- `request_stop`. -/
def requestStop (s : SessionStore) (sessionId : String) (clock : ℕ → PyFloat) :
    Except Exc (Session × SessionStore) :=
  s.edit sessionId fun existing => do
    let r ← requireSession sessionId existing
    if r.status ∈ terminalStates then return (r, none)
    let r := stopRequested r (← validatedNow (clock 0) "Session stop clock")
    return (r, some r)

/-- `request_stop_if_current`. -/
def requestStopIfCurrent (s : SessionStore) (sessionId : String) (expectedStatus : Status)
    (expectedFields : List Expected) (clock : ℕ → PyFloat) : Except Exc (Option Session × SessionStore) :=
  s.edit sessionId fun
    | none => return (none, none)
    | some r => do
      if r.status ≠ expectedStatus || !r.matchesFields expectedFields then return (none, none)
      let r := stopRequested r (← validatedNow (clock 0) "Session stop clock")
      return (some r, some r)

/-- The record that both transitions commit. -/
def transitioned (r : Session) (update : Session → Session) (newState : Status) (updatedAt : Timestamp) : Session :=
  let r := { update r with status := newState }.clearRecoveryCandidate
  let r := if newState ∈ [finished, failed] then { r with entitlementReserved := false } else r
  { r with updatedAt := updatedAt }

/-- `transition`. Every caller names the states it allows. -/
def transition (s : SessionStore) (sessionId : String) (newState : Status) (allowFrom : List Status)
    (changes : List Change) (clock : ℕ → PyFloat) : Except Exc (Session × SessionStore) := do
  let update ← updateOf "Session transition" changes
  s.edit sessionId fun existing => do
    let r ← requireSession sessionId existing
    raiseIf (r.status ∉ allowFrom) (.invalidTransition s!"{r.status.str} -> {newState.str} not allowed")
    let r := transitioned r update newState (← validatedNow (clock 0) "Session transition clock")
    return (r, some r)

/-- `transition_if_current`. -/
def transitionIfCurrent (s : SessionStore) (sessionId : String) (newState : Status) (allowFrom : List Status)
    (expectedFields : List Expected) (changes : List Change) (clock : ℕ → PyFloat) :
    Except Exc (Option Session × SessionStore) := do
  let update ← updateOf "Session conditional transition" changes
  s.edit sessionId fun
    | none => return (none, none)
    | some r => do
      if r.status ∉ allowFrom || !r.matchesFields expectedFields then return (none, none)
      let r := transitioned r update newState (← validatedNow (clock 0) "Session transition clock")
      return (some r, some r)

/-! ### Updates and events -/

/-- `update`. -/
def update (s : SessionStore) (sessionId : String) (changes : List Change) (clock : ℕ → PyFloat) :
    Except Exc (Session × SessionStore) := do
  let update ← updateOf "Session update" changes
  s.edit sessionId fun existing => do
    let r ← requireSession sessionId existing
    let r := { update r with updatedAt := ← validatedNow (clock 0) "Session update clock" }
    return (r, some r)

/-- The audit event that a conditional update may carry. -/
structure EventDraft where
  eventType : String
  reasonCode : Option String
  payload : Json
  origin : String
  occurredAt : Timestamp

/-- The updated record, with its audit event when there is one. -/
def audited (r : Session) (event : Option EventDraft) (current : Timestamp) : Session :=
  match event with
  | some e =>
    { r.appendEventLocked e.eventType e.reasonCode e.payload e.origin e.occurredAt with updatedAt := e.occurredAt }
  | none => { r with updatedAt := current }

/-- `update_if_current`. -/
def updateIfCurrent (s : SessionStore) (sessionId : String) (expectedStatus : Status)
    (expectedFields : List Expected) (event : Option EventDraft) (changes : List Change) (clock : ℕ → PyFloat) :
    Except Exc (Option Session × SessionStore) := do
  let update ← updateOf "Session conditional update" changes
  s.edit sessionId fun
    | none => return (none, none)
    | some r => do
      if r.status ≠ expectedStatus || !r.matchesFields expectedFields then return (none, none)
      let r := audited (update r) event (← validatedNow (clock 0) "Session conditional update clock")
      return (some r, some r)

/-- When an event occurred: as given, or now. -/
def eventTime (occurredAt : Option Timestamp) (reading : PyFloat) : Except Exc Timestamp :=
  match occurredAt with
  | some t => .ok t
  | none => validatedNow reading "Session event clock"

/-- `append_event`. -/
def appendEvent (s : SessionStore) (sessionId eventType : String) (reasonCode : Option String) (payload : Json)
    (origin : String) (occurredAt : Option Timestamp) (clock : ℕ → PyFloat) : Except Exc (Unit × SessionStore) := do
  let current ← eventTime occurredAt (clock 0)
  s.edit sessionId fun existing => do
    let r ← requireSession sessionId existing
    let r := r.appendEventLocked eventType reasonCode payload origin current
    return ((), some { r with updatedAt := current })

/-- The record with a new audio command. -/
def commanded (r : Session) (mode : AudioMode) (idempotencyKey operator : String) (fresh : Uuid)
    (current : Timestamp) : Session :=
  let audio : MediaControlAudio :=
    { desiredMode := mode
      actualMode := if r.audio.actualMode ≠ mode.actual then .applying else r.audio.actualMode
      version := r.audio.version + 1
      commandId := some fresh
      idempotencyKey := some idempotencyKey
      updatedAt := current }
  let payload := Json.obj
    [("command_id", .str fresh.str), ("desired_mode", .str mode.str), ("version", .int audio.version),
      ("operator_user_id", .str operator)]
  { r with audio := audio, updatedAt := current }.appendEventLocked "media_control.audio.requested" none payload
    "control-api" current

/-- `set_audio_desired`. -/
def setAudioDesired (s : SessionStore) (sessionId : String) (mode : AudioMode) (expectedVersion : ℕ)
    (idempotencyKey operator : String) (clock : ℕ → PyFloat) (fresh : Uuid) :
    Except Exc (MediaControlAudio × SessionStore) := do
  raiseIf (idempotencyKey = "" ∨ 200 < idempotencyKey.length)
    (.valueError "Idempotency-Key is required and must be <= 200 chars")
  let current ← validatedNow (clock 0) "Session media-control clock"
  s.edit sessionId fun existing => do
    let r ← requireSession sessionId existing
    raiseIf (r.status ∈ terminalStates) (.mediaControlNotRunning "session is not running")
    if r.audio.idempotencyKey = some idempotencyKey then do
      raiseIf (r.audio.desiredMode ≠ mode)
        (.mediaControlIdempotencyConflict "Idempotency-Key was already used for another mode")
      return (r.audio, none)
    else do
      raiseIf (expectedVersion ≠ r.audio.version)
        (.mediaControlVersionConflict r.audio.version r.audio.desiredMode.str)
      let r := commanded r mode idempotencyKey operator fresh current
      return (r.audio, some r)

/-! ### What the Node reports -/

/-- The record with a Node that has just bootstrapped. -/
def nodeBound (r : Session) (nodeId bootId : String) (current : Timestamp) : Session :=
  { r with
    nodeId := some nodeId
    nodeBootId := some bootId
    nodeRegisteredAt := some current
    nodeLastHeartbeatAt := none
    updatedAt := current }

/-- `bind_node`. -/
def bindNode (s : SessionStore) (sessionId nodeId bootId providerServerId : String) (clock : ℕ → PyFloat) :
    Except Exc (Session × SessionStore) := do
  let current ← validatedNow (clock 0) "Session node registration clock"
  s.edit sessionId fun existing => do
    let r ← requireSession sessionId existing
    raiseIf (r.providerServerId ≠ some providerServerId)
      (.runtimeError "node provider server does not match session")
    raiseIf (r.status ∉ activeStates) (.runtimeError s!"session {sessionId} is not active")
    let r := nodeBound r nodeId bootId current
    return (r, some r)

/-- The record with the heartbeat of its Node. -/
def heard (r : Session) (observedAt : Timestamp) (nodeReady : Bool) : Session :=
  let r := { r with nodeLastHeartbeatAt := some observedAt }
  if nodeReady && r.status = bootstrapping then { r with status := readyWaitIngest, readyAt := some observedAt } else r

/-- `record_node_heartbeat`. -/
def recordNodeHeartbeat (s : SessionStore) (sessionId nodeId bootId : String) (observedAt : Timestamp)
    (nodeReady : Bool) : Except Exc (Bool × SessionStore) :=
  s.edit sessionId fun
    | none => return (false, none)
    | some r => do
      if r.status ∉ activeStates ∨ r.nodeId ≠ some nodeId ∨ r.nodeBootId ≠ some bootId then return (false, none)
      if r.nodeLastHeartbeatAt.any (observedAt < ·) then return (false, none)
      return (true, some (heard r observedAt nodeReady))

/-- What a heartbeat says about the ingest. -/
structure IngestObservation where
  status : String
  path : String
  online : Bool
  sourceType : Option String
  sourceId : Option String
  bitrateBps : Option PyFloat
  maxBitrateBps : Option ℕ
  tracks : Json
  quality : Json
  reasons : List String
  warnings : List String
  enforced : Bool
  observedAt : PyFloat

def unusableMediaReasons : List String := ["VIDEO_TIMEOUT", "AUDIO_TIMEOUT"]
def formatRejectionReasons : List String :=
  ["VIDEO_CODEC_UNSUPPORTED", "AUDIO_CODEC_UNSUPPORTED", "RESOLUTION_UNSUPPORTED", "AUDIO_CHANNELS_UNSUPPORTED"]

namespace IngestObservation

/-- The event payload of an ingest observation. -/
def payload (o : IngestObservation) (nodeId : String) : List (String × Json) :=
  [("node_id", .str nodeId), ("status", .str o.status), ("path", .str o.path), ("online", .bool o.online),
    ("source_type", .ofOption .str o.sourceType), ("source_id", .ofOption .str o.sourceId),
    ("bitrate_bps", .ofOption .float o.bitrateBps), ("max_bitrate_bps", .ofOption (fun n => .int n) o.maxBitrateBps),
    ("tracks", o.tracks), ("quality", o.quality), ("reasons", .arr (o.reasons.map .str)),
    ("warnings", .arr (o.warnings.map .str)), ("enforced", .bool o.enforced), ("observed_at", .float o.observedAt)]

/-- The state a Session outside HOLDING moves to on the observation, with the lifecycle event and its
    reason. -/
def target (o : IngestObservation) (state : Status) : Option (Status × String × Option String) :=
  let reasons := o.reasons.map (clip 100)
  let unusableReason := reasons.find? (· ∈ unusableMediaReasons)
  if o.online && o.status = "DEGRADED" && state ∈ [readyWaitIngest, live, degraded] then
    match unusableReason with
    | some reason => if state ∈ [live, degraded] then some (holding, "session.holding", some reason) else none
    | none => some (degraded, "session.degraded", reasons.head?)
  else if o.online && o.status = "REJECTED" && state ∈ [live, degraded] then
    some (holding, "session.holding",
      if reasons.any (· ∈ formatRejectionReasons) then some "FORMAT_CHANGED"
      else some ((reasons.head?.filter (· ≠ "")).getD "INGEST_REJECTED"))
  else if o.online && o.status ∈ ["ACCEPTED", "WARNING"] && state ∈ [readyWaitIngest, degraded] then
    some (live, if state = readyWaitIngest then "session.live" else "session.recovered", none)
  else if !o.online && state ∈ [live, degraded] then
    some (holding, "session.holding", some "INGEST_DISCONNECTED")
  else none

/-- The state a Session in HOLDING may recover to, with the reason. -/
def recoveryTarget (o : IngestObservation) : Option (Status × Option String) :=
  let reasons := o.reasons.map (clip 100)
  if o.online && o.status ∈ ["ACCEPTED", "WARNING"] then some (live, none)
  else if o.online && o.status = "DEGRADED" && (reasons.find? (· ∈ unusableMediaReasons)).isNone then
    some (degraded, reasons.head?)
  else none

/-- The move the observation asks for, and the record with its recovery candidate brought up to date. -/
def decide (o : IngestObservation) (r : Session) (stableSeconds current : Timestamp) :
    Option (Status × String × Option String) × Session :=
  if r.status = holding then
    match o.recoveryTarget with
    | none => (none, r.clearRecoveryCandidate)
    | some (target, reason) =>
      let (ready, r) := r.recoveryCandidateReady stableSeconds o.sourceId current
      (if ready then some (target, "session.recovered", reason) else none, r)
  else (o.target r.status, r)

/-- The timestamps of a move to `target`. -/
def stamp (o : IngestObservation) (r : Session) (target : Status) (current : Timestamp) : Session :=
  if target = holding then { r with lastIngestAt := some current }
  else if o.online then
    { r with
      firstIngestAt := r.firstIngestAt.orElse fun _ => some current
      lastIngestAt := some current
      holdDeadlineAt := none }
  else { r with lastIngestAt := some current }

/-- The record after the lifecycle part of `apply_ingest_observation`. -/
def advance (o : IngestObservation) (r : Session) (nodeId : String) (stableSeconds current : Timestamp) : Session :=
  let state := r.status
  let (move, r) := o.decide r stableSeconds current
  match move with
  | some (target, event, reason) =>
    if target ≠ state then
      let r := o.stamp { r with status := target }.clearRecoveryCandidate target current
      let payload := o.payload nodeId ++ [("from_state", .str state.str), ("to_state", .str target.str)]
      r.appendEventLocked event reason (.obj payload) "node-agent" current
    else if state ≠ holding then r.clearRecoveryCandidate
    else r
  | none => if state ≠ holding then r.clearRecoveryCandidate else r

/-- The record with the Node's ingest events appended. -/
def appendEvents (o : IngestObservation) (r : Session) (nodeId : String) (eventTypes : List String)
    (current : Timestamp) : Session :=
  eventTypes.foldl (fun r eventType =>
    let reasonCode :=
      if eventType ∈ ["ingest.rejected", "ingest.degraded"] then o.reasons.head?.map (clip 100) else none
    r.appendEventLocked eventType reasonCode (.obj (o.payload nodeId)) "node-agent" current) r

end IngestObservation

/-- `apply_ingest_observation`. -/
def applyIngestObservation (s : SessionStore) (sessionId nodeId : String) (eventTypes : List String)
    (observation : IngestObservation) (current : Timestamp) : Except Exc (Session × SessionStore) :=
  s.edit sessionId fun existing => do
    let r ← requireSession sessionId existing
    raiseIf (r.nodeId.any (· ≠ nodeId)) (.runtimeError "node is not assigned to session")
    if r.status ∉ activeStates then return (r, none)
    let r := observation.advance (observation.appendEvents r nodeId eventTypes current) nodeId
      s.recoveryStableSeconds current
    let r := { r with nodeId := some nodeId, updatedAt := current }
    return (r, some r)

/-- What a heartbeat says about relay clients. -/
structure RelayClientObservation where
  status : String
  connected : Bool
  readerCount : ℕ
  reasonCode : Option String
  observedAt : PyFloat

/-- `_relay_client_payload`, and the payload of the Session's relay events. -/
def RelayClientObservation.payload (o : RelayClientObservation) (nodeId : String) : Json :=
  .obj [("node_id", .str nodeId), ("status", .str o.status), ("connected", .bool o.connected),
    ("reader_count", .int o.readerCount), ("reason_code", .ofOption .str o.reasonCode),
    ("observed_at", .float o.observedAt)]

/-- The record with the relay observation and its events. -/
def RelayClientObservation.record (o : RelayClientObservation) (r : Session) (nodeId : String)
    (eventTypes : List String) (observedAt current : Timestamp) : Session :=
  let r := eventTypes.foldl (fun r eventType =>
    r.appendEventLocked eventType o.reasonCode (o.payload nodeId) "node-agent" current) r
  { r with
    relayClientStatus := some o.status
    relayClientConnected := o.connected
    relayClientReaderCount := o.readerCount
    relayClientLastReason := o.reasonCode
    relayClientUpdatedAt := some observedAt
    nodeId := some nodeId
    updatedAt := current }

/-- `apply_relay_client_observation`. -/
def applyRelayClientObservation (s : SessionStore) (sessionId nodeId : String) (eventTypes : List String)
    (observation : RelayClientObservation) (clock : ℕ → PyFloat) : Except Exc (Session × SessionStore) := do
  let current ← validatedNow (clock 0) "Session relay observation clock"
  let observedAt ← validatedTimestamp observation.observedAt "Session relay observation timestamp is invalid"
  s.edit sessionId fun existing => do
    let r ← requireSession sessionId existing
    raiseIf (r.nodeId.any (· ≠ nodeId)) (.runtimeError "node is not assigned to session")
    if r.status ∉ activeStates then return (r, none)
    let r := observation.record r nodeId eventTypes observedAt current
    return (r, some r)

end SessionStore
end IRLight
