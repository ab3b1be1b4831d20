import IRLight.Python
import Mathlib.Data.List.Basic

/-! # Session records

One Session as the store holds it: its status and the transition table, its event log, and the partial
updates and snapshots that callers pass around. -/

namespace IRLight

/-- A fresh identifier. Who drew it and when makes two of them differ. -/
structure Uuid where
  owner : ℕ
  serial : ℕ
  deriving DecidableEq

def Uuid.str (u : Uuid) : String := s!"{u.owner}-{u.serial}"

inductive Status where
  | stopped
  | provisioning
  | bootstrapping
  | readyWaitIngest
  | live
  | degraded
  | holding
  | stopping
  | finished
  | failedCleanup
  | failed
  deriving DecidableEq

namespace Status

def str : Status → String
  | stopped => "STOPPED"
  | provisioning => "PROVISIONING"
  | bootstrapping => "BOOTSTRAPPING"
  | readyWaitIngest => "READY_WAIT_INGEST"
  | live => "LIVE"
  | degraded => "DEGRADED"
  | holding => "HOLDING"
  | stopping => "STOPPING"
  | finished => "FINISHED"
  | failedCleanup => "FAILED_CLEANUP"
  | failed => "FAILED"

end Status

open Status

def activeStates : List Status := [provisioning, bootstrapping, readyWaitIngest, live, degraded, holding]
def terminalStates : List Status := [stopped, finished, failed]
def capacityStates : List Status := activeStates ++ [stopping, failedCleanup]

/-- `TRANSITIONS`. -/
def transitions : Status → List Status
  | stopped => [provisioning]
  | provisioning => [bootstrapping, stopping, failedCleanup]
  | bootstrapping => [readyWaitIngest, stopping, failedCleanup]
  | readyWaitIngest => [live, degraded, stopping, failedCleanup]
  | live => [degraded, holding, stopping, failedCleanup]
  | degraded => [live, holding, stopping, failedCleanup]
  | holding => [live, degraded, stopping, failedCleanup]
  | stopping => [finished, failedCleanup]
  | failedCleanup => [failed, stopping]
  | finished => []
  | failed => []

inductive EgressMode where
  | directPush
  | relayOnly
  deriving DecidableEq

inductive Environment where
  | dev
  | beta
  | prod
  deriving DecidableEq

def Environment.str : Environment → String
  | dev => "dev"
  | beta => "beta"
  | prod => "prod"

/-! ### Events -/

structure SessionEvent where
  sequence : ℕ
  type : String
  reasonCode : Option String
  payload : Json
  occurredAt : Timestamp
  origin : String

def sessionEventLimit : ℕ := 1000

/-- The retained events of a Session and the next sequence number. What `_validate_sessions` asks of the
    sequence numbers holds of every value. -/
structure EventLog where
  events : List SessionEvent
  nextEventSeq : ℕ
  increasing : events.Pairwise fun a b => a.sequence < b.sequence
  positive : ∀ e ∈ events, 0 < e.sequence
  below : ∀ e ∈ events, e.sequence < nextEventSeq
  next_pos : 0 < nextEventSeq

namespace EventLog

def empty : EventLog := ⟨[], 1, .nil, by simp, by simp, by simp⟩

/-- `_append_event_locked`. -/
def append (log : EventLog) (eventType : String) (reasonCode : Option String) (payload : Json)
    (origin : String) (occurredAt : Timestamp) : EventLog :=
  let event : SessionEvent :=
    { sequence := log.nextEventSeq
      type := clip 100 eventType
      -- an empty reason is recorded as none
      reasonCode := (reasonCode.filter (· ≠ "")).map (clip 100)
      payload := payload
      occurredAt := occurredAt
      origin := clip 50 origin }
  let events := log.events ++ [event]
  { events := events.drop (events.length - sessionEventLimit)
    nextEventSeq := log.nextEventSeq + 1
    increasing := by
      refine List.Pairwise.sublist (List.drop_sublist _ _) (List.pairwise_append.mpr ⟨log.increasing, by simp, ?_⟩)
      intro a ha b hb
      obtain rfl := List.mem_singleton.mp hb
      exact log.below a ha
    positive := by
      intro e he
      rcases List.mem_append.mp (List.mem_of_mem_drop he) with he | he
      · exact log.positive e he
      · obtain rfl := List.mem_singleton.mp he
        exact log.next_pos
    below := by
      intro e he
      rcases List.mem_append.mp (List.mem_of_mem_drop he) with he | he
      · exact Nat.lt_succ_of_lt (log.below e he)
      · obtain rfl := List.mem_singleton.mp he
        exact Nat.lt_succ_self _
    next_pos := Nat.succ_pos _ }

/-- Appending keeps at most the newest thousand events. -/
theorem append_length (log : EventLog) (eventType : String) (reasonCode : Option String) (payload : Json)
    (origin : String) (occurredAt : Timestamp) :
    (log.append eventType reasonCode payload origin occurredAt).events.length ≤ sessionEventLimit := by
  simp only [append, List.length_drop]
  omega

/-- An appended log holds events of the old log and the new one. -/
theorem mem_append {log : EventLog} {eventType : String} {reasonCode : Option String} {payload : Json} {origin : String}
    {occurredAt : Timestamp} {e : SessionEvent} (he : e ∈ (log.append eventType reasonCode payload origin occurredAt).events) :
    e ∈ log.events ∨ e.type = clip 100 eventType ∧ e.payload = payload ∧ e.origin = clip 50 origin := by
  simp only [append] at he
  rcases List.mem_append.mp (List.mem_of_mem_drop he) with he | he
  · exact Or.inl he
  · obtain rfl := List.mem_singleton.mp he
    exact Or.inr ⟨rfl, rfl, rfl⟩

/-- The event that `append` adds. -/
def newEvent (log : EventLog) (eventType : String) (reasonCode : Option String) (payload : Json) (origin : String)
    (occurredAt : Timestamp) : SessionEvent :=
  { sequence := log.nextEventSeq
    type := clip 100 eventType
    reasonCode := (reasonCode.filter (· ≠ "")).map (clip 100)
    payload := payload
    occurredAt := occurredAt
    origin := clip 50 origin }

theorem append_events (log : EventLog) (eventType : String) (reasonCode : Option String) (payload : Json)
    (origin : String) (occurredAt : Timestamp) :
    let events := log.events ++ [log.newEvent eventType reasonCode payload origin occurredAt]
    (log.append eventType reasonCode payload origin occurredAt).events =
      events.drop (events.length - sessionEventLimit) := by
  simp only [append, newEvent]

theorem append_nextEventSeq (log : EventLog) (eventType : String) (reasonCode : Option String) (payload : Json)
    (origin : String) (occurredAt : Timestamp) :
    (log.append eventType reasonCode payload origin occurredAt).nextEventSeq = log.nextEventSeq + 1 := by
  simp only [append]

-- no proof about a log that was appended to looks further
attribute [irreducible] append

end EventLog

/-! ### Records -/

inductive AudioMode where
  | live
  | muted
  deriving DecidableEq

def AudioMode.str : AudioMode → String
  | live => "LIVE"
  | muted => "MUTED"

inductive ActualAudioMode where
  | live
  | muted
  | silentFallback
  | applying
  | failed
  deriving DecidableEq

def AudioMode.actual : AudioMode → ActualAudioMode
  | live => .live
  | muted => .muted

structure MediaControlAudio where
  desiredMode : AudioMode
  actualMode : ActualAudioMode
  version : ℕ
  commandId : Option Uuid
  idempotencyKey : Option String
  updatedAt : Timestamp

def defaultMediaControl (now : Timestamp) : MediaControlAudio :=
  { desiredMode := .live
    actualMode := .live
    version := 0
    commandId := none
    idempotencyKey := none
    updatedAt := now }

/-- The configuration that `begin_prepare` binds. -/
structure PrepareRequest where
  environment : Environment
  destinationId : Option String
  egressMode : EgressMode
  deriving DecidableEq

structure Session where
  sessionId : String
  userId : String
  environment : Environment
  egressMode : EgressMode
  status : Status
  relayClientStatus : Option String
  relayClientConnected : Bool
  relayClientReaderCount : ℕ
  relayClientLastReason : Option String
  relayClientUpdatedAt : Option Timestamp
  idempotencyKey : Option String
  prepareRequest : Option PrepareRequest
  destinationId : Option String
  providerVolumeId : Option String
  providerServerId : Option String
  providerPublicIpv4 : Option String
  nodeId : Option String
  nodeBootId : Option String
  nodeRegisteredAt : Option Timestamp
  nodeLastHeartbeatAt : Option Timestamp
  provisioningStartedAt : Option Timestamp
  provisioningOperationId : Option Uuid
  provisioningInProgress : Bool
  provisioningCancelRequested : Bool
  readyAt : Option Timestamp
  firstIngestAt : Option Timestamp
  lastIngestAt : Option Timestamp
  holdDeadlineAt : Option Timestamp
  recoveryCandidateSince : Option Timestamp
  recoveryCandidateSourceId : Option String
  absoluteDeadlineAt : Option Timestamp
  entitlementId : Option String
  entitlementReserved : Bool
  cleanupPending : Bool
  failureReason : Option String
  failureReasonCode : Option String
  egressStatus : Option String
  egressConnected : Bool
  egressLastReason : Option String
  egressUpdatedAt : Option PyFloat
  log : EventLog
  audio : MediaControlAudio
  createdAt : Timestamp
  updatedAt : Timestamp

/-- `new_session` under the given id. Every caller asks for a deadline of twelve hours. -/
def newSession (sessionId userId : String) (environment : Environment) (egressMode : EgressMode)
    (now : Timestamp) : Session :=
  { sessionId := sessionId
    userId := userId
    environment := environment
    egressMode := egressMode
    status := stopped
    relayClientStatus := none
    relayClientConnected := false
    relayClientReaderCount := 0
    relayClientLastReason := none
    relayClientUpdatedAt := none
    idempotencyKey := none
    prepareRequest := none
    destinationId := none
    providerVolumeId := none
    providerServerId := none
    providerPublicIpv4 := none
    nodeId := none
    nodeBootId := none
    nodeRegisteredAt := none
    nodeLastHeartbeatAt := none
    provisioningStartedAt := none
    provisioningOperationId := none
    provisioningInProgress := false
    provisioningCancelRequested := false
    readyAt := none
    firstIngestAt := none
    lastIngestAt := none
    holdDeadlineAt := none
    recoveryCandidateSince := none
    recoveryCandidateSourceId := none
    absoluteDeadlineAt := some (now + 12 * 3600)
    entitlementId := none
    entitlementReserved := false
    cleanupPending := false
    failureReason := none
    failureReasonCode := none
    egressStatus := none
    egressConnected := false
    egressLastReason := none
    egressUpdatedAt := none
    log := .empty
    audio := defaultMediaControl now
    createdAt := now
    updatedAt := now }

namespace Session

/-- Whether the Session occupies one of its user's slots. -/
def occupies (r : Session) : Bool := r.entitlementReserved || r.status ∈ capacityStates

/-- `_provisioning_cancelled` of the workflow. -/
def provisioningCancelled (r : Session) : Bool :=
  r.provisioningCancelRequested || r.status ∈ [stopping, failedCleanup, finished, failed]

/-- `_clear_recovery_candidate`. -/
def clearRecoveryCandidate (r : Session) : Session :=
  { r with recoveryCandidateSince := none, recoveryCandidateSourceId := none }

/-- `_append_event_locked`. -/
def appendEventLocked (r : Session) (eventType : String) (reasonCode : Option String) (payload : Json)
    (origin : String) (occurredAt : Timestamp) : Session :=
  { r with log := r.log.append eventType reasonCode payload origin occurredAt }

/-- `_recovery_candidate_ready`: whether a recovery has been stable for long enough, and the record with
    the candidate that it started or kept. -/
def recoveryCandidateReady (r : Session) (stableSeconds : Timestamp) (sourceId : Option String)
    (current : Timestamp) : Bool × Session :=
  match r.recoveryCandidateSince with
  | some since =>
    if r.recoveryCandidateSourceId ≠ sourceId || current < since then
      (stableSeconds ≤ 0, { r with recoveryCandidateSince := some current, recoveryCandidateSourceId := sourceId })
    else ((stableSeconds : ℚ) ≤ current - since, r)
  | none =>
    (stableSeconds ≤ 0, { r with recoveryCandidateSince := some current, recoveryCandidateSourceId := sourceId })

/-- The first error that `_validate_sessions` finds in the record, beyond what its type rules out. -/
def invalid (r : Session) : Option String :=
  if r.sessionId = "" then some "invalid Session state record"
  else if r.userId = "" then some "Session state record has invalid user_id"
  else if r.log.events.any (·.type = "") then some "Session event has invalid type"
  else if r.log.events.any (·.origin = "") then some "Session event has invalid origin"
  else if r.audio.idempotencyKey.any fun key => key = "" || 200 < key.length then
    some "Session media-control audio has invalid idempotency_key"
  else none

/-- Whether `json.dump(..., allow_nan=False)` accepts the record. -/
def serializable (r : Session) : Bool :=
  r.log.events.all (·.payload.serializable) && r.egressUpdatedAt.all (·.isFinite)

end Session

/-! ### Partial updates and snapshots -/

/-- One keyword argument of `**changes`. -/
inductive Change where
  | providerVolumeId (value : String)
  | providerServerId (value : String)
  | providerPublicIpv4 (value : Option String)
  | readyAt (value : PyFloat)
  | holdDeadlineAt (value : Timestamp)
  | cleanupPending (value : Bool)
  | failureReason (value : String)
  | failureReasonCode (value : String)
  | provisioningInProgress (value : Bool)
  | provisioningOperationId (value : Option Uuid)
  | provisioningCancelRequested (value : Bool)
  | egress (status : String) (connected : Bool) (lastReason : Option String) (updatedAt : PyFloat)

/-- One change, its timestamp checked by `_validate_timestamp_changes`. -/
def Change.update (context : String) : Change → Except Exc (Session → Session)
  | providerVolumeId v => .ok fun r => { r with providerVolumeId := some v }
  | providerServerId v => .ok fun r => { r with providerServerId := some v }
  | providerPublicIpv4 v => .ok fun r => { r with providerPublicIpv4 := v }
  | readyAt v => do
    let t ← validatedTimestamp v s!"{context} has invalid ready_at"
    return fun r => { r with readyAt := some t }
  | holdDeadlineAt v => .ok fun r => { r with holdDeadlineAt := some v }
  | cleanupPending v => .ok fun r => { r with cleanupPending := v }
  | failureReason v => .ok fun r => { r with failureReason := some v }
  | failureReasonCode v => .ok fun r => { r with failureReasonCode := some v }
  | provisioningInProgress v => .ok fun r => { r with provisioningInProgress := v }
  | provisioningOperationId v => .ok fun r => { r with provisioningOperationId := v }
  | provisioningCancelRequested v => .ok fun r => { r with provisioningCancelRequested := v }
  | egress status connected lastReason updatedAt => .ok fun r =>
      { r with
        egressStatus := some status
        egressConnected := connected
        egressLastReason := lastReason
        egressUpdatedAt := some updatedAt }

/-- `session.update(changes)`, once the timestamps among the changes are checked. -/
def updateOf (context : String) : List Change → Except Exc (Session → Session)
  | [] => .ok id
  | c :: changes => do
    let f ← c.update context
    let g ← updateOf context changes
    return fun r => g (f r)

/-- One field of a snapshot that a conditional write compares with the record. -/
inductive Expected where
  | provisioningStartedAt (value : Option Timestamp)
  | provisioningOperationId (value : Option Uuid)
  | absoluteDeadlineAt (value : Option Timestamp)
  | readyAt (value : Option Timestamp)
  | holdDeadlineAt (value : Option Timestamp)
  | lastIngestAt (value : Option Timestamp)
  | updatedAt (value : Timestamp)
  | nodeId (value : Option String)
  | nodeBootId (value : Option String)
  | nodeRegisteredAt (value : Option Timestamp)
  | nodeLastHeartbeatAt (value : Option Timestamp)

def Expected.holds (r : Session) : Expected → Bool
  | provisioningStartedAt v => r.provisioningStartedAt = v
  | provisioningOperationId v => r.provisioningOperationId = v
  | absoluteDeadlineAt v => r.absoluteDeadlineAt = v
  | readyAt v => r.readyAt = v
  | holdDeadlineAt v => r.holdDeadlineAt = v
  | lastIngestAt v => r.lastIngestAt = v
  | updatedAt v => r.updatedAt = v
  | nodeId v => r.nodeId = v
  | nodeBootId v => r.nodeBootId = v
  | nodeRegisteredAt v => r.nodeRegisteredAt = v
  | nodeLastHeartbeatAt v => r.nodeLastHeartbeatAt = v

/-- `_matches_fields`. -/
def Session.matchesFields (r : Session) (expected : List Expected) : Bool := expected.all (·.holds r)

end IRLight
