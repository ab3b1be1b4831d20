import IRLight.ControlPlane.Workflow

/-! # The Reaper

`Reaper` of the Control API: one sweep over the Sessions that timed out, lost their Node or still need
cleanup, and over provider resources that no Session owns. -/

namespace IRLight
open Interleaving Status Call

namespace Reaper

structure ReaperConfig where
  provisioningTimeoutSeconds : Timestamp
  noIngestTimeoutSeconds : Timestamp
  holdTimeoutSeconds : Timestamp
  heartbeatGraceSeconds : Timestamp
  orphanGraceSeconds : Timestamp

def ReaperConfig.default : ReaperConfig :=
  { provisioningTimeoutSeconds := 600
    noIngestTimeoutSeconds := (3600 : ℕ)
    holdTimeoutSeconds := 1800
    heartbeatGraceSeconds := 120
    orphanGraceSeconds := 300 }

/-- The counts that a sweep returns. -/
structure SweepResult where
  timeoutFailures : ℕ
  heartbeatFailures : ℕ
  deadlineStops : ℕ
  holdDeadlinesRecovered : ℕ
  orphanCleanup : ℕ
  failedCleanupRetries : ℕ
  deriving DecidableEq

/-- The clock of one sweep. -/
def now : Control Timestamp := do
  ofExcept (requireTimestamp (← time) (.valueError "reaper clock must be a finite non-negative number"))

/-- `_cleanup_resources`. -/
def cleanupResources (sessionId : String) (leaseId : Uuid) : Control Bool :=
  let inventory : Control (List ManagedResource) := do
    return (← listManagedResources).filter (·.sessionId = some sessionId)
  deleteInOrder inventory sessionId leaseId

/-- The end of a cleanup whose Session failed. -/
def finishFailed (sessionId reasonCode : String) (failureReason : Json) (sweepNow : Timestamp) : Control Unit := do
  let _ ← transition sessionId failed [failedCleanup] [.cleanupPending false]
  appendEvent sessionId "session.failed" (some reasonCode)
    (.obj [("failure_reason", failureReason), ("cleanup_pending", .bool false)]) "reaper" (some sweepNow)

/-- `_fail_and_cleanup`, as a sweep calls it: with the snapshot it decided on. -/
def failAndCleanup (sessionId reason reasonCode : String) (expectedStatus : Status) (expectedFields : List Expected)
    (sweepNow : Timestamp) : Control Bool := do
  let changes :=
    [.cleanupPending true, .failureReason reason, .failureReasonCode reasonCode, .provisioningCancelRequested true] ++
      Workflow.released
  match ← (store (.transitionIfCurrent sessionId failedCleanup [expectedStatus] expectedFields changes)).attempt with
  | .error _ => return false
  | .ok none => return false
  | .ok (some _) =>
    match ← (revokeSession sessionId).attempt with
    | .error _ => return true
    | .ok _ =>
      match ← store (.claimSessionCleanup sessionId) with
      | none => return true
      | some leaseId =>
        let finish : Control Unit := do
          if ← cleanupResources sessionId leaseId then
            finishFailed sessionId reasonCode (.str reason) sweepNow
        finish.tryFinally (store (.releaseSessionCleanup sessionId leaseId))
        return true

/-- The part of `_stop_and_cleanup` after the provisioning worker is gone. -/
def cleanupStopped (sessionId reasonCode : String) (sweepNow : Timestamp) : Control Bool := do
  match ← store (.claimSessionCleanup sessionId) with
  | none => return true
  | some leaseId =>
    let finish : Control Unit := do
      if !(← cleanupResources sessionId leaseId) then
        let _ ← transition sessionId failedCleanup [stopping]
          ([.cleanupPending true, .failureReason "resource cleanup failed",
            .failureReasonCode "RESOURCE_CLEANUP_FAILED"] ++ Workflow.released)
        return
      let _ ← transition sessionId finished [stopping]
        (.cleanupPending false :: Workflow.released ++ [Change.provisioningCancelRequested false])
      appendEvent sessionId "session.finished" (some reasonCode)
        (.obj [("from_state", .str "STOPPING"), ("to_state", .str "FINISHED")]) "reaper" (some sweepNow)
    finish.tryFinally (store (.releaseSessionCleanup sessionId leaseId))
    return true

/-- Whether a stopping Session's provisioning worker may still be running. A start time of zero counts as
    none. -/
def workerMayRun (config : ReaperConfig) (session : Session) (sweepNow : Timestamp) : Bool :=
  let started := (session.provisioningStartedAt.filter (· ≠ 0)).getD
    (if session.updatedAt ≠ 0 then session.updatedAt else sweepNow)
  (sweepNow : ℚ) - started ≤ config.provisioningTimeoutSeconds

/-- The part of `_stop_and_cleanup` after the stop request. `fromState` is the state it was made in. -/
def afterStopRequest (config : ReaperConfig) (sessionId reasonCode : String) (fromState : Option Status)
    (session : Session) (sweepNow : Timestamp) : Control Bool := do
  if session.status ∈ terminalStates then return false
  match ← (revokeSession sessionId).attempt with
  | .error _ => return true
  | .ok _ =>
    (if fromState ≠ some stopping then
      appendEvent sessionId "session.stopping" (some reasonCode)
        (.obj [("from_state", .ofOption (fun s => .str s.str) fromState), ("to_state", .str "STOPPING")]) "reaper"
        (some sweepNow)
    else pure ())
    if session.provisioningInProgress then
      if workerMayRun config session sweepNow then return true
      let _ ← store (.update sessionId Workflow.released)
      cleanupStopped sessionId reasonCode sweepNow
    else cleanupStopped sessionId reasonCode sweepNow

/-- `_stop_and_cleanup` with the snapshot that a sweep decided on. -/
def stopAndCleanupIfCurrent (config : ReaperConfig) (sessionId reasonCode : String) (expectedStatus : Status)
    (expectedFields : List Expected) (sweepNow : Timestamp) : Control Bool := do
  match ← (store (.requestStopIfCurrent sessionId expectedStatus expectedFields)).attempt with
  | .error _ => return false
  | .ok none => return false
  | .ok (some session) => afterStopRequest config sessionId reasonCode (some expectedStatus) session sweepNow

/-- `_stop_and_cleanup` without one. -/
def stopAndCleanup (config : ReaperConfig) (sessionId reasonCode : String) (sweepNow : Timestamp) : Control Bool := do
  let before ← get sessionId
  match ← (store (.requestStop sessionId)).attempt with
  | .error _ => return false
  | .ok session => afterStopRequest config sessionId reasonCode (before.map (·.status)) session sweepNow

/-- `_fail_missing_heartbeat`. -/
def failMissingHeartbeat (config : ReaperConfig) (session : Session) (lastHeartbeatAt : Option Timestamp)
    (detectedAt : Timestamp) : Control Bool := do
  let sid := session.sessionId
  let expected :=
    [Expected.nodeId session.nodeId, .nodeBootId session.nodeBootId, .nodeRegisteredAt session.nodeRegisteredAt,
      .nodeLastHeartbeatAt session.nodeLastHeartbeatAt]
  match ← (store (.transitionIfCurrent sid failedCleanup activeStates expected
      [.cleanupPending true, .failureReason "node heartbeat timed out", .failureReasonCode "NODE_SHUTDOWN"])).attempt with
  | .error _ => return false
  | .ok none => return false
  | .ok (some _) =>
    appendEvent sid "session.failure_detected" (some "NODE_SHUTDOWN")
      (.obj [("node_id", .ofOption .str session.nodeId), ("from_state", .str session.status.str),
        ("to_state", .str "FAILED_CLEANUP"), ("cleanup_pending", .bool true),
        ("last_heartbeat_at", .ofOption (fun t => .float (.finite t)) lastHeartbeatAt),
        ("node_registered_at", .ofOption (fun t => .float (.finite t)) session.nodeRegisteredAt),
        ("heartbeat_grace_seconds", .float (.finite config.heartbeatGraceSeconds))]) "reaper" (some detectedAt)
    match ← (revokeSession sid).attempt with
    | .error _ => return false
    | .ok _ => return true

/-- `_heartbeat_baseline`: since when the Node has been silent, and its last heartbeat. -/
def heartbeatBaseline (session : Session) (authority : NodeAuthority) : Option Timestamp × Option Timestamp :=
  match session.nodeId with
  | none | some "" => (none, none)
  | some nodeId =>
    let fromNode := (authority.nodes.lookup nodeId).bind fun node =>
      if node.sessionId = session.sessionId then node.lastHeartbeatAt else none
    let last := session.nodeLastHeartbeatAt.orElse fun _ => fromNode
    (last.orElse fun _ => session.nodeRegisteredAt, last)

/-- `_has_holding_event_since`. -/
def hasHoldingEventSince (session : Session) (started : Timestamp) : Bool :=
  session.log.events.any fun e => e.type = "session.holding" && started ≤ e.occurredAt

/-! ### The parts of a sweep -/

/-- Runs `body` on every record, with the result so far. -/
def sweep (records : List Session) (result : SweepResult) (body : SweepResult → Session → Control SweepResult) :
    Control SweepResult :=
  Prog.forFold records result body

def sweepProvisioning (config : ReaperConfig) (now : Timestamp) (result : SweepResult) : Control SweepResult := do
  sweep (← store (.sessionsInStates [provisioning, bootstrapping])) result fun result session => do
    let started := session.provisioningStartedAt.getD session.createdAt
    if (config.provisioningTimeoutSeconds : ℚ) < now - started then
      if ← failAndCleanup session.sessionId "provisioning timeout" "PROVISIONING_TIMEOUT" session.status
          [.provisioningStartedAt session.provisioningStartedAt,
            .provisioningOperationId session.provisioningOperationId] now then
        return { result with timeoutFailures := result.timeoutFailures + 1 }
    return result

def sweepDeadlines (config : ReaperConfig) (now : Timestamp) (result : SweepResult) : Control SweepResult := do
  sweep (← store (.sessionsInStates activeStates)) result fun result session => do
    match session.absoluteDeadlineAt with
    | none => return result
    | some deadline =>
      if deadline ≤ now then
        if ← stopAndCleanupIfCurrent config session.sessionId "ABSOLUTE_DEADLINE_EXCEEDED" session.status
            [.absoluteDeadlineAt (some deadline)] now then
          return { result with deadlineStops := result.deadlineStops + 1 }
      return result

def sweepHeartbeats (config : ReaperConfig) (now : Timestamp) (result : SweepResult) : Control SweepResult := do
  -- a registry that cannot be read is no evidence that every Node disappeared
  match ← (call .readAuthority).attempt with
  | .error _ => return result
  | .ok authority =>
    sweep (← store (.sessionsInStates activeStates)) result fun result session => do
      match heartbeatBaseline session authority with
      | (none, _) => return result
      | (some baseline, last) =>
        if now < baseline || (now : ℚ) - baseline < config.heartbeatGraceSeconds then return result
        if ← failMissingHeartbeat config session last now then
          return { result with heartbeatFailures := result.heartbeatFailures + 1 }
        return result

def sweepNoIngest (config : ReaperConfig) (now : Timestamp) (result : SweepResult) : Control SweepResult := do
  sweep (← store (.sessionsInStates [readyWaitIngest])) result fun result session => do
    let ready := session.readyAt.getD now
    if (config.noIngestTimeoutSeconds : ℚ) < now - ready then
      if ← stopAndCleanupIfCurrent config session.sessionId "NO_INGEST_TIMEOUT" readyWaitIngest
          [.readyAt session.readyAt] now then
        return { result with deadlineStops := result.deadlineStops + 1 }
    return result

/-- A hold deadline that a HOLDING record lacks, computed and stored. -/
def recoverHoldDeadline (config : ReaperConfig) (session : Session) (now : Timestamp) :
    Control (Option (Session × Timestamp)) := do
  let started := session.lastIngestAt.getD session.updatedAt
  let deadline := started + config.holdTimeoutSeconds
  let event : SessionStore.EventDraft :=
    { eventType := "session.holding"
      reasonCode := some "INGEST_DISCONNECTED"
      payload := .obj [("hold_started_at", .float (.finite started)), ("hold_deadline_at", .float (.finite deadline))]
      origin := "reaper"
      occurredAt := now }
  let event? := if hasHoldingEventSince session started then none else some event
  let recovered ← store (.updateIfCurrent session.sessionId holding
    [.holdDeadlineAt none, .lastIngestAt session.lastIngestAt, .updatedAt session.updatedAt] event?
    [.holdDeadlineAt deadline])
  return recovered.map (·, deadline)

def stopHolding (config : ReaperConfig) (now : Timestamp) (result : SweepResult) (session : Session)
    (deadline : Timestamp) : Control SweepResult := do
  if deadline < now then
    if ← stopAndCleanupIfCurrent config session.sessionId "HOLD_TIMEOUT" holding
        [.holdDeadlineAt (some deadline), .lastIngestAt session.lastIngestAt] now then
      return { result with deadlineStops := result.deadlineStops + 1 }
  return result

def sweepHolding (config : ReaperConfig) (now : Timestamp) (result : SweepResult) : Control SweepResult := do
  sweep (← store (.sessionsInStates [holding])) result fun result session => do
    match session.holdDeadlineAt with
    | some deadline => stopHolding config now result session deadline
    | none =>
      match ← recoverHoldDeadline config session now with
      | none => return result
      | some (session, deadline) =>
        stopHolding config now { result with holdDeadlinesRecovered := result.holdDeadlinesRecovered + 1 } session
          deadline

def sweepStopping (config : ReaperConfig) (now : Timestamp) (result : SweepResult) : Control SweepResult := do
  sweep (← store (.sessionsInStates [stopping])) result fun result session => do
    let _ ← stopAndCleanup config session.sessionId "STOP_REQUESTED" now
    return result

/-- One retry of a failed cleanup. -/
def retryCleanup (session : Session) (now : Timestamp) : Control Unit := do
  let sid := session.sessionId
  match ← (revokeSession sid).attempt with
  | .error _ => return
  | .ok _ =>
    match ← store (.claimSessionCleanup sid) with
    | none => return
    | some leaseId =>
      let finish : Control Unit := do
        if ← cleanupResources sid leaseId then
          let code := clip 100 ((session.failureReasonCode.filter (· ≠ "")).getD "RESOURCE_CLEANUP_FAILED")
          finishFailed sid code (.ofOption .str session.failureReason) now
      finish.tryFinally (store (.releaseSessionCleanup sid leaseId))

def sweepFailedCleanup (now : Timestamp) (result : SweepResult) : Control SweepResult := do
  sweep (← store (.sessionsInStates [failedCleanup])) result fun result session => do
    retryCleanup session now
    return { result with failedCleanupRetries := result.failedCleanupRetries + 1 }

/-! ### Orphans -/

/-- `_orphan_delete_allowed`. -/
def orphanDeleteAllowed (config : ReaperConfig) (resource : ManagedResource) (known : List Session)
    (sweepNow : Timestamp) : Bool :=
  match resource.sessionId with
  | none => false
  | some sid =>
    if (known.find? (·.sessionId = sid)).any (·.status ∉ terminalStates) then false
    else if resource.deleteAfter.any fun t => (t : ℚ) ≤ sweepNow then true
    else resource.createdAt.any fun t => (config.orphanGraceSeconds : ℚ) ≤ sweepNow - t

/-- The part of `_cleanup_orphan_resource` under the lease. -/
def deleteOrphan (resource : ManagedResource) (sessionId : String) (leaseId : Uuid) : Control Bool := do
  let latest ← listManagedResources
  let current := latest.find? fun c =>
    c.providerId = resource.providerId && c.kind = resource.kind && c.sessionId = some sessionId
  if current.isNone then return false
  if !(← store (.orphanCleanupStillOwned sessionId leaseId)) then return false
  if resource.kind = .volume && latest.any (fun c => c.sessionId = some sessionId && c.kind = .server) then
    return false
  match resource.kind with
  | .server => call (.deleteServer resource.providerId)
  | .volume => call (.deleteVolume resource.providerId)
  return true

/-- `_cleanup_orphan_resource`. -/
def cleanupOrphanResource (resource : ManagedResource) (sessionId : String) : Control Bool := do
  match ← (store (.claimOrphanCleanup sessionId resource.providerId resource.kind)).attempt with
  | .error exc => if let .sessionStateError _ := exc then return false else throw exc
  | .ok none => return false
  | .ok (some leaseId) =>
    let deleted ← (deleteOrphan resource sessionId leaseId).tryExcept fun _ => pure false
    (store (.releaseOrphanCleanup sessionId leaseId)).tryExcept fun exc =>
      if let .sessionStateError _ := exc then pure () else throw exc
    return deleted

/-- `_cleanup_orphans`. -/
def cleanupOrphans (config : ReaperConfig) (sweepNow : Timestamp) : Control ℕ := do
  match ← (store .authoritativeSnapshot).attempt with
  | .error exc => if let .sessionStateError _ := exc then return 0 else throw exc
  | .ok known =>
    let resources ← listManagedResources
    let allowed := resources.filter fun r => orphanDeleteAllowed config r known sweepNow
    let inOrder := allowed.filter (·.kind = .server) ++ allowed.filter (·.kind = .volume)
    Prog.forFold inOrder 0 fun cleaned resource => do
      if ← cleanupOrphanResource resource (resource.sessionId.getD "") then return cleaned + 1
      return cleaned

/-- `run`: one sweep. -/
def run (config : ReaperConfig) : Control SweepResult := do
  let now ← now
  let result ← sweepProvisioning config now ⟨0, 0, 0, 0, 0, 0⟩
  let result ← sweepDeadlines config now result
  let result ← sweepHeartbeats config now result
  let result ← sweepNoIngest config now result
  let result ← sweepHolding config now result
  let result ← sweepStopping config now result
  let result ← sweepFailedCleanup now result
  return { result with orphanCleanup := ← cleanupOrphans config now }

end Reaper
end IRLight
