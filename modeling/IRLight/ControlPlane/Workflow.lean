import IRLight.ControlPlane.Operations

/-! # The provisioning workflow

`ProvisioningWorkflow` of the Control API: preparing a Session, stopping it, and the cleanup of its
provider resources that the Reaper shares. -/

namespace IRLight
open Interleaving Status

/-! ### Single calls -/

namespace Call

def call (o : Op) : Control o.Res := Prog.op o
def store (o : StoreOp) : Control o.Res := call (.store o)
def get (sessionId : String) : Control (Option Session) := store (.get sessionId)
def transition (sessionId : String) (newState : Status) (allowFrom : List Status) (changes : List Change) :
    Control Session :=
  store (.transition sessionId newState allowFrom changes)
def appendEvent (sessionId eventType : String) (reasonCode : Option String) (payload : Json) (origin : String)
    (occurredAt : Option Timestamp) : Control Unit :=
  store (.appendEvent sessionId eventType reasonCode payload origin occurredAt)
def revokeSession (sessionId : String) : Control ℕ := call (.revokeSession sessionId)
def time : Control PyFloat := call .time
def uuid : Control Uuid := call .uuid
def listVolumes : Control (List ProviderVolume) := call .listVolumes
def listServers : Control (List ProviderServer) := call .listServers
def listManagedResources : Control (List ManagedResource) := call .listManagedResources

end Call

open Call

/-! ### Cleanup of provider resources -/

/-- Deletes the resources one by one while the lease is owned. `none` means that the lease was lost, and
    otherwise the result says whether every delete so far succeeded. -/
def deleteEach (stillOwned : Control Bool) (delete : String → Control Unit) :
    List ManagedResource → Bool → Control (Option Bool)
  | [], ok => pure (some ok)
  | resource :: resources, ok => do
    if !(← stillOwned) then return none
    match ← (delete resource.providerId).attempt with
    | .ok () => deleteEach stillOwned delete resources ok
    | .error _ => deleteEach stillOwned delete resources false

/-- Servers first, and the volumes only when no server is left. -/
def deleteInOrder (inventory : Control (List ManagedResource)) (sessionId : String) (leaseId : Uuid) : Control Bool := do
  let stillOwned := store (.sessionCleanupStillOwned sessionId leaseId)
  let resources ← inventory
  match ← deleteEach stillOwned (fun id => call (.deleteServer id)) (resources.filter (·.kind = .server)) true with
  | some true =>
    let remaining ← inventory
    if remaining.any (·.kind = .server) then return false
    let volumes := remaining.filter (·.kind = .volume)
    return (← deleteEach stillOwned (fun id => call (.deleteVolume id)) volumes true).getD false
  | _ => return false

namespace Workflow

structure WorkflowConfig where
  sizeGb : ℕ
  imageRef : String
  flavorRef : String
  /-- `IRLIGHT_REQUIRE_NODE_READY_HANDSHAKE` is not "0". -/
  requireNodeReadyHandshake : Bool

def WorkflowConfig.default : WorkflowConfig :=
  { sizeGb := 20, imageRef := "ubuntu-24.04", flavorRef := "g2", requireNodeReadyHandshake := true }

/-- `_find_managed`, as `prepare` calls it: by Session only. -/
def findManaged {α : Type} (tags : α → Tags) (sessionId : String) (resources : List α) : Option α :=
  resources.find? fun r => (tags r).sessionId = some sessionId && (tags r).managed = some "true"

/-- `_resource_environment`. -/
def resourceEnvironment (resource : ManagedResource) (expected : String) : Control Bool := do
  if expected = "" then return false
  let servers ← listServers
  let volumes ← listVolumes
  let candidates := servers.map (fun s => (s.serverId, s.tags)) ++ volumes.map fun v => (v.volumeId, v.tags)
  return (candidates.find? (·.1 = resource.providerId)).any (·.2.environment = some expected)

/-- The inventory of the Session that its own user and environment tag. -/
def ownedResources (sessionId expectedUser expectedEnvironment : String) : Control (List ManagedResource) := do
  let resources ← listManagedResources
  Prog.forFold resources [] fun owned resource => do
    if resource.sessionId = some sessionId && resource.userId = some expectedUser then
      if ← resourceEnvironment resource expectedEnvironment then return owned ++ [resource]
    return owned

/-- `_cleanup_resources`. -/
def cleanupResources (sessionId : String) (leaseId : Uuid) : Control Bool := do
  let current ← get sessionId
  let expectedUser := (current.map (·.userId)).getD ""
  let expectedEnvironment := (current.map (·.environment.str)).getD ""
  deleteInOrder (ownedResources sessionId expectedUser expectedEnvironment) sessionId leaseId

/-- The changes that give up a Session's provisioning. -/
def released : List Change := [.provisioningInProgress false, .provisioningOperationId none]

/-- `_finish_cancelled_provisioning`. -/
def finishCancelledProvisioning (sessionId : String) : Control Session := do
  let some current ← get sessionId | throw (.keyError sessionId)
  if current.status ∉ [stopping, failedCleanup] then return current
  let _ ← revokeSession sessionId
  match ← store (.claimSessionCleanup sessionId) with
  | none => return current
  | some leaseId =>
    let finish : Control Session := do
      let cleaned ← cleanupResources sessionId leaseId
      let some current ← get sessionId | throw (.keyError sessionId)
      let common := released ++ [Change.provisioningCancelRequested false]
      if current.status = stopping then
        if cleaned then transition sessionId finished [stopping] (.cleanupPending false :: common)
        else
          transition sessionId failedCleanup [stopping]
            (.cleanupPending true :: .failureReason "resource cleanup failed after provisioning cancellation" ::
              common)
      else if current.status = failedCleanup then
        if cleaned then transition sessionId failed [failedCleanup] (.cleanupPending false :: common)
        else store (.update sessionId (.cleanupPending true :: common))
      else return current
    finish.tryFinally (store (.releaseSessionCleanup sessionId leaseId))

/-- The cleanup after the failure of `prepare` was recorded. -/
def cleanupFailed (sessionId : String) : Control Unit := do
  let _ ← (revokeSession sessionId).attempt
  match ← store (.claimSessionCleanup sessionId) with
  | none => return
  | some leaseId =>
    let finish : Control Unit := do
      if ← cleanupResources sessionId leaseId then
        let _ ← (transition sessionId failed [failedCleanup] [.cleanupPending false]).attempt
    finish.tryFinally (store (.releaseSessionCleanup sessionId leaseId))

/-- The handlers of `prepare`: what it does with the exception that ended its `try` block. `claimed` says
    whether its claim had succeeded. -/
def handlePrepareError (sessionId : String) (claimed : Bool) (exc : Exc) : Control Session :=
  match exc with
  | .provisioningInProgress _ => do
    if claimed then
      if ((← get sessionId).any (·.provisioningCancelled)) then
        return ← finishCancelledProvisioning sessionId
    throw exc
  | _ => do
    if ((← get sessionId).any (·.provisioningCancelled)) then
      return ← finishCancelledProvisioning sessionId
    let changes := [.cleanupPending true, .failureReason (clip 500 exc.str)] ++ released
    match ← (transition sessionId failedCleanup [provisioning, bootstrapping] changes).attempt with
    | .ok _ =>
      cleanupFailed sessionId
      throw exc
    | .error _ => throw exc

/-- A checkpoint of `prepare`, and what follows it unless the Session was cancelled meanwhile. -/
def checkpoint (sessionId : String) (operationId : Uuid) (nextState : Option Status) (changes : List Change)
    (next : Session → Control Session) : Control Session := do
  let session ← store (.provisioningCheckpoint sessionId operationId nextState false changes)
  if session.provisioningCancelled then finishCancelledProvisioning sessionId else next session

/-- The resource of the Session that exists, or a new one. -/
def ensureVolume (config : WorkflowConfig) (sessionId userId : String) (environment : Environment) :
    Control ProviderVolume := do
  match findManaged (·.tags) sessionId (← listVolumes) with
  | some volume => return volume
  | none =>
    match sessionMetadata sessionId userId environment (← time) with
    | .ok tags => call (.createVolume s!"irlight-{sessionId}-boot" config.sizeGb tags)
    | .error e => throw e

def ensureServer (config : WorkflowConfig) (sessionId userId : String) (environment : Environment)
    (volume : ProviderVolume) : Control ProviderServer := do
  match findManaged (·.tags) sessionId (← listServers) with
  | some server => return server
  | none =>
    match sessionMetadata sessionId userId environment (← time) with
    | .ok tags =>
      call (.createServer s!"irlight-{sessionId}-node" config.imageRef config.flavorRef volume.volumeId tags)
    | .error e => throw e

/-- What `prepare` does once it owns the Session's provisioning. -/
def provision (config : WorkflowConfig) (sessionId userId : String) (environment : Environment)
    (operationId : Uuid) : Control Session := do
  let volume ← ensureVolume config sessionId userId environment
  checkpoint sessionId operationId none [.providerVolumeId volume.volumeId] fun _ => do
  let server ← ensureServer config sessionId userId environment volume
  checkpoint sessionId operationId none
      [.providerServerId server.serverId, .providerPublicIpv4 server.publicIpv4] fun _ =>
  checkpoint sessionId operationId (some bootstrapping) [] fun session => do
  -- production nodes must prove bootstrap and a healthy media stack first
  if environment = .prod && config.requireNodeReadyHandshake then return session
  store (.provisioningCheckpoint sessionId operationId (some readyWaitIngest) true [.readyAt (← time)])

/-- The rest of the `try` statement of `prepare`, once its claim returned or raised. -/
def afterClaim (config : WorkflowConfig) (sessionId userId : String) (environment : Environment) (operationId : Uuid) :
    Except Exc Session → Control Session
  | .ok _ =>
    (provision config sessionId userId environment operationId).tryExcept (handlePrepareError sessionId true)
  | .error exc => handlePrepareError sessionId false exc

/-- `prepare`. -/
def prepare (config : WorkflowConfig) (sessionId : String) (userId : Option String) (environment : Environment) :
    Control Session := do
  let userId := userId.getD "unknown"
  let session ← (do
    match ← get sessionId with
    | some session => return session
    | none => store (.create sessionId userId environment))
  if session.status ∈ [readyWaitIngest, live, degraded, holding] then return session
  ofExcept (raiseIf (session.status ∈ [finished, failed, stopping, failedCleanup])
    (.runtimeError s!"session {sessionId} is {session.status.str}"))
  let operationId ← uuid
  let startedAt ← time
  let claim ← (store (.claimProvisioning sessionId operationId startedAt)).attempt
  afterClaim config sessionId userId environment operationId claim

/-- `stop`. -/
def stop (sessionId : String) : Control Session := do
  let some session ← get sessionId | throw (.keyError sessionId)
  if session.status ∈ terminalStates then
    let _ ← revokeSession sessionId
    return session
  let session ← store (.requestStop sessionId)
  let _ ← revokeSession sessionId
  if session.provisioningInProgress then return session
  match ← store (.claimSessionCleanup sessionId) with
  | none => return (← get sessionId).getD session
  | some leaseId =>
    let finish : Control Session := do
      if !(← cleanupResources sessionId leaseId) then
        return ← transition sessionId failedCleanup [stopping]
          ([.cleanupPending true, .failureReason "resource cleanup failed"] ++ released)
      transition sessionId finished [stopping]
        (.cleanupPending false :: released ++ [Change.provisioningCancelRequested false])
    finish.tryFinally (store (.releaseSessionCleanup sessionId leaseId))

end Workflow
end IRLight
