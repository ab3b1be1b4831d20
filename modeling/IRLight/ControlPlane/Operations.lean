import IRLight.ControlPlane.Authorities
import IRLight.Interleaving.Contract

/-! # Atomic operations

The calls that the Control API's programs make, one transaction each, on the world they share. -/

namespace IRLight
open Interleaving

/-- A call of the Session store. -/
inductive StoreOp where
  | get (sessionId : String)
  | create (sessionId userId : String) (environment : Environment)
  | reservePrepareSlot (sessionId userId : String) (environment : Environment) (entitlementId : String)
      (maxConcurrentSessions : ℤ)
  | beginPrepare (sessionId userId : String) (request : PrepareRequest) (entitlementId : String)
      (maxConcurrentSessions : ℤ) (idempotencyKey : String)
  | getPrepareReplay (sessionId userId : String) (request : PrepareRequest) (idempotencyKey : String)
  | authoritativeSnapshot
  | findByProviderServerId (providerServerId : String) (states : List Status)
  | sessionsInStates (states : List Status)
  | claimProvisioning (sessionId : String) (operationId : Uuid) (startedAt : PyFloat)
  | provisioningCheckpoint (sessionId : String) (operationId : Uuid) (nextState : Option Status) (complete : Bool)
      (changes : List Change)
  | requestStop (sessionId : String)
  | requestStopIfCurrent (sessionId : String) (expectedStatus : Status) (expectedFields : List Expected)
  | transition (sessionId : String) (newState : Status) (allowFrom : List Status) (changes : List Change)
  | transitionIfCurrent (sessionId : String) (newState : Status) (allowFrom : List Status)
      (expectedFields : List Expected) (changes : List Change)
  | update (sessionId : String) (changes : List Change)
  | updateIfCurrent (sessionId : String) (expectedStatus : Status) (expectedFields : List Expected)
      (event : Option SessionStore.EventDraft) (changes : List Change)
  | appendEvent (sessionId eventType : String) (reasonCode : Option String) (payload : Json) (origin : String)
      (occurredAt : Option Timestamp)
  | setAudioDesired (sessionId : String) (mode : AudioMode) (expectedVersion : ℕ) (idempotencyKey operator : String)
  | bindNode (sessionId nodeId bootId providerServerId : String)
  | recordNodeHeartbeat (sessionId nodeId bootId : String) (observedAt : Timestamp) (nodeReady : Bool)
  | applyIngestObservation (sessionId nodeId : String) (eventTypes : List String)
      (observation : SessionStore.IngestObservation) (occurredAt : Timestamp)
  | applyRelayClientObservation (sessionId nodeId : String) (eventTypes : List String)
      (observation : SessionStore.RelayClientObservation)
  | claimOrphanCleanup (sessionId resourceId : String) (resourceKind : ResourceKind)
  | orphanCleanupStillOwned (sessionId : String) (leaseId : Uuid)
  | releaseOrphanCleanup (sessionId : String) (leaseId : Uuid)
  | claimSessionCleanup (sessionId : String)
  | sessionCleanupStillOwned (sessionId : String) (leaseId : Uuid)
  | releaseSessionCleanup (sessionId : String) (leaseId : Uuid)

namespace StoreOp

abbrev Res : StoreOp → Type
  | get _ | getPrepareReplay _ _ _ _ | requestStopIfCurrent _ _ _ | transitionIfCurrent _ _ _ _ _
  | updateIfCurrent _ _ _ _ _ => Option Session
  | create _ _ _ | reservePrepareSlot _ _ _ _ _ | claimProvisioning _ _ _ | provisioningCheckpoint _ _ _ _ _
  | requestStop _ | transition _ _ _ _ | update _ _ | bindNode _ _ _ _ | applyIngestObservation _ _ _ _ _
  | applyRelayClientObservation _ _ _ _ => Session
  | beginPrepare _ _ _ _ _ _ => Session × Bool
  | authoritativeSnapshot | findByProviderServerId _ _ | sessionsInStates _ => List Session
  | appendEvent _ _ _ _ _ _ | releaseOrphanCleanup _ _ | releaseSessionCleanup _ _ => Unit
  | setAudioDesired _ _ _ _ _ => MediaControlAudio
  | recordNodeHeartbeat _ _ _ _ _ | orphanCleanupStillOwned _ _ | sessionCleanupStillOwned _ _ => Bool
  | claimOrphanCleanup _ _ _ | claimSessionCleanup _ => Option Uuid

/-- The transaction of a call. -/
def run (clock : ℕ → PyFloat) (fresh : Uuid) (s : SessionStore) : (o : StoreOp) → Except Exc (o.Res × SessionStore)
  | get sid => .ok (s.session? sid, s)
  | create sid user env => s.create sid user env clock
  | reservePrepareSlot sid user env ent max => s.reservePrepareSlot sid user env ent max clock
  | beginPrepare sid user request ent max key => s.beginPrepare sid user request ent max key clock
  | getPrepareReplay sid user request key => (s.getPrepareReplay sid user request key).map (·, s)
  | authoritativeSnapshot => s.authoritativeSnapshot.map (·, s)
  | findByProviderServerId server states => .ok (s.findByProviderServerId server states, s)
  | sessionsInStates states => .ok (s.sessionsInStates states, s)
  | claimProvisioning sid op started => s.claimProvisioning sid op started clock
  | provisioningCheckpoint sid op next complete changes => s.provisioningCheckpoint sid op next complete changes clock
  | requestStop sid => s.requestStop sid clock
  | requestStopIfCurrent sid status fields => s.requestStopIfCurrent sid status fields clock
  | transition sid new allowed changes => s.transition sid new allowed changes clock
  | transitionIfCurrent sid new allowed fields changes => s.transitionIfCurrent sid new allowed fields changes clock
  | update sid changes => s.update sid changes clock
  | updateIfCurrent sid status fields event changes => s.updateIfCurrent sid status fields event changes clock
  | appendEvent sid type reason payload origin occurred => s.appendEvent sid type reason payload origin occurred clock
  | setAudioDesired sid mode version key operator => s.setAudioDesired sid mode version key operator clock fresh
  | bindNode sid node boot server => s.bindNode sid node boot server clock
  | recordNodeHeartbeat sid node boot observed ready => s.recordNodeHeartbeat sid node boot observed ready
  | applyIngestObservation sid node types observation occurred =>
      s.applyIngestObservation sid node types observation occurred
  | applyRelayClientObservation sid node types observation =>
      s.applyRelayClientObservation sid node types observation clock
  | claimOrphanCleanup sid resource kind => s.claimOrphanCleanup sid resource kind clock fresh
  | orphanCleanupStillOwned sid lease => (s.orphanCleanupStillOwned sid lease clock).map (·, s)
  | releaseOrphanCleanup sid lease => (s.releaseOrphanCleanup sid lease).map ((), ·)
  | claimSessionCleanup sid => s.claimSessionCleanup sid clock fresh
  | sessionCleanupStillOwned sid lease => (s.sessionCleanupStillOwned sid lease clock).map (·, s)
  | releaseSessionCleanup sid lease => (s.releaseSessionCleanup sid lease).map ((), ·)

end StoreOp

/-- A call of any authority, a look at the clock, or the drawing of an identifier. -/
inductive Op where
  | store (op : StoreOp)
  | issue (sessionId userId : String) (scope : CredentialScope) (protocols : List Protocol) (ttlSeconds : ℚ)
      (now : Timestamp)
  | revokeSession (sessionId : String)
  | listVolumes
  | listServers
  | listManagedResources
  | createVolume (name : String) (sizeGb : ℕ) (tags : Tags)
  | createServer (name imageRef flavorRef volumeId : String) (tags : Tags)
  | deleteVolume (volumeId : String)
  | deleteServer (serverId : String)
  | readAuthority
  | writeTokenFuse (digest nodeId sessionId : String) (consumedAt : Timestamp)
  | writeAuthority (authority : NodeAuthority)
  | time
  | uuid

abbrev Op.Res : Op → Type
  | .store o => o.Res
  | .issue _ _ _ _ _ _ => Credential
  | .revokeSession _ => ℕ
  | .listVolumes => List ProviderVolume
  | .listServers => List ProviderServer
  | .listManagedResources => List ManagedResource
  | .createVolume _ _ _ => ProviderVolume
  | .createServer _ _ _ _ _ => ProviderServer
  | .deleteVolume _ | .deleteServer _ | .writeTokenFuse _ _ _ _ | .writeAuthority _ => Unit
  | .readAuthority => NodeAuthority
  | .time => PyFloat
  | .uuid => Uuid

/-- What all programs share. The token fuse is the ledger of the former build, which bootstrap writes ahead. -/
structure World where
  store : SessionStore
  credentials : List Credential
  inventory : Inventory
  authority : NodeAuthority
  fuse : TokenLedger
  serial : ℕ

/-- What the environment supplies to a call: the clock readings it sees, the error it meets instead of
    its effect, and, for a call of the provider, whether the error comes after the effect. -/
structure Input where
  clock : ℕ → PyFloat
  fault : Option String
  late : Bool

namespace World

/-- A call of the provider, which is a remote service. -/
def callProvider {α : Type} (w : World) (x : Input) (result : α) (inventory : Inventory) : Except Exc α × World :=
  match x.fault with
  | some message =>
    (.error (.providerError message), if x.late then { w with inventory := inventory } else w)
  | none => (.ok result, { w with inventory := inventory })

/-- A transaction of one of the stores. -/
def transact {α σ : Type} (w : World) (fault : Option Exc) (run : Except Exc (α × σ)) (set : σ → World) :
    Except Exc α × World :=
  match fault, run with
  | some e, _ => (.error e, w)
  | none, .ok (result, s) => (.ok result, set s)
  | none, .error e => (.error e, w)

/-- One call by task `i`. Every call uses up one serial number. -/
def exec : Exec Op Op.Res Exc Input World := fun i o x w =>
  let fresh : Uuid := ⟨i, w.serial⟩
  let w := { w with serial := w.serial + 1 }
  match o with
  | .store o =>
    w.transact (x.fault.map .sessionStateError) (o.run x.clock fresh w.store) fun s => { w with store := s }
  | .issue sid user scope protocols ttl now =>
    w.transact (x.fault.map .ingestCredentialError)
      (issueCredential w.credentials sid user scope protocols ttl now fresh) fun l => { w with credentials := l }
  | .revokeSession sid =>
    w.transact (x.fault.map .ingestCredentialError)
      (revokeSessionCredentials w.credentials sid (x.clock 0)) fun l => { w with credentials := l }
  | .listVolumes => w.callProvider x w.inventory.volumes w.inventory
  | .listServers => w.callProvider x w.inventory.servers w.inventory
  | .listManagedResources => w.callProvider x w.inventory.managedResources w.inventory
  | .createVolume name sizeGb tags =>
    let volume : ProviderVolume := { volumeId := fresh.str, name := name, sizeGb := sizeGb, tags := tags }
    w.callProvider x volume { w.inventory with volumes := w.inventory.volumes ++ [volume] }
  | .createServer name imageRef flavorRef volumeId tags =>
    let server : ProviderServer :=
      { serverId := fresh.str, name := name, imageRef := imageRef, flavorRef := flavorRef, volumeId := volumeId,
        publicIpv4 := some "198.51.100.7", tags := tags }
    w.callProvider x server { w.inventory with servers := w.inventory.servers ++ [server] }
  | .deleteVolume id =>
    w.callProvider x () { w.inventory with volumes := w.inventory.volumes.filter (·.volumeId ≠ id) }
  | .deleteServer id =>
    w.callProvider x () { w.inventory with servers := w.inventory.servers.filter (·.serverId ≠ id) }
  | .readAuthority => w.transact (x.fault.map .nodeStateError) (.ok (w.authority.withFuse w.fuse, ())) fun _ => w
  | .writeTokenFuse digest nodeId sid consumedAt =>
    w.transact (x.fault.map .nodeStateError) (.ok ((), w.fuse.insert digest ⟨consumedAt, nodeId, sid, none⟩))
      fun fuse => { w with fuse := fuse }
  | .writeAuthority a =>
    w.transact (x.fault.map .nodeStateError) (a.validate.map fun _ => ((), a)) fun a => { w with authority := a }
  | .time => (.ok (x.clock 0), w)
  | .uuid => (.ok fresh, w)

/-- Before anything happened. -/
def initial (recoveryStableSeconds : Timestamp) : World :=
  { store :=
      { sessions := ∅, orphanCleanupLeases := ∅, authoritative := false,
        recoveryStableSeconds := recoveryStableSeconds }
    credentials := []
    inventory := ⟨[], []⟩
    authority := { nodes := ∅, tokens := ∅, nextNodeSeq := 1 }
    fuse := ∅
    serial := 0 }

end World

/-- A program of the Control API. -/
abbrev Control := Prog Op Op.Res Exc

end IRLight
