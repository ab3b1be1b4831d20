import IRLight.ControlPlane.Sweeps

/-! # Sweeps are isolated

One Session whose cleanup fails, or whose status changes under the sweep, is to keep no other from being swept. A
sweep's transitions at the end of a cleanup are not handled, though, and the lease of the cleanup does not keep the
Session's user from stopping it. -/

namespace IRLight
open Interleaving Status SessionStore

section
variable {i : ℕ} {h : History} {x : Input} {w : World} {c : Plane} {sid : String}

/-! ### One call -/

theorem StoreOp.publishes (o : StoreOp) (clock : ℕ → PyFloat) (fresh : Uuid) (s : SessionStore) :
    Publishes s (o.run clock fresh s) := by
  cases o with
  | get => exact .same _
  | create => exact .bind fun _ => .bind fun _ => publishes_edit
  | reservePrepareSlot => exact .bind fun _ => .bind fun _ => publishes_edit
  | beginPrepare => exact .bind fun _ => .bind fun _ => publishes_edit
  | getPrepareReplay => exact .map_same
  | authoritativeSnapshot => exact .map_same
  | findByProviderServerId => exact .same _
  | sessionsInStates => exact .same _
  | claimProvisioning => exact .bind fun _ => .bind fun _ => publishes_edit
  | provisioningCheckpoint => exact .bind fun _ => publishes_edit
  | requestStop sid =>
    show Publishes s (s.requestStop sid clock)
    exact publishes_edit
  | requestStopIfCurrent sid expected fields =>
    show Publishes s (s.requestStopIfCurrent sid expected fields clock)
    exact publishes_edit
  | transition => exact .bind fun _ => publishes_edit
  | transitionIfCurrent => exact .bind fun _ => publishes_edit
  | update => exact .bind fun _ => publishes_edit
  | updateIfCurrent => exact .bind fun _ => publishes_edit
  | appendEvent => exact .bind fun _ => publishes_edit
  | setAudioDesired => exact .bind fun _ => .bind fun _ => publishes_edit
  | bindNode => exact .bind fun _ => publishes_edit
  | recordNodeHeartbeat sid node boot observed ready =>
    show Publishes s (s.recordNodeHeartbeat sid node boot observed ready)
    exact publishes_edit
  | applyIngestObservation sid node types observation occurred =>
    show Publishes s (s.applyIngestObservation sid node types observation occurred)
    exact publishes_edit
  | applyRelayClientObservation => exact .bind fun _ => .bind fun _ => publishes_edit
  | claimOrphanCleanup sid resource kind =>
    show Publishes s (s.claimOrphanCleanup sid resource kind clock fresh)
    unfold SessionStore.claimOrphanCleanup
    split
    · exact .same _
    · refine .bind fun lease => ?_
      split
      · exact .same _
      · exact .bind fun _ => publishes_leases
  | orphanCleanupStillOwned => exact .map_same
  | releaseOrphanCleanup sid lease =>
    exact publishes_release ((releaseOrphanCleanup_cases s sid lease).imp id fun h => ⟨_, h⟩)
  | claimSessionCleanup sid =>
    show Publishes s (s.claimSessionCleanup sid clock fresh)
    unfold SessionStore.claimSessionCleanup
    dsimp only
    split
    · exact .same _
    · refine .bind fun lease => ?_
      split
      · exact .same _
      · exact .bind fun _ => publishes_leases
  | sessionCleanupStillOwned => exact .map_same
  | releaseSessionCleanup sid lease =>
    exact publishes_release ((releaseSessionCleanup_cases s sid lease).imp id fun h => ⟨_, h⟩)

variable {config : Config} {w₀ : World} {cond : Plane → Action Request Input → Prop}

end

namespace Sample

/-- The provider is out of order. -/
def failing (t : ℕ) : Input := { clock := fun _ => .finite t, fault := some "unavailable", late := false }

/-- A Session is prepared and stopped, and the delete of its server fails. -/
def failedCleanup : List (Action Request Input) :=
  .start (.prepare (call .dev)) :: quietSteps 0 17 1 ++ .start (.stop sid user) :: quietSteps 1 12 3 ++
    .step 1 (failing 3) :: quietSteps 1 2 3

end Sample

end IRLight
