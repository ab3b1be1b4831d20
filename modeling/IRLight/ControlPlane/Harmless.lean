import IRLight.ControlPlane.Obedience

/-! # Harmless programs

Reads, leases of orphans, deletes and what the Node reports: calls that are permitted at any time, and the
programs that make no others. -/

namespace IRLight
open Interleaving Status Call

/-- A call that neither moves a Session nor takes part in its cleanup, but for the failure of its pipeline. -/
def Op.Harmless : Op → Prop
  | .store (.update _ changes) => ∃ status connected reason updatedAt, changes = [.egress status connected reason updatedAt]
  | .store (.transition _ new allowed changes) => new = failedCleanup ∧ allowed = activeStates ∧
      ∃ reason code, changes = [.cleanupPending true, .failureReason reason, .failureReasonCode code]
  | .store (.create _ _ _) | .store (.claimProvisioning _ _ _) | .store (.provisioningCheckpoint _ _ _ _ _)
  | .store (.requestStopIfCurrent _ _ _) | .store (.transitionIfCurrent _ _ _ _ _) | .store (.updateIfCurrent _ _ _ _ _)
  | .store (.claimSessionCleanup _) | .store (.releaseSessionCleanup _ _) | .issue _ _ _ _ _ _ | .createVolume _ _ _
  | .createServer _ _ _ _ _ => False
  | _ => True

theorem Op.Harmless.free {o : Op} (h : o.Harmless) : o.Free := by
  intro apiOnly i hist w
  cases o with
  | store so =>
    cases so with
    | update =>
      obtain ⟨_, _, _, _, rfl⟩ := h
      exact Or.inl (by simp [Change.plain])
    | transition =>
      obtain ⟨rfl, rfl, _, _, rfl⟩ := h
      exact ⟨⟨by simp [Change.tame], rfl⟩, Or.inl ⟨rfl, fun _ h => List.mem_append_left _ h⟩⟩
    | create => cases h
    | claimProvisioning => cases h
    | provisioningCheckpoint => cases h
    | requestStopIfCurrent => cases h
    | transitionIfCurrent => cases h
    | updateIfCurrent => cases h
    | _ => trivial
  | issue => cases h
  | createVolume => cases h
  | createServer => cases h
  | _ => trivial

/-- A harmless call that takes no part in the cleanup of orphans, and deletes nothing unless it may. -/
def Op.Mild (deletes : Bool) : Op → Prop
  | .store (.claimOrphanCleanup _ _ _) | .store (.releaseOrphanCleanup _ _) => False
  | .deleteVolume _ | .deleteServer _ => deletes = true
  | o => o.Harmless

theorem Op.Mild.harmless {deletes : Bool} {o : Op} (h : o.Mild deletes) : o.Harmless := by
  unfold Mild at h
  split at h
  · cases h
  · cases h
  · trivial
  · trivial
  · exact h

theorem deleteEach_mild {stillOwned : Control Bool} {delete : String → Control Unit} (hs : stillOwned.Only (Op.Mild true))
    (hd : ∀ id, (delete id).Only (Op.Mild true)) (resources : List ManagedResource) (ok : Bool) :
    (deleteEach stillOwned delete resources ok).Only (Op.Mild true) := by
  induction resources generalizing ok with
  | nil => exact .done _
  | cons resource resources ih =>
    unfold deleteEach
    refine .bind hs fun owned => ?_
    split
    · exact .done _
    · refine .bind (hd _).attempt fun r => ?_
      split
      · exact ih ok
      · exact ih false

theorem deleteInOrder_mild {inventory : Control (List ManagedResource)} (hi : inventory.Only (Op.Mild true)) (sid : String)
    (lease : Uuid) : (deleteInOrder inventory sid lease).Only (Op.Mild true) := by
  have hstill : (store (.sessionCleanupStillOwned sid lease)).Only (Op.Mild true) := .op trivial
  have hserver : ∀ id, (call (.deleteServer id)).Only (Op.Mild true) := fun _ => .op (Eq.refl true)
  have hvolume : ∀ id, (call (.deleteVolume id)).Only (Op.Mild true) := fun _ => .op (Eq.refl true)
  unfold deleteInOrder
  refine .bind hi fun resources => .bind (deleteEach_mild hstill hserver _ _) fun r => ?_
  split
  · refine .bind hi fun remaining => ?_
    split
    · exact .done _
    · exact .bind (deleteEach_mild hstill hvolume _ _) fun _ => .done _
  · exact .done _

theorem Workflow.resourceEnvironment_mild (resource : ManagedResource) (expected : String) :
    (resourceEnvironment resource expected).Only (Op.Mild true) := by
  unfold resourceEnvironment
  split
  · exact .done _
  · exact .bind (.op trivial) fun _ => .bind (.op trivial) fun _ => .done _

theorem Workflow.cleanupResources_mild (sid : String) (lease : Uuid) : (cleanupResources sid lease).Only (Op.Mild true) := by
  unfold cleanupResources
  refine .bind (.op trivial) fun current => deleteInOrder_mild ?_ sid lease
  unfold ownedResources
  refine .bind (.op trivial) fun resources => .forFold fun owned resource _ => ?_
  split
  · refine .bind (resourceEnvironment_mild _ _) fun b => ?_
    split <;> exact .done _
  · exact .done _

theorem Reaper.cleanupResources_mild (sid : String) (lease : Uuid) : (cleanupResources sid lease).Only (Op.Mild true) := by
  unfold cleanupResources
  refine deleteInOrder_mild ?_ sid lease
  exact .bind (.op trivial) fun _ => .done _

theorem Reaper.cleanupOrphanResource_harmless (resource : ManagedResource) (sid : String) :
    (cleanupOrphanResource resource sid).Only Op.Harmless := by
  unfold cleanupOrphanResource
  refine .bind (.attempt (.op trivial)) fun r => ?_
  split
  · split <;> exact .done _
  · exact .done _
  · rename_i lease
    refine .bind (.tryExcept ?_ fun _ => .done _) fun deleted =>
      .bind (.tryExcept (.op trivial) fun exc => ?_) fun _ => .done _
    · unfold deleteOrphan
      refine .bind (.op trivial) fun latest => ?_
      dsimp only
      split
      · exact .done _
      · refine .bind (.op trivial) fun owned => ?_
        split
        · exact .done _
        · split
          · exact .done _
          · split
            · exact .bind (.op trivial) fun _ => .done _
            · exact .bind (.op trivial) fun _ => .done _
    · split <;> exact .done _

theorem Reaper.cleanupOrphans_harmless (config : ReaperConfig) (now : Timestamp) :
    (cleanupOrphans config now).Only Op.Harmless := by
  unfold cleanupOrphans
  refine .bind (.attempt (.op trivial)) fun r => ?_
  split
  · split <;> exact .done _
  · refine .bind (.op trivial) fun resources => .forFold fun cleaned resource _ =>
      .bind (cleanupOrphanResource_harmless _ _) fun b => ?_
    split <;> exact .done _

namespace NodeApi

theorem bootstrap_mild (config : NodeConfig) (authorization : Authorization) (request : BootstrapRequest)
    (delivery : Except Exc Unit) : (bootstrap config authorization request delivery).Only (Op.Mild false) := by
  unfold bootstrap
  refine .bind (.ofExcept _) fun digest => .bind (.ofExcept _) fun _ => .bind (.op trivial) fun authority => ?_
  split
  · unfold replayBootstrap
    split
    · refine .bind (.ofExcept _) fun _ => ?_
      split
      · exact .bind (.op trivial) fun session => .bind (.ofExcept _) fun _ => .ofExcept _
      · exact .ofExcept _
    · exact .done _
  · refine .bind (.op trivial) fun reading => .bind (.ofExcept _) fun bootstrapAt => .bind ?_ fun session =>
      .bind ?_ fun sessionId => .bind ?_ fun _ => .bind (.op trivial) fun _ => .bind (.op trivial) fun _ => .ofExcept _
    · unfold resolveAssignedSession
      refine .bind (.op trivial) fun found => ?_
      split
      · split <;> exact .done _
      · exact .done _
      · exact .done _
    · split
      · exact .done _
      · exact .bind (.op trivial) fun _ => .done _
    · unfold bindAssigned
      split
      · exact .done _
      · refine .bind (.tryExcept (.op trivial) fun exc => ?_) fun _ => .done _
        split <;> split <;> exact .done _

theorem reporting_mild {p : Control Unit} (hp : p.Only (Op.Mild false)) : (reporting p).Only (Op.Mild false) := by
  unfold reporting
  refine .tryExcept (.bind hp fun _ => .done _) fun exc => ?_
  split <;> split <;> exact .done _

theorem applyEgressToSession_mild (sid node : String) (types : List String) (current : EgressObservation)
    (occurredAt : Timestamp) : (applyEgressToSession sid node types current occurredAt).Only (Op.Mild false) := by
  unfold applyEgressToSession
  refine .bind (.op trivial) fun session => ?_
  split
  · refine .bind (.ofExcept _) fun _ => ?_
    split
    · exact .done _
    · refine .bind (.forFold fun _ _ _ => .op trivial) fun _ => .bind (.op ?_) fun _ => .done _
      exact ⟨_, _, _, _, rfl⟩
  · exact .done _

theorem latchPipelineFailure_mild (nodeId : String) (node : Node) (mediaHealth : String) (since current : Timestamp) :
    (latchPipelineFailure nodeId node mediaHealth since current).Only (Op.Mild false) := by
  unfold latchPipelineFailure
  refine .bind (.attempt (.op trivial)) fun r => ?_
  split
  · exact .done _
  · exact .done _
  · split
    · exact .done _
    · split
      · exact .done _
      · refine .bind (.attempt (.op ?_)) fun r => ?_
        · exact ⟨rfl, rfl, _, _, rfl⟩
        · split
          · exact .done _
          · refine .bind (.attempt (.op trivial)) fun r => ?_
            split <;> exact .done _

theorem reportPipeline_mild (config : NodeConfig) (nodeId : String) (node : Node) (request : HeartbeatRequest)
    (observedAt : Timestamp) : (reportPipeline config nodeId node request observedAt).Only (Op.Mild false) := by
  unfold reportPipeline
  refine .bind ?_ fun r => ?_
  · unfold applyPipelineHealth
    dsimp only
    split
    · exact .done _
    · split
      · exact .done _
      · split
        · exact .done _
        · exact latchPipelineFailure_mild _ _ _ _ _
  · split
    · exact .done _
    · split <;> split <;> exact .done _

theorem report_mild (config : NodeConfig) (nodeId : String) (node : Node) (request : HeartbeatRequest)
    (observedAt : Timestamp) : (report config nodeId node request observedAt).Only (Op.Mild false) := by
  unfold report
  refine .bind ?_ fun node => .bind ?_ fun node => .bind ?_ fun node => ?_
  · split
    · unfold reportIngest
      dsimp only
      split
      · exact .done _
      · exact .bind (reporting_mild (.bind (.op trivial) fun _ => .done _)) fun _ => .done _
    · exact .done _
  · split
    · unfold reportEgress
      dsimp only
      split
      · exact .done _
      · exact .bind (reporting_mild (applyEgressToSession_mild _ _ _ _ _)) fun _ => .done _
    · exact .done _
  · split
    · unfold reportRelayClient
      dsimp only
      split
      · exact .done _
      · exact .bind (reporting_mild (.bind (.op trivial) fun _ => .done _)) fun _ => .done _
    · exact .done _
  · split
    · exact reportPipeline_mild _ _ _ _ _
    · exact .done _

theorem heartbeat_mild (config : NodeConfig) (nodeId : String) (authorization : Authorization)
    (request : HeartbeatRequest) : (heartbeat config nodeId authorization request).Only (Op.Mild false) := by
  unfold heartbeat
  refine .bind (.op trivial) fun authority => ?_
  split
  · refine .bind (.ofExcept _) fun _ => .bind (.op trivial) fun reading => .bind (.ofExcept _) fun observedAt =>
      .bind ?_ fun _ => .bind (report_mild _ _ _ _ _) fun node => .bind (.op trivial) fun _ => .done _
    unfold recordHeartbeat
    split
    · exact .bind (.op trivial) fun recorded => .ofExcept _
    · exact .done _
  · exact .done _

theorem stopNode_mild (nodeId : String) : (stopNode nodeId).Only (Op.Mild false) := by
  unfold stopNode
  refine .bind (.op trivial) fun authority => ?_
  split
  · exact .op trivial
  · exact .done _

end NodeApi

namespace Api
variable {sid user : String}

theorem answering_mild {α : Type} {p : Control α} {answer : Exc → Exc} (hp : p.Only (Op.Mild false)) :
    (answering p answer).Only (Op.Mild false) :=
  .tryExcept hp fun _ => .done _

theorem ownedSession_mild : (ownedSession sid user).Only (Op.Mild false) := by
  unfold ownedSession
  refine .bind (.tryExcept (.op trivial) fun exc => ?_) fun session => ?_
  · split <;> exact .done _
  · split
    · split <;> exact .done _
    · exact .done _

theorem addSessionEvent_mild {type : String} {reason : Option String} {payload : Json} :
    (addSessionEvent sid user type reason payload).Only (Op.Mild false) :=
  .bind ownedSession_mild fun _ => answering_mild (.op trivial)

theorem setSessionAudio_mild {mode : AudioMode} {version : ℕ} {key : Option String} :
    (setSessionAudio sid user mode version key).Only (Op.Mild false) := by
  unfold setSessionAudio
  refine .bind ownedSession_mild fun _ => ?_
  split
  · exact .done _
  · exact .done _
  · exact answering_mild (.op trivial)

end Api
end IRLight
