import IRLight.ControlPlane.System

/-! # Who calls what

Only the requests of Nodes write the Node registry, its token fuse and what a Session knows of its Node. -/

namespace IRLight
open Interleaving Status Call

/-- The request comes from a Node, or from an administrator about one. -/
def Request.isNode : Request → Bool
  | .bootstrap _ _ _ | .heartbeat _ _ _ | .stopNode _ => true
  | _ => false

def Request.isBootstrap : Request → Bool
  | .bootstrap _ _ _ => true
  | _ => false

def Request.isHeartbeat : Request → Bool
  | .heartbeat _ _ _ => true
  | _ => false

theorem Request.isNode_of_isBootstrap {q : Request} (h : q.isBootstrap) : q.isNode := by
  cases q <;> first | rfl | cases h

theorem Request.isNode_of_isHeartbeat {q : Request} (h : q.isHeartbeat) : q.isNode := by
  cases q <;> first | rfl | cases h

theorem Request.not_isBootstrap_of_isHeartbeat {q : Request} (h : q.isHeartbeat) : ¬q.isBootstrap := by
  cases q <;> first | exact Bool.false_ne_true | cases h

/-- A call that only requests about Nodes make. -/
def Op.ofNode : Op → Bool
  | .writeTokenFuse _ _ _ _ | .writeAuthority _ => true
  | .store (.bindNode _ _ _ _) | .store (.recordNodeHeartbeat _ _ _ _ _) => true
  | .store (.applyIngestObservation _ _ _ _ _) | .store (.applyRelayClientObservation _ _ _ _) => true
  | _ => false

/-- The program makes no call of a Node request. -/
abbrev NodeFree {α : Type} (p : Control α) : Prop := p.Only fun o => o.ofNode = false

variable {sid user : String}

/-! ### Cleanup -/

theorem deleteEach_nodeFree {stillOwned : Control Bool} {delete : String → Control Unit} (hs : NodeFree stillOwned)
    (hd : ∀ id, NodeFree (delete id)) (resources : List ManagedResource) (ok : Bool) :
    NodeFree (deleteEach stillOwned delete resources ok) := by
  induction resources generalizing ok with
  | nil => exact .done _
  | cons resource resources ih =>
    refine .bind hs fun owned => ?_
    split
    · exact .done _
    · refine .bind (hd _).attempt fun r => ?_
      split
      · exact ih ok
      · exact ih false

theorem deleteInOrder_nodeFree {inventory : Control (List ManagedResource)} (hi : NodeFree inventory) (lease : Uuid) :
    NodeFree (deleteInOrder inventory sid lease) := by
  have hstill : NodeFree (store (.sessionCleanupStillOwned sid lease)) := .op rfl
  have hserver : ∀ id, NodeFree (call (.deleteServer id)) := fun _ => .op rfl
  have hvolume : ∀ id, NodeFree (call (.deleteVolume id)) := fun _ => .op rfl
  refine .bind hi fun resources => .bind (deleteEach_nodeFree hstill hserver _ _) fun r => ?_
  split
  · refine .bind hi fun remaining => ?_
    split
    · exact .done _
    · exact .bind (deleteEach_nodeFree hstill hvolume _ _) fun _ => .done _
  · exact .done _

namespace Workflow

theorem cleanupResources_nodeFree (lease : Uuid) : NodeFree (cleanupResources sid lease) := by
  refine .bind (.op rfl) fun current => deleteInOrder_nodeFree ?_ lease
  refine .bind (.op rfl) fun resources => .forFold fun owned resource _ => ?_
  split
  · refine .bind ?_ fun b => ?_
    · unfold resourceEnvironment
      split
      · exact .done _
      · exact .bind (.op rfl) fun _ => .bind (.op rfl) fun _ => .done _
    · split <;> exact .done _
  · exact .done _

theorem finishCancelledProvisioning_nodeFree : NodeFree (finishCancelledProvisioning sid) := by
  refine .bind (.op rfl) fun found => ?_
  split
  · split
    · exact .done _
    · refine .bind (.op rfl) fun _ => .bind (.op rfl) fun r => ?_
      split
      · exact .done _
      · refine .tryFinally (.bind (cleanupResources_nodeFree _) fun cleaned => .bind (.op rfl) fun found => ?_) (.op rfl)
        split
        · split
          · split <;> exact .op rfl
          · split
            · split <;> exact .op rfl
            · exact .done _
        · exact .done _
  · exact .done _

theorem cleanupFailed_nodeFree : NodeFree (cleanupFailed sid) := by
  refine .bind (.attempt (.op rfl)) fun _ => .bind (.op rfl) fun r => ?_
  split
  · exact .done _
  · refine .tryFinally (.bind (cleanupResources_nodeFree _) fun cleaned => ?_) (.op rfl)
    split
    · exact .bind (.attempt (.op rfl)) fun _ => .done _
    · exact .done _

theorem handlePrepareError_nodeFree (claimed : Bool) (exc : Exc) : NodeFree (handlePrepareError sid claimed exc) := by
  unfold handlePrepareError
  split
  · split
    · refine .bind (.op rfl) fun r => ?_
      split
      · exact finishCancelledProvisioning_nodeFree
      · exact .done _
    · exact .done _
  · refine .bind (.op rfl) fun r => ?_
    split
    · exact finishCancelledProvisioning_nodeFree
    · refine .bind (.attempt (.op rfl)) fun r => ?_
      split
      · exact .bind cleanupFailed_nodeFree fun _ => .done _
      · exact .done _

theorem checkpoint_nodeFree {op : Uuid} {next : Option Status} {changes : List Change} {k : Session → Control Session}
    (hk : ∀ r, NodeFree (k r)) : NodeFree (checkpoint sid op next changes k) := by
  refine .bind (.op rfl) fun session => ?_
  split
  · exact finishCancelledProvisioning_nodeFree
  · exact hk session

theorem provision_nodeFree (config : WorkflowConfig) (env : Environment) (op : Uuid) :
    NodeFree (provision config sid user env op) := by
  refine .bind ?_ fun volume => checkpoint_nodeFree fun _ => .bind ?_ fun server => checkpoint_nodeFree fun _ =>
    checkpoint_nodeFree fun session => ?_
  · refine .bind (.op rfl) fun volumes => ?_
    split
    · exact .done _
    · refine .bind (.op rfl) fun reading => ?_
      split
      · exact .op rfl
      · exact .done _
  · refine .bind (.op rfl) fun servers => ?_
    split
    · exact .done _
    · refine .bind (.op rfl) fun reading => ?_
      split
      · exact .op rfl
      · exact .done _
  · split
    · exact .done _
    · exact .bind (.op rfl) fun _ => .op rfl

theorem prepare_nodeFree (config : WorkflowConfig) (user : Option String) (env : Environment) :
    NodeFree (prepare config sid user env) := by
  refine .bind (.bind (.op rfl) fun found => ?_) fun session => ?_
  · split
    · exact .done _
    · exact .op rfl
  · split
    · exact .done _
    · refine .bind (.ofExcept _) fun _ => .bind (.op rfl) fun op => .bind (.op rfl) fun started =>
        .bind (.attempt (.op rfl)) fun claim => ?_
      cases claim with
      | ok r => exact .tryExcept (provision_nodeFree _ _ _) fun _ => handlePrepareError_nodeFree _ _
      | error exc => exact handlePrepareError_nodeFree _ _

theorem stop_nodeFree : NodeFree (stop sid) := by
  refine .bind (.op rfl) fun found => ?_
  split
  · split
    · exact .bind (.op rfl) fun _ => .done _
    · refine .bind (.op rfl) fun session => .bind (.op rfl) fun _ => ?_
      split
      · exact .done _
      · refine .bind (.op rfl) fun r => ?_
        split
        · exact .bind (.op rfl) fun _ => .done _
        · refine .tryFinally (.bind (cleanupResources_nodeFree _) fun cleaned => ?_) (.op rfl)
          split
          · exact .op rfl
          · exact .op rfl
  · exact .done _

end Workflow

/-! ### The Reaper -/

namespace Reaper
variable {code : String} {now : Timestamp}

theorem cleanupResources_nodeFree (lease : Uuid) : NodeFree (cleanupResources sid lease) :=
  deleteInOrder_nodeFree (.bind (.op rfl) fun _ => .done _) lease

theorem finishFailed_nodeFree (reason : Json) : NodeFree (finishFailed sid code reason now) :=
  .bind (.op rfl) fun _ => .op rfl

theorem failAndCleanup_nodeFree {reason : String} {expected : Status} {fields : List Expected} :
    NodeFree (failAndCleanup sid reason code expected fields now) := by
  refine .bind (.attempt (.op rfl)) fun r => ?_
  split
  · exact .done _
  · exact .done _
  · refine .bind (.attempt (.op rfl)) fun r => ?_
    split
    · exact .done _
    · refine .bind (.op rfl) fun r => ?_
      split
      · exact .done _
      · refine .bind (.tryFinally (.bind (cleanupResources_nodeFree _) fun cleaned => ?_) (.op rfl)) fun _ => .done _
        split
        · exact finishFailed_nodeFree _
        · exact .done _

theorem cleanupStopped_nodeFree : NodeFree (cleanupStopped sid code now) := by
  refine .bind (.op rfl) fun r => ?_
  split
  · exact .done _
  · refine .bind (.tryFinally (.bind (cleanupResources_nodeFree _) fun cleaned => ?_) (.op rfl)) fun _ => .done _
    split
    · exact .bind (.op rfl) fun _ => .done _
    · exact .bind (.op rfl) fun _ => .op rfl

theorem afterStopRequest_nodeFree (config : ReaperConfig) (fromState : Option Status) (session : Session) :
    NodeFree (afterStopRequest config sid code fromState session now) := by
  unfold afterStopRequest
  split
  · exact .done _
  · refine .bind (.attempt (.op rfl)) fun r => ?_
    split
    · exact .done _
    · refine .bind ?_ fun _ => ?_
      · split
        · exact .op rfl
        · exact .done _
      · split
        · split
          · exact .done _
          · exact .bind (.op rfl) fun _ => cleanupStopped_nodeFree
        · exact cleanupStopped_nodeFree

theorem stopAndCleanupIfCurrent_nodeFree (config : ReaperConfig) {expected : Status} {fields : List Expected} :
    NodeFree (stopAndCleanupIfCurrent config sid code expected fields now) := by
  refine .bind (.attempt (.op rfl)) fun r => ?_
  split
  · exact .done _
  · exact .done _
  · exact afterStopRequest_nodeFree _ _ _

theorem stopAndCleanup_nodeFree (config : ReaperConfig) : NodeFree (stopAndCleanup config sid code now) := by
  refine .bind (.op rfl) fun before => .bind (.attempt (.op rfl)) fun r => ?_
  split
  · exact .done _
  · exact afterStopRequest_nodeFree _ _ _

theorem failMissingHeartbeat_nodeFree (config : ReaperConfig) (session : Session) (last : Option Timestamp) :
    NodeFree (failMissingHeartbeat config session last now) := by
  refine .bind (.attempt (.op rfl)) fun r => ?_
  split
  · exact .done _
  · exact .done _
  · refine .bind (.op rfl) fun _ => .bind (.attempt (.op rfl)) fun r => ?_
    split <;> exact .done _

theorem stopHolding_nodeFree (config : ReaperConfig) (result : SweepResult) (session : Session) (deadline : Timestamp) :
    NodeFree (stopHolding config now result session deadline) := by
  unfold stopHolding
  split
  · refine .bind (stopAndCleanupIfCurrent_nodeFree _) fun b => ?_
    split <;> exact .done _
  · exact .done _

theorem sweepHolding_nodeFree (config : ReaperConfig) (result : SweepResult) : NodeFree (sweepHolding config now result) := by
  refine .bind (.op rfl) fun records => .forFold fun result session _ => ?_
  split
  · exact stopHolding_nodeFree _ _ _ _
  · refine .bind (.bind (.op rfl) fun _ => .done _) fun r => ?_
    split
    · exact .done _
    · exact stopHolding_nodeFree _ _ _ _

theorem sweepHeartbeats_nodeFree (config : ReaperConfig) (result : SweepResult) :
    NodeFree (sweepHeartbeats config now result) := by
  refine .bind (.attempt (.op rfl)) fun r => ?_
  split
  · exact .done _
  · refine .bind (.op rfl) fun records => .forFold fun result session _ => ?_
    split
    · exact .done _
    · split
      · exact .done _
      · refine .bind (failMissingHeartbeat_nodeFree _ _ _) fun b => ?_
        split <;> exact .done _

theorem retryCleanup_nodeFree (session : Session) : NodeFree (retryCleanup session now) := by
  refine .bind (.attempt (.op rfl)) fun r => ?_
  split
  · exact .done _
  · refine .bind (.op rfl) fun r => ?_
    split
    · exact .done _
    · refine .tryFinally (.bind (cleanupResources_nodeFree _) fun cleaned => ?_) (.op rfl)
      split
      · exact finishFailed_nodeFree _
      · exact .done _

theorem cleanupOrphans_nodeFree (config : ReaperConfig) : NodeFree (cleanupOrphans config now) := by
  refine .bind (.attempt (.op rfl)) fun r => ?_
  split
  · split <;> exact .done _
  · refine .bind (.op rfl) fun resources => .forFold fun cleaned resource _ => .bind ?_ fun b => ?_
    · refine .bind (.attempt (.op rfl)) fun r => ?_
      split
      · split <;> exact .done _
      · exact .done _
      · refine .bind (.tryExcept (.bind (.op rfl) fun latest => ?_) fun _ => .done _) fun deleted =>
          .bind (.tryExcept (.op rfl) fun exc => ?_) fun _ => .done _
        · dsimp only
          split
          · exact .done _
          · refine .bind (.op rfl) fun owned => ?_
            split
            · exact .done _
            · split
              · exact .done _
              · split
                · exact .bind (.op rfl) fun _ => .done _
                · exact .bind (.op rfl) fun _ => .done _
        · split <;> exact .done _
    · split <;> exact .done _

theorem run_nodeFree (config : ReaperConfig) : NodeFree (run config) := by
  refine .bind (.bind (.op rfl) fun _ => .ofExcept _) fun now => .bind ?_ fun _ => .bind ?_ fun _ =>
    .bind (sweepHeartbeats_nodeFree _ _) fun _ => .bind ?_ fun _ => .bind (sweepHolding_nodeFree _ _) fun _ =>
    .bind ?_ fun _ => .bind ?_ fun _ => .bind (cleanupOrphans_nodeFree _) fun _ => .done _
  · refine .bind (.op rfl) fun records => .forFold fun result session _ => ?_
    dsimp only
    split
    · refine .bind failAndCleanup_nodeFree fun b => ?_
      split <;> exact .done _
    · exact .done _
  · refine .bind (.op rfl) fun records => .forFold fun result session _ => ?_
    split
    · exact .done _
    · split
      · refine .bind (stopAndCleanupIfCurrent_nodeFree _) fun b => ?_
        split <;> exact .done _
      · exact .done _
  · refine .bind (.op rfl) fun records => .forFold fun result session _ => ?_
    dsimp only
    split
    · refine .bind (stopAndCleanupIfCurrent_nodeFree _) fun b => ?_
      split <;> exact .done _
    · exact .done _
  · exact .bind (.op rfl) fun records => .forFold fun result session _ =>
      .bind (stopAndCleanup_nodeFree _) fun _ => .done _
  · exact .bind (.op rfl) fun records => .forFold fun result session _ =>
      .bind (retryCleanup_nodeFree _) fun _ => .done _

end Reaper

/-! ### The API -/

namespace Api

theorem answering_nodeFree {α : Type} {p : Control α} {answer : Exc → Exc} (hp : NodeFree p) :
    NodeFree (answering p answer) :=
  .tryExcept hp fun _ => .done _

theorem ownedSession_nodeFree : NodeFree (ownedSession sid user) := by
  refine .bind (.tryExcept (.op rfl) fun exc => ?_) fun session => ?_
  · split <;> exact .done _
  · split
    · split <;> exact .done _
    · exact .done _

theorem prepareSession_nodeFree (config : Workflow.WorkflowConfig) (c : PrepareCall) :
    NodeFree (prepareSession config c) := by
  have hrun : NodeFree (runPrepare config c) := answering_nodeFree (Workflow.prepare_nodeFree _ _ _)
  refine .bind ?_ fun key => .bind (.ofExcept _) fun _ => .bind (answering_nodeFree (.op rfl)) fun found => ?_
  · split
    · exact .bind (.op rfl) fun _ => .done _
    · exact .bind (.op rfl) fun _ => .done _
    · exact .done _
  · split
    · split
      · exact .done _
      · exact hrun
    · split
      · exact .done _
      · exact .done _
      · refine .bind (answering_nodeFree (.op rfl)) fun r => ?_
        split
        split
        · exact .done _
        · exact hrun

theorem issueIngestCredential_nodeFree {request : IssueRequest} {endpoint : Except Exc Unit} :
    NodeFree (issueIngestCredential sid user request endpoint) := by
  refine .bind (.op rfl) fun found => ?_
  split
  · exact .bind (.ofExcept _) fun _ => .bind (.ofExcept _) fun _ => .bind (.op rfl) fun _ => .bind (.ofExcept _) fun _ =>
      .bind (.ofExcept _) fun _ => .op rfl
  · exact .done _

theorem setSessionAudio_nodeFree {mode : AudioMode} {version : ℕ} {key : Option String} :
    NodeFree (setSessionAudio sid user mode version key) := by
  refine .bind ownedSession_nodeFree fun _ => ?_
  split
  · exact .done _
  · exact .done _
  · exact answering_nodeFree (.op rfl)

end Api

/-- The programs of the other requests make no call of a Node request. -/
theorem Request.nodeFree (config : Config) {q : Request} (hq : q.isNode = false) : NodeFree (q.program config) := by
  cases q with
  | prepare call => exact .bind (Api.prepareSession_nodeFree _ _) fun _ => .done _
  | reserve => exact .bind (.op rfl) fun _ => .done _
  | stop => exact .bind (.bind Api.ownedSession_nodeFree fun _ => Api.answering_nodeFree Workflow.stop_nodeFree) fun _ => .done _
  | issueCredential => exact .bind Api.issueIngestCredential_nodeFree fun _ => .done _
  | addEvent => exact .bind (.bind Api.ownedSession_nodeFree fun _ => Api.answering_nodeFree (.op rfl)) fun _ => .done _
  | setAudio => exact .bind Api.setSessionAudio_nodeFree fun _ => .done _
  | bootstrap => cases hq
  | heartbeat => cases hq
  | stopNode => cases hq
  | sweep => exact .bind (Reaper.run_nodeFree _) fun _ => .done _
  | workflowPrepare => exact .bind (Workflow.prepare_nodeFree _ _ _) fun _ => .done _
  | workflowStop => exact .bind Workflow.stop_nodeFree fun _ => .done _

end IRLight
