import IRLight.ControlPlane.Programs
import IRLight.Session.Upkeep

/-! # Cleanups under a lease

A task cleans a Session up while it holds the Session's cleanup lease (`cleanups`), and deletes an orphan while it
holds the lease of the orphan's Session id (`orphanDuty`). Only such a task deletes a resource or ends a Session,
it releases no lease but its own, and every call names the fields that follow the status as the status asks
(`StoreOp.Tidy`). -/

namespace IRLight
open Interleaving Status Call

/-- When a lease that a call with this input is granted expires. -/
def leaseEnd (x : Input) : ℚ :=
  match x.clock 1 with
  | .finite now => now + max 1 SessionStore.leaseSeconds
  | _ => 0

/-- The lease that a call was granted: the Session's id, the lease's, and when it expires. -/
def grant? : Event Op Op.Res Exc Input → Option (String × Uuid × ℚ)
  | ⟨.store (.claimOrphanCleanup sid _ _), x, .ok (some leaseId)⟩ => some (sid, leaseId, leaseEnd x)
  | ⟨.store (.claimSessionCleanup sid), x, .ok (some leaseId)⟩ => some (sid, leaseId, leaseEnd x)
  | _ => none

/-- The task was granted the lease. -/
def Holds (h : History) (sid : String) (leaseId : Uuid) : Prop := ∃ e ∈ h, ∃ expiry, grant? e = some (sid, leaseId, expiry)

/-- What a call does to the cleanups that its task is in the middle of. -/
def onCleanups : Event Op Op.Res Exc Input → List (String × Uuid) → List (String × Uuid)
  | ⟨.store (.claimSessionCleanup sid), _, .ok (some leaseId)⟩, l => (sid, leaseId) :: l
  | ⟨.store (.releaseSessionCleanup sid leaseId), _, _⟩, l => l.filter (· ≠ (sid, leaseId))
  | ⟨.store (.transition sid new _ _), _, .ok _⟩, l => if new ∈ [finished, failed] then l.filter (·.1 ≠ sid) else l
  | _, l => l

/-- The cleanups that a task is in the middle of, each with its lease: the lease was granted, and neither was it
    released nor the Session ended since. -/
def cleanups (h : History) : List (String × Uuid) := h.foldr onCleanups []

/-- What a call does to the orphan that its task is deleting. -/
def onOrphanDuty : Event Op Op.Res Exc Input → Option (String × Uuid × ℚ) → Option (String × Uuid × ℚ)
  | ⟨.store (.claimOrphanCleanup sid _ _), x, .ok (some leaseId)⟩, _ => some (sid, leaseId, leaseEnd x)
  | ⟨.store (.releaseOrphanCleanup _ _), _, _⟩, _ | ⟨.store (.releaseSessionCleanup _ _), _, _⟩, _ => none
  | _, duty => duty

/-- The lease under which a task is deleting an orphan: it was granted, and the task has not tried to release any
    lease since. -/
def orphanDuty (h : History) : Option (String × Uuid × ℚ) := h.foldr onOrphanDuty none

/-- The task has seen the resource among the provider's, under the Session's tag. -/
def Listed (h : History) (providerId sid : String) : Prop :=
  ∃ x resources, ⟨.listManagedResources, x, .ok resources⟩ ∈ h ∧
    ∃ r ∈ resources, r.providerId = providerId ∧ r.sessionId = some sid

/-- A task may delete a resource in the middle of a Session's cleanup, or under the lease of the Session id that it saw
    the resource under. -/
def DeletePermits (h : History) (providerId : String) : Prop :=
  cleanups h ≠ [] ∨ ∃ sid leaseId expiry, orphanDuty h = some (sid, leaseId, expiry) ∧ Listed h providerId sid

/-- What a call of the store says about the fields that follow the status. `mine` tells the Sessions that the task is
    cleaning up. -/
def StoreOp.Tidy (mine : String → Prop) : StoreOp → Prop
  | .provisioningCheckpoint _ _ _ _ changes => ∀ c ∈ changes, c.quiet
  | .transition sid new _ changes =>
    Settles (decide (new ∈ cleanupStates)) changes ∧ (new ∈ [finished, failed] → mine sid)
  | .transitionIfCurrent _ _ _ _ changes => Settles true changes
  | .update sid changes => (∀ c ∈ changes, c.quiet) ∨ Settles true changes ∧ mine sid
  | .updateIfCurrent _ expected _ _ changes => ∀ c ∈ changes, c.quiet ∨ expected = holding ∧ ∃ t, c = .holdDeadlineAt t
  | _ => True

/-- What a call observes about cleanups. -/
def LeasePermits (h : History) : Op → Prop
  | .store (.releaseOrphanCleanup sid leaseId) | .store (.releaseSessionCleanup sid leaseId) => Holds h sid leaseId
  | .store o => o.Tidy fun sid => ∃ leaseId, (sid, leaseId) ∈ cleanups h
  | .deleteVolume id | .deleteServer id => DeletePermits h id
  | _ => True

/-- The contract of tasks that clean up under a lease. -/
def tidiness : Contract World.exec := .alone (fun _ h o _ => LeasePermits h o) fun _ _ _ _ _ => True

/-- The program makes permitted calls only when it starts after a history with `F`. -/
def HeedsFrom {α : Type} (F : History → Prop) (p : Control α) : Prop :=
  ∀ i h w, F h → p.Meets tidiness i (fun _ _ _ => True) h w

/-- The program makes permitted calls only. -/
def Heeds {α : Type} (p : Control α) : Prop := ∀ i h w, p.Meets tidiness i (fun _ _ _ => True) h w

/-- After `F` the call is permitted and leaves `F` true. -/
def Op.Keeps (F : History → Prop) (o : Op) : Prop := ∀ h, F h → LeasePermits h o ∧ ∀ x r, F (⟨o, x, r⟩ :: h)

/-- The task is in the middle of the cleanup. -/
def Cleaning (sid : String) (leaseId : Uuid) (h : History) : Prop := (sid, leaseId) ∈ cleanups h ∧ Holds h sid leaseId

/-- The task is deleting an orphan. -/
def OnDuty (sid : String) (leaseId : Uuid) (h : History) : Prop :=
  (∃ expiry, orphanDuty h = some (sid, leaseId, expiry)) ∧ Holds h sid leaseId

theorem Holds.cons {h : History} {sid : String} {leaseId : Uuid} (hg : Holds h sid leaseId) (e : Event Op Op.Res Exc Input) :
    Holds (e :: h) sid leaseId := by
  obtain ⟨e', he', hg⟩ := hg
  exact ⟨e', List.mem_cons_of_mem e he', hg⟩

theorem Listed.cons {h : History} {providerId sid : String} (hl : Listed h providerId sid) (e : Event Op Op.Res Exc Input) :
    Listed (e :: h) providerId sid := by
  obtain ⟨x, resources, he, hr⟩ := hl
  exact ⟨x, resources, List.mem_cons_of_mem e he, hr⟩

namespace Heeds
variable {α β γ : Type} {p : Control α} {o : Op}

theorem done (r : Except Exc α) : Heeds (.done r) := fun _ _ _ _ _ _ => trivial

theorem andThen {f : Except Exc α → Control β} (hp : Heeds p) (hf : ∀ r, Heeds (f r)) : Heeds (p.andThen f) :=
  fun i h w => .andThen ((hp i h w).mono fun r h w _ _ => hf r i h w)

theorem bind {f : α → Control β} (hp : Heeds p) (hf : ∀ a, Heeds (f a)) : Heeds (p.bind f) :=
  hp.andThen fun
    | .ok a => hf a
    | .error e => done (.error e)

theorem attempt (hp : Heeds p) : Heeds p.attempt := hp.andThen fun _ => done _

theorem tryExcept {handler : Exc → Control α} (hp : Heeds p) (hh : ∀ e, Heeds (handler e)) : Heeds (p.tryExcept handler) :=
  hp.andThen fun
    | .ok a => done (.ok a)
    | .error e => hh e

theorem forFold {l : List β} {init : γ} {body : γ → β → Control γ} (hbody : ∀ c b, Heeds (body c b)) :
    Heeds (Prog.forFold l init body) := by
  induction l generalizing init with
  | nil => exact done _
  | cons b l ih => exact (hbody init b).bind fun c => ih

theorem call (ho : ∀ h, LeasePermits h o) : Heeds (Call.call o) := fun _ h _ _ _ _ => ⟨ho h, fun _ _ _ _ _ => trivial⟩

theorem of_only (hp : p.Only fun o => ∀ h, LeasePermits h o) : Heeds p := fun _ _ _ => .of_only hp fun _ ho h _ _ => ho h

theorem ofExcept (r : Except Exc α) : Heeds (ofExcept r : Control α) := of_only (.ofExcept r)

end Heeds

namespace HeedsFrom
variable {α β : Type} {p : Control α} {o : Op} {F : History → Prop} {sid : String} {leaseId : Uuid}

theorem of_heeds (hp : Heeds p) : HeedsFrom F p := fun i h w _ => hp i h w

theorem call (ho : ∀ h, F h → LeasePermits h o) : HeedsFrom F (Call.call o) :=
  fun _ h _ hF _ _ _ => ⟨ho h hF, fun _ _ _ _ _ => trivial⟩

/-- What `F` says is not needed any more. -/
theorem andThen_heeds {f : Except Exc α → Control β} (hp : HeedsFrom F p) (hf : ∀ r, Heeds (f r)) : HeedsFrom F (p.andThen f) :=
  fun i h w hF => .andThen ((hp i h w hF).mono fun r h w _ _ => hf r i h w)

theorem bind_heeds {f : α → Control β} (hp : HeedsFrom F p) (hf : ∀ a, Heeds (f a)) : HeedsFrom F (p.bind f) :=
  hp.andThen_heeds fun
    | .ok a => hf a
    | .error _ => .done _

theorem attempt (hp : HeedsFrom F p) : HeedsFrom F p.attempt := hp.andThen_heeds fun _ => .done _

/-- Calls that keep `F` leave it true for the rest of the program. -/
theorem andThen {f : Except Exc α → Control β} (hp : p.Only (Op.Keeps F)) (hf : ∀ r, HeedsFrom F (f r)) :
    HeedsFrom F (p.andThen f) := by
  intro i h w hF
  induction p generalizing h w with
  | done r => exact hf r i h w hF
  | call o next ih =>
    obtain ⟨ho, hnext⟩ := Prog.Only.call_iff.mp hp
    exact fun t _ _ => ⟨(ho h hF).1, fun x _ => ih _ (hnext _) _ _ ((ho h hF).2 x _)⟩

theorem bind {f : α → Control β} (hp : p.Only (Op.Keeps F)) (hf : ∀ a, HeedsFrom F (f a)) : HeedsFrom F (p.bind f) :=
  andThen hp fun
    | .ok a => hf a
    | .error _ => of_heeds (.done _)

theorem tryExcept {handler : Exc → Control α} (hp : HeedsFrom F p) (hh : ∀ e, Heeds (handler e)) :
    HeedsFrom F (p.tryExcept handler) :=
  hp.andThen_heeds fun
    | .ok _ => .done _
    | .error e => hh e

/-- What the task was granted it was granted for good. -/
theorem andThen_holding {f : Except Exc α → Control β} (hp : HeedsFrom F p) (hF : ∀ h, F h → Holds h sid leaseId)
    (hf : ∀ r, HeedsFrom (Holds · sid leaseId) (f r)) : HeedsFrom F (p.andThen f) :=
  fun i h w hFh => .andThen (((hp i h w hFh).frame (F := fun h _ => Holds h sid leaseId) (.any p) (hF h hFh)
    (fun _ _ _ hg _ _ => hg) fun _ _ _ _ _ _ hg _ _ => hg.cons _).mono fun r h w _ hr => hf r i h w hr.2)

/-- The cleanup under the lease of a Session, and its release however the cleanup ended. -/
theorem cleanup (hp : HeedsFrom (Cleaning sid leaseId) p) :
    HeedsFrom (Cleaning sid leaseId) (p.tryFinally (store (.releaseSessionCleanup sid leaseId))) :=
  hp.andThen_holding (fun _ hc => hc.2) fun r => bind_heeds (.call fun _ hg => hg) fun _ => .done r

end HeedsFrom

theorem grant?_of_claim {i : ℕ} {x : Input} {w : World} {sid : String} {leaseId : Uuid}
    (he : (World.exec i (.store (.claimSessionCleanup sid)) x w).1 = .ok (some leaseId)) :
    World.exec.event i (.store (.claimSessionCleanup sid)) x w =
      ⟨.store (.claimSessionCleanup sid), x, .ok (some leaseId)⟩ := by
  rw [Exec.event, he]

/-- The claim of a cleanup lease, and the cleanup when it is granted. -/
theorem Heeds.lease {α : Type} {sid : String} {f : Option Uuid → Control α} (hnone : Heeds (f none))
    (hsome : ∀ leaseId, HeedsFrom (Cleaning sid leaseId) (f (some leaseId))) :
    Heeds ((store (.claimSessionCleanup sid)).bind f) := by
  refine fun i h w => .op_bind fun t _ _ => ⟨trivial, fun x _ => ⟨fun leaseId he => ?_, fun e _ _ _ _ => trivial⟩⟩
  cases leaseId with
  | none => exact hnone _ _ _
  | some leaseId =>
    refine hsome leaseId _ _ _ ?_
    rw [grant?_of_claim he]
    exact ⟨List.mem_cons_self, _, List.mem_cons_self, _, rfl⟩

/-! ### The programs -/

/-- A mild call neither takes part in a cleanup nor, when it deletes nothing, needs one. -/
theorem Op.Mild.neutral {deletes : Bool} {o : Op} (ho : o.Mild deletes) :
    (∀ h, (deletes = true → cleanups h ≠ []) → LeasePermits h o) ∧
      ∀ x r, (∀ l, onCleanups ⟨o, x, r⟩ l = l) := by
  cases o with
  | store so =>
    cases so with
    | update =>
      obtain ⟨_, _, _, _, rfl⟩ := ho
      exact ⟨fun _ _ => Or.inl (by simp [Change.quiet]), fun _ _ _ => rfl⟩
    | transition =>
      obtain ⟨rfl, rfl, _, _, rfl⟩ := ho
      refine ⟨fun _ _ => ⟨⟨_, rfl, by simp [Change.quiet]⟩, by simp⟩, fun x r l => ?_⟩
      cases r <;> rfl
    | create => cases ho
    | claimProvisioning => cases ho
    | provisioningCheckpoint => cases ho
    | requestStopIfCurrent => cases ho
    | transitionIfCurrent => cases ho
    | updateIfCurrent => cases ho
    | claimSessionCleanup => cases ho
    | releaseSessionCleanup => cases ho
    | claimOrphanCleanup => cases ho
    | releaseOrphanCleanup => cases ho
    | _ => exact ⟨fun _ _ => trivial, fun _ _ _ => rfl⟩
  | issue => cases ho
  | createVolume => cases ho
  | createServer => cases ho
  | deleteVolume => exact ⟨fun _ hd => Or.inl (hd ho), fun _ _ _ => rfl⟩
  | deleteServer => exact ⟨fun _ hd => Or.inl (hd ho), fun _ _ _ => rfl⟩
  | _ => exact ⟨fun _ _ => trivial, fun _ _ _ => rfl⟩

theorem Heeds.mild {α : Type} {p : Control α} (hp : p.Only (Op.Mild false)) : Heeds p :=
  of_only (hp.mono fun _ ho h => ho.neutral.1 h (nomatch ·))

theorem HeedsFrom.mild {α β : Type} {sid : String} {leaseId : Uuid} {deletes : Bool} {p : Control α} {f : α → Control β}
    (hp : p.Only (Op.Mild deletes)) (hf : ∀ a, HeedsFrom (Cleaning sid leaseId) (f a)) :
    HeedsFrom (Cleaning sid leaseId) (p.bind f) := by
  refine .bind (hp.mono fun o ho h hc => ⟨ho.neutral.1 h fun _ => List.ne_nil_of_mem hc.1, fun x r => ?_⟩) hf
  refine ⟨?_, hc.2.cons _⟩
  rw [cleanups, List.foldr_cons, ho.neutral.2]
  exact hc.1

section
variable {sid : String} {leaseId : Uuid}

namespace Workflow

theorem finishCancelledProvisioning_heeds : Heeds (finishCancelledProvisioning sid) := by
  unfold finishCancelledProvisioning
  have hget : (get sid).Only (Op.Mild true) := .op trivial
  refine .bind (.call fun _ => trivial) fun current => ?_
  split
  · split
    · exact .done _
    · refine .bind (.call fun _ => trivial) fun _ => .lease (.done _) fun leaseId =>
        .cleanup ?_
      refine .mild (cleanupResources_mild _ _) fun cleaned => .mild hget fun current => ?_
      split
      · dsimp only
        split
        · split
          · exact .call fun _ hm => ⟨⟨_, rfl, by simp [released, Change.quiet]⟩, fun _ => ⟨leaseId, hm.1⟩⟩
          · exact .call fun _ hm => ⟨⟨_, rfl, by simp [released, Change.quiet]⟩, by simp⟩
        · split
          · split
            · exact .call fun _ hm => ⟨⟨_, rfl, by simp [released, Change.quiet]⟩, fun _ => ⟨leaseId, hm.1⟩⟩
            · exact .call fun _ hm => Or.inr ⟨⟨_, rfl, by simp [released, Change.quiet]⟩, leaseId, hm.1⟩
          · exact .of_heeds (.done _)
      · exact .of_heeds (.done _)
  · exact .done _

theorem cleanupFailed_heeds : Heeds (cleanupFailed sid) := by
  unfold cleanupFailed
  refine .bind (.attempt (.call fun _ => trivial)) fun _ => .lease (.done _) fun leaseId =>
    .cleanup ?_
  refine .mild (cleanupResources_mild _ _) fun cleaned => ?_
  split
  · exact .bind_heeds (.attempt (.call fun _ hm => ⟨⟨_, rfl, by simp⟩, fun _ => ⟨leaseId, hm.1⟩⟩)) fun _ => .done _
  · exact .of_heeds (.done _)

theorem handlePrepareError_heeds (claimed : Bool) (exc : Exc) : Heeds (handlePrepareError sid claimed exc) := by
  unfold handlePrepareError
  split
  · split
    · refine .bind (.call fun _ => trivial) fun session => ?_
      split
      · exact finishCancelledProvisioning_heeds
      · exact .done _
    · exact .done _
  · refine .bind (.call fun _ => trivial) fun session => ?_
    split
    · exact finishCancelledProvisioning_heeds
    · refine .bind (.attempt (.call fun _ => ⟨⟨_, rfl, by simp [released, Change.quiet]⟩, by simp⟩)) fun r => ?_
      split
      · exact .bind cleanupFailed_heeds fun _ => .done _
      · exact .done _

theorem checkpoint_heeds {op : Uuid} {next : Option Status} {changes : List Change} {k : Session → Control Session}
    (hquiet : ∀ c ∈ changes, c.quiet) (hk : ∀ r, Heeds (k r)) : Heeds (checkpoint sid op next changes k) := by
  refine .bind (.call fun _ => hquiet) fun session => ?_
  split
  · exact finishCancelledProvisioning_heeds
  · exact hk session

theorem ensureVolume_heeds (config : WorkflowConfig) (user : String) (env : Environment) :
    Heeds (ensureVolume config sid user env) := by
  unfold ensureVolume
  refine .bind (.call fun _ => trivial) fun volumes => ?_
  split
  · exact .done _
  · refine .bind (.call fun _ => trivial) fun now => ?_
    split
    · exact .call fun _ => trivial
    · exact .done _

theorem ensureServer_heeds (config : WorkflowConfig) (user : String) (env : Environment) (volume : ProviderVolume) :
    Heeds (ensureServer config sid user env volume) := by
  unfold ensureServer
  refine .bind (.call fun _ => trivial) fun servers => ?_
  split
  · exact .done _
  · refine .bind (.call fun _ => trivial) fun now => ?_
    split
    · exact .call fun _ => trivial
    · exact .done _

theorem provision_heeds (config : WorkflowConfig) (user : String) (env : Environment) (op : Uuid) :
    Heeds (provision config sid user env op) := by
  unfold provision
  refine .bind (ensureVolume_heeds _ _ _) fun volume => checkpoint_heeds (by simp [Change.quiet]) fun _ =>
    .bind (ensureServer_heeds _ _ _ _) fun server => checkpoint_heeds (by simp [Change.quiet]) fun _ =>
    checkpoint_heeds (by simp) fun session => ?_
  split
  · exact .done _
  · exact .bind (.call fun _ => trivial) fun now => .call fun _ => by simp [LeasePermits, StoreOp.Tidy, Change.quiet]

theorem prepare_heeds (config : WorkflowConfig) (user : Option String) (env : Environment) :
    Heeds (prepare config sid user env) := by
  unfold prepare
  refine .bind (.bind (.call fun _ => trivial) fun existing => ?_) fun session => ?_
  · split
    · exact .done _
    · exact .call fun _ => trivial
  · split
    · exact .done _
    · refine .bind (.ofExcept _) fun _ => .bind (.call fun _ => trivial) fun op => .bind (.call fun _ => trivial)
        fun started => .bind (.attempt (.call fun _ => trivial)) fun claim => ?_
      cases claim with
      | ok _ => exact .tryExcept (provision_heeds _ _ _ _) (handlePrepareError_heeds _)
      | error e => exact handlePrepareError_heeds _ e

theorem stop_heeds : Heeds (stop sid) := by
  unfold stop
  refine .bind (.call fun _ => trivial) fun session => ?_
  split
  · split
    · exact .bind (.call fun _ => trivial) fun _ => .done _
    · refine .bind (.call fun _ => trivial) fun session => .bind (.call fun _ => trivial) fun _ => ?_
      split
      · exact .done _
      · refine .lease (.bind (.call fun _ => trivial) fun _ => .done _) fun leaseId =>
          .cleanup ?_
        refine .mild (cleanupResources_mild _ _) fun cleaned => ?_
        split
        · exact .call fun _ hm => ⟨⟨_, rfl, by simp [released, Change.quiet]⟩, by simp⟩
        · exact .call fun _ hm => ⟨⟨_, rfl, by simp [released, Change.quiet]⟩, fun _ => ⟨leaseId, hm.1⟩⟩
  · exact .done _

end Workflow

namespace Reaper
variable {reasonCode : String} {now : Timestamp}

theorem finishFailed_heeds {reason : Json} : HeedsFrom (Cleaning sid leaseId) (finishFailed sid reasonCode reason now) := by
  unfold finishFailed
  exact .bind_heeds (.call fun _ hm => ⟨⟨_, rfl, by simp⟩, fun _ => ⟨leaseId, hm.1⟩⟩) fun _ => .call fun _ => trivial

theorem failAndCleanup_heeds {reason : String} {expected : Status} {fields : List Expected} :
    Heeds (failAndCleanup sid reason reasonCode expected fields now) := by
  unfold failAndCleanup
  refine .bind (.attempt (.call fun _ => ⟨_, rfl, by simp [Workflow.released, Change.quiet]⟩)) fun r => ?_
  split
  · exact .done _
  · exact .done _
  · refine .bind (.attempt (.call fun _ => trivial)) fun r => ?_
    split
    · exact .done _
    · refine .lease (.done _) fun leaseId => .bind_heeds (.cleanup ?_) fun _ => .done _
      refine .mild (cleanupResources_mild _ _) fun cleaned => ?_
      split
      · exact finishFailed_heeds
      · exact .of_heeds (.done _)

theorem cleanupStopped_heeds : Heeds (cleanupStopped sid reasonCode now) := by
  unfold cleanupStopped
  refine .lease (.done _) fun leaseId => .bind_heeds (.cleanup ?_) fun _ => .done _
  refine .mild (cleanupResources_mild _ _) fun cleaned => ?_
  split
  · exact .bind_heeds (.call fun _ hm => ⟨⟨_, rfl, by simp [Workflow.released, Change.quiet]⟩, by simp⟩) fun _ => .done _
  · exact .bind_heeds (.call fun _ hm => ⟨⟨_, rfl, by simp [Workflow.released, Change.quiet]⟩, fun _ => ⟨leaseId, hm.1⟩⟩)
      fun _ => .call fun _ => trivial

theorem afterStopRequest_heeds {config : ReaperConfig} {fromState : Option Status} {session : Session} :
    Heeds (afterStopRequest config sid reasonCode fromState session now) := by
  unfold afterStopRequest
  split
  · exact .done _
  · refine .bind (.attempt (.call fun _ => trivial)) fun r => ?_
    split
    · exact .done _
    · refine .bind ?_ fun _ => ?_
      · split
        · exact .call fun _ => trivial
        · exact .done _
      · split
        · split
          · exact .done _
          · exact .bind (.call fun _ => Or.inl (by simp [Workflow.released, Change.quiet])) fun _ => cleanupStopped_heeds
        · exact cleanupStopped_heeds

theorem stopAndCleanupIfCurrent_heeds {config : ReaperConfig} {expected : Status} {fields : List Expected} :
    Heeds (stopAndCleanupIfCurrent config sid reasonCode expected fields now) := by
  unfold stopAndCleanupIfCurrent
  refine .bind (.attempt (.call fun _ => trivial)) fun r => ?_
  split
  · exact .done _
  · exact .done _
  · exact afterStopRequest_heeds

theorem stopAndCleanup_heeds {config : ReaperConfig} : Heeds (stopAndCleanup config sid reasonCode now) := by
  unfold stopAndCleanup
  refine .bind (.call fun _ => trivial) fun before => .bind (.attempt (.call fun _ => trivial)) fun r => ?_
  split
  · exact .done _
  · exact afterStopRequest_heeds

theorem failMissingHeartbeat_heeds {config : ReaperConfig} {session : Session} {last : Option Timestamp} :
    Heeds (failMissingHeartbeat config session last now) := by
  unfold failMissingHeartbeat
  refine .bind (.attempt (.call fun _ => ⟨_, rfl, by simp [Change.quiet]⟩)) fun r => ?_
  split
  · exact .done _
  · exact .done _
  · refine .bind (.call fun _ => trivial) fun _ => .bind (.attempt (.call fun _ => trivial)) fun r => ?_
    split <;> exact .done _

theorem retryCleanup_heeds {session : Session} : Heeds (retryCleanup session now) := by
  unfold retryCleanup
  refine .bind (.attempt (.call fun _ => trivial)) fun r => ?_
  split
  · exact .done _
  · refine .lease (.done _) fun leaseId => .cleanup ?_
    refine .mild (cleanupResources_mild _ _) fun cleaned => ?_
    split
    · exact finishFailed_heeds
    · exact .of_heeds (.done _)

theorem sweep_heeds {states : List Status} {result : SweepResult} {body : SweepResult → Session → Control SweepResult}
    (hbody : ∀ result session, Heeds (body result session)) :
    Heeds ((store (.sessionsInStates states)).bind fun sessions => sweep sessions result body) :=
  .bind (.call fun _ => trivial) fun _ => .forFold hbody

theorem stopHolding_heeds {config : ReaperConfig} {result : SweepResult} {session : Session} {deadline : Timestamp} :
    Heeds (stopHolding config now result session deadline) := by
  unfold stopHolding
  split
  · refine .bind stopAndCleanupIfCurrent_heeds fun stopped => ?_
    split <;> exact .done _
  · exact .done _

theorem deleteOrphan_heeds (resource : ManagedResource) :
    HeedsFrom (OnDuty sid leaseId) (deleteOrphan resource sid leaseId) := by
  unfold deleteOrphan
  refine fun i h w hd => .op_bind fun t _ _ => ⟨trivial, fun x _ => ⟨fun latest he => ?_, fun e _ _ _ _ => trivial⟩⟩
  dsimp only
  split
  · exact Heeds.done _ _ _ _
  · rename_i hsome
    obtain ⟨current, hcurrent⟩ := Option.ne_none_iff_exists'.mp (mt Option.isNone_iff_eq_none.mpr hsome)
    have hfound := List.find?_some hcurrent
    simp only [Bool.and_eq_true, decide_eq_true_eq] at hfound
    -- the task sees the resource under the Session's tag before it deletes it
    have hlisted : Listed (World.exec.event i .listManagedResources x t :: h) resource.providerId sid := by
      rw [Exec.event, he]
      exact ⟨x, latest, List.mem_cons_self, current, List.mem_of_find?_eq_some hcurrent, hfound.1.1, hfound.2⟩
    refine HeedsFrom.bind (F := fun h => (∃ expiry, orphanDuty h = some (sid, leaseId, expiry)) ∧
      Listed h resource.providerId sid) ?_ (fun owned => ?_) i _ _ ⟨hd.1, hlisted⟩
    · exact .op fun _ hd => ⟨trivial, fun _ _ => ⟨hd.1, hd.2.cons _⟩⟩
    have hdelete : ∀ h, ((∃ expiry, orphanDuty h = some (sid, leaseId, expiry)) ∧ Listed h resource.providerId sid) →
        DeletePermits h resource.providerId := by
      rintro h ⟨⟨expiry, hduty⟩, hl⟩
      exact Or.inr ⟨sid, leaseId, expiry, hduty, hl⟩
    split
    · exact .of_heeds (.done _)
    · split
      · exact .of_heeds (.done _)
      · split
        · exact .bind_heeds (.call hdelete) fun _ => .done _
        · exact .bind_heeds (.call hdelete) fun _ => .done _

theorem cleanupOrphanResource_heeds (resource : ManagedResource) (sid : String) :
    Heeds (cleanupOrphanResource resource sid) := by
  unfold cleanupOrphanResource
  refine fun i h w => .op_attempt fun t _ _ => ⟨trivial, fun x _ => ?_⟩
  rcases he : (World.exec i (.store (.claimOrphanCleanup sid resource.providerId resource.kind)) x t).1 with e | _ | leaseId
  · dsimp only
    split <;> exact Heeds.done _ _ _ _
  · exact Heeds.done _ _ _ _
  · have hduty : OnDuty sid leaseId (World.exec.event i (.store (.claimOrphanCleanup sid resource.providerId resource.kind))
        x t :: h) := by
      rw [Exec.event, he]
      exact ⟨⟨_, rfl⟩, _, List.mem_cons_self, _, rfl⟩
    refine (HeedsFrom.andThen_holding ((deleteOrphan_heeds resource).tryExcept fun _ => .done _) (fun _ hd => hd.2)
      fun r => ?_) i _ _ hduty
    cases r with
    | error e => exact .of_heeds (.done _)
    | ok deleted =>
      refine .bind_heeds (.tryExcept (.call fun _ hg => hg) fun exc => ?_) fun _ => .done _
      split <;> exact .done _

theorem cleanupOrphans_heeds (config : ReaperConfig) (now : Timestamp) : Heeds (cleanupOrphans config now) := by
  unfold cleanupOrphans
  refine .bind (.attempt (.call fun _ => trivial)) fun r => ?_
  split
  · split <;> exact .done _
  · refine .bind (.call fun _ => trivial) fun resources => .forFold fun cleaned resource =>
      .bind (cleanupOrphanResource_heeds _ _) fun b => ?_
    split <;> exact .done _

theorem run_heeds (config : ReaperConfig) : Heeds (run config) := by
  unfold run
  refine .bind ?_ fun now => .bind ?_ fun r => .bind ?_ fun r => .bind ?_ fun r => .bind ?_ fun r => .bind ?_ fun r =>
    .bind ?_ fun r => .bind ?_ fun r => .bind (cleanupOrphans_heeds _ _) fun _ => .done _
  · exact .bind (.call fun _ => trivial) fun reading => .ofExcept _
  · refine sweep_heeds fun result session => ?_
    dsimp only
    split
    · refine .bind failAndCleanup_heeds fun failed => ?_
      split <;> exact .done _
    · exact .done _
  · refine sweep_heeds fun result session => ?_
    split
    · exact .done _
    · split
      · refine .bind stopAndCleanupIfCurrent_heeds fun stopped => ?_
        split <;> exact .done _
      · exact .done _
  · unfold sweepHeartbeats
    refine .bind (.attempt (.call fun _ => trivial)) fun authority => ?_
    split
    · exact .done _
    · refine sweep_heeds fun result session => ?_
      split
      · exact .done _
      · split
        · exact .done _
        · refine .bind failMissingHeartbeat_heeds fun failed => ?_
          split <;> exact .done _
  · refine sweep_heeds fun result session => ?_
    dsimp only
    split
    · refine .bind stopAndCleanupIfCurrent_heeds fun stopped => ?_
      split <;> exact .done _
    · exact .done _
  · refine sweep_heeds fun result session => ?_
    split
    · exact stopHolding_heeds
    · refine .bind ?_ fun recovered => ?_
      · unfold recoverHoldDeadline
        exact .bind (.call fun _ => by simp [LeasePermits, StoreOp.Tidy]) fun _ => .done _
      · split
        · exact .done _
        · exact stopHolding_heeds
  · exact sweep_heeds fun result session => .bind stopAndCleanup_heeds fun _ => .done _
  · exact sweep_heeds fun result session => .bind retryCleanup_heeds fun _ => .done _

end Reaper

namespace Api
variable {user : String}

theorem answering_heeds {α : Type} {p : Control α} {answer : Exc → Exc} (hp : Heeds p) : Heeds (answering p answer) :=
  .tryExcept hp fun _ => .done _

theorem prepareSession_heeds (config : Workflow.WorkflowConfig) (c : PrepareCall) : Heeds (prepareSession config c) := by
  have hrun : Heeds (runPrepare config c) := answering_heeds (Workflow.prepare_heeds _ _ _)
  unfold prepareSession
  refine .bind ?_ fun key => .bind (.ofExcept _) fun _ => .bind (answering_heeds (.call fun _ => trivial)) fun r => ?_
  · split
    · exact .bind (.call fun _ => trivial) fun _ => .done _
    · exact .bind (.call fun _ => trivial) fun _ => .done _
    · exact .done _
  · split
    · split
      · exact .done _
      · exact hrun
    · split
      · exact .done _
      · exact .done _
      · refine .bind (answering_heeds (.call fun _ => trivial)) fun r => ?_
        obtain ⟨prepared, replay⟩ := r
        dsimp only
        split
        · exact .done _
        · exact hrun

theorem issueIngestCredential_heeds {request : IssueRequest} {endpoint : Except Exc Unit} :
    Heeds (issueIngestCredential sid user request endpoint) := by
  unfold issueIngestCredential
  refine .bind (.call fun _ => trivial) fun session => ?_
  split
  · exact .bind (.ofExcept _) fun _ => .bind (.ofExcept _) fun _ => .bind (.call fun _ => trivial) fun reading =>
      .bind (.ofExcept _) fun current => .bind (.ofExcept _) fun ttl => .call fun _ => trivial
  · exact .done _

end Api

/-- Every request cleans up under leases only. -/
theorem Request.heeds (config : Config) (q : Request) : Heeds (q.program config) := by
  cases q with
  | prepare call => exact .bind (Api.prepareSession_heeds _ _) fun _ => .done _
  | reserve => exact .bind (.call fun _ => trivial) fun _ => .done _
  | stop =>
    exact .bind (.bind (.mild Api.ownedSession_mild) fun _ => Api.answering_heeds Workflow.stop_heeds) fun _ => .done _
  | issueCredential => exact .bind Api.issueIngestCredential_heeds fun _ => .done _
  | addEvent => exact .bind (.mild Api.addSessionEvent_mild) fun _ => .done _
  | setAudio => exact .bind (.mild Api.setSessionAudio_mild) fun _ => .done _
  | bootstrap => exact .bind (.mild (NodeApi.bootstrap_mild _ _ _ _)) fun _ => .done _
  | heartbeat => exact .bind (.mild (NodeApi.heartbeat_mild _ _ _ _)) fun _ => .done _
  | stopNode => exact .bind (.mild (NodeApi.stopNode_mild _)) fun _ => .done _
  | sweep => exact .bind (Reaper.run_heeds _) fun _ => .done _
  | workflowPrepare sid user env => exact .bind (Workflow.prepare_heeds _ _ _) fun _ => .done _
  | workflowStop => exact .bind Workflow.stop_heeds fun _ => .done _

end

/-- In every run, every call observes the cleanup leases of its task. -/
theorem Plane.tidy {config : Config} {stable : Timestamp} {cond : Plane → Action Request Input → Prop} {c : Plane}
    (hr : Plane.Reaches config stable cond c) {i : ℕ} {o : Op} {h : History} (hcall : c.Calls i o h) : LeasePermits h o := by
  obtain ⟨⟨q, p, h⟩, next, ht, rfl, rfl⟩ := hcall
  have hassume : Assumed tidiness cond := fun _ _ _ _ _ _ _ => trivial
  have hmeets := hr.alone (Q := fun _ _ _ _ => True) hassume (fun q i s (_ : True) => Request.heeds config q i [] s) ht trivial
  exact (hmeets c.state trivial trivial).1

end IRLight
