import IRLight.ControlPlane.Conduct
import IRLight.Session.Failures

/-! # What the authorities raise

No authority raises an HTTP error: only the API's own handlers do. -/

namespace IRLight
open Interleaving Status

open SessionStore in
theorem StoreOp.run_raises (o : StoreOp) (clock : ℕ → PyFloat) (fresh : Uuid) (s : SessionStore) :
    Raises (·.isHttp = false) (o.run clock fresh s) := by
  have hupdate : ∀ {context changes}, Raises (·.isHttp = false) (updateOf context changes) := .updateOf (fun _ => rfl) _ _
  have hclock : ∀ {reading context}, Raises (·.isHttp = false) (validatedNow reading context) := .requireTimestamp rfl
  cases o with
  | get => exact .ok _
  | create =>
    exact .bind hclock fun _ _ => .bind raises_rejectActiveCleanupLease fun _ _ =>
      raises_edit_option (.ok _) fun _ => .ok _
  | reservePrepareSlot =>
    refine .bind (.raiseIf fun _ => rfl) fun _ _ => .bind raises_rejectActiveCleanupLease fun _ _ =>
      raises_edit_option ?_ fun r => ?_
    · exact .bind raises_requireSlot fun _ _ => .bind hclock fun _ _ => .bind hclock fun _ _ => .ok _
    · refine .bind (.raiseIf fun _ => rfl) fun _ _ => ?_
      split
      · exact .ok _
      · refine .bind ?_ fun _ _ => .bind hclock fun _ _ => .ok _
        split
        · exact .ok _
        · exact raises_requireSlot
  | beginPrepare =>
    refine .bind (.raiseIf fun _ => rfl) fun _ _ => .bind raises_rejectActiveCleanupLease fun _ _ =>
      raises_edit_option ?_ fun r => ?_
    · exact .bind raises_requireSlot fun _ _ => .bind hclock fun _ _ => .bind hclock fun _ _ => .ok _
    · refine .bind (.raiseIf fun _ => rfl) fun _ _ => .bind (.raiseIf fun _ => rfl) fun _ _ => ?_
      split
      · exact .bind raises_checkReplay fun _ _ => .ok _
      · exact .bind raises_requireSlot fun _ _ => .bind hclock fun _ _ => .ok _
  | getPrepareReplay sid =>
    refine .map ?_
    unfold SessionStore.getPrepareReplay
    split
    · exact .ok _
    · refine .bind (.raiseIf fun _ => rfl) fun _ _ => ?_
      split
      · exact .ok _
      · exact .bind (.raiseIf fun _ => rfl) fun _ _ => .ok _
  | authoritativeSnapshot =>
    refine .map ?_
    unfold SessionStore.authoritativeSnapshot
    split
    · exact .ok _
    · exact .error rfl
  | findByProviderServerId => exact .ok _
  | sessionsInStates => exact .ok _
  | claimProvisioning =>
    exact .bind (.requireTimestamp rfl) fun _ _ => .bind raises_rejectActiveCleanupLease fun _ _ => raises_edit_session fun _ =>
      .bind (.raiseIf fun _ => rfl) fun _ _ => .bind (.raiseIf fun _ => rfl) fun _ _ => .bind hclock fun _ _ => .ok _
  | provisioningCheckpoint sid op next =>
    refine .bind hupdate fun update _ => raises_edit_session fun _ => .bind (.raiseIf fun _ => rfl) fun _ _ =>
      .bind hclock fun _ _ => .bind ?_ fun _ _ => .ok _
    split
    · exact .ok _
    · cases next with
      | none => exact .ok _
      | some next => exact .bind (.raiseIf fun _ => rfl) fun _ _ => .ok _
  | requestStop =>
    refine raises_edit_session fun r => ?_
    split
    · exact .ok _
    · exact .bind hclock fun _ _ => .ok _
  | requestStopIfCurrent sid expected fields =>
    show Raises _ (s.requestStopIfCurrent sid expected fields clock)
    unfold SessionStore.requestStopIfCurrent
    refine raises_edit_option ?_ fun r => ?_
    · exact .ok _
    dsimp only
    split
    · exact .ok _
    · exact .bind hclock fun _ _ => .ok _
  | transition =>
    exact .bind hupdate fun _ _ => raises_edit_session fun _ => .bind (.raiseIf fun _ => rfl) fun _ _ =>
      .bind hclock fun _ _ => .ok _
  | transitionIfCurrent =>
    refine .bind hupdate fun _ _ => raises_edit_option ?_ fun r => ?_
    · exact .ok _
    dsimp only
    split
    · exact .ok _
    · exact .bind hclock fun _ _ => .ok _
  | update => exact .bind hupdate fun _ _ => raises_edit_session fun _ => .bind hclock fun _ _ => .ok _
  | updateIfCurrent =>
    refine .bind hupdate fun _ _ => raises_edit_option ?_ fun r => ?_
    · exact .ok _
    dsimp only
    split
    · exact .ok _
    · exact .bind hclock fun _ _ => .ok _
  | appendEvent sid type reason payload origin occurredAt =>
    refine .bind ?_ fun _ _ => raises_edit_session fun _ => .ok _
    cases occurredAt with
    | none => exact hclock
    | some t => exact .ok _
  | setAudioDesired =>
    refine .bind (.raiseIf fun _ => rfl) fun _ _ => .bind hclock fun _ _ => raises_edit_session fun _ =>
      .bind (.raiseIf fun _ => rfl) fun _ _ => ?_
    split
    · exact .bind (.raiseIf fun _ => rfl) fun _ _ => .ok _
    · exact .bind (.raiseIf fun _ => rfl) fun _ _ => .ok _
  | bindNode =>
    exact .bind hclock fun _ _ => raises_edit_session fun _ => .bind (.raiseIf fun _ => rfl) fun _ _ =>
      .bind (.raiseIf fun _ => rfl) fun _ _ => .ok _
  | recordNodeHeartbeat sid node boot observed ready =>
    show Raises _ (s.recordNodeHeartbeat sid node boot observed ready)
    unfold SessionStore.recordNodeHeartbeat
    refine raises_edit_option ?_ fun r => ?_
    · exact .ok _
    dsimp only
    split
    · exact .ok _
    · split <;> exact .ok _
  | applyIngestObservation =>
    refine raises_edit_session fun r => .bind (.raiseIf fun _ => rfl) fun _ _ => ?_
    split <;> exact .ok _
  | applyRelayClientObservation =>
    refine .bind hclock fun _ _ => .bind (.requireTimestamp rfl) fun _ _ => raises_edit_session fun r =>
      .bind (.raiseIf fun _ => rfl) fun _ _ => ?_
    split <;> exact .ok _
  | claimOrphanCleanup sid resource kind =>
    show Raises _ (s.claimOrphanCleanup sid resource kind clock fresh)
    unfold SessionStore.claimOrphanCleanup
    split
    · exact .ok _
    · refine .bind raises_activeCleanupLease fun _ _ => ?_
      split
      · exact .ok _
      · exact .bind hclock fun _ _ => raises_takeLease
  | claimSessionCleanup sid =>
    show Raises _ (s.claimSessionCleanup sid clock fresh)
    unfold SessionStore.claimSessionCleanup
    dsimp only
    split
    · exact .ok _
    · refine .bind raises_activeCleanupLease fun _ _ => ?_
      split
      · exact .ok _
      · exact .bind hclock fun _ _ => raises_takeLease
  | orphanCleanupStillOwned =>
    refine .map (.bind raises_activeCleanupLease fun _ _ => ?_)
    split <;> exact .ok _
  | sessionCleanupStillOwned =>
    refine .map (.bind raises_activeCleanupLease fun _ _ => ?_)
    split <;> exact .ok _
  | releaseOrphanCleanup =>
    refine .map ?_
    unfold SessionStore.releaseOrphanCleanup
    split
    · split
      · exact raises_persist fun _ => rfl
      · exact .ok _
    · exact .ok _
  | releaseSessionCleanup =>
    refine .map ?_
    unfold SessionStore.releaseSessionCleanup
    split
    · split
      · exact raises_persist fun _ => rfl
      · exact .ok _
    · exact .ok _

theorem World.transact_raises {α σ : Type} {φ : Exc → Prop} {w : World} {fault : Option Exc} {run : Except Exc (α × σ)}
    {set : σ → World} (hfault : ∀ e, fault = some e → φ e) (hrun : Raises φ run) : Raises φ (w.transact fault run set).1 := by
  unfold World.transact
  split
  · exact .error (hfault _ rfl)
  · exact .ok _
  · exact .error (hrun _ rfl)

theorem World.callProvider_raises {α : Type} {φ : Exc → Prop} {w : World} {x : Input} {a : α} {inv : Inventory}
    (hprovider : ∀ m, φ (.providerError m)) : Raises φ (w.callProvider x a inv).1 := by
  unfold World.callProvider
  split
  · exact .error (hprovider _)
  · exact .ok _

theorem NodeAuthority.validate_raises {φ : Exc → Prop} (hstate : ∀ m, φ (.nodeStateError m)) (a : NodeAuthority) :
    Raises φ a.validate := by
  refine .bind (.bind (.raiseIf fun _ => hstate _) fun _ _ => .bind (.raiseIf fun _ => hstate _) fun _ _ =>
    .raiseIf fun _ => hstate _) fun _ _ => .forM fun e _ => ?_
  unfold validateToken
  split
  · exact .ok _
  · split
    · exact .error (hstate _)
    · exact .raiseIf fun _ => hstate _

/-- No call of an authority raises an HTTP error. -/
theorem World.exec_raises (i : ℕ) (o : Op) (x : Input) (w : World) : Raises (·.isHttp = false) (World.exec i o x w).1 := by
  have hclock : ∀ {reading field}, Raises (·.isHttp = false) (Credential.runtimeTimestamp reading field) := by
    intro reading field
    unfold Credential.runtimeTimestamp
    split
    · exact .requireTimestamp rfl
    · exact .error rfl
  have hfault : ∀ {f : String → Exc}, (∀ m, (f m).isHttp = false) → ∀ e, x.fault.map f = some e → e.isHttp = false := by
    intro f hf e he
    obtain ⟨m, _, rfl⟩ := Option.map_eq_some_iff.mp he
    exact hf m
  cases o with
  | store so => exact transact_raises (hfault fun _ => rfl) (so.run_raises x.clock ⟨i, w.serial⟩ w.store)
  | issue =>
    exact transact_raises (hfault fun _ => rfl) (.bind (.raiseIf fun _ => rfl) fun _ _ =>
      .bind (.raiseIf fun _ => rfl) fun _ _ => .bind hclock fun _ _ => .ok _)
  | revokeSession => exact transact_raises (hfault fun _ => rfl) (.bind hclock fun _ _ => .ok _)
  | readAuthority => exact transact_raises (hfault fun _ => rfl) (.ok _)
  | writeTokenFuse => exact transact_raises (hfault fun _ => rfl) (.ok _)
  | writeAuthority a => exact transact_raises (hfault fun _ => rfl) (.map (a.validate_raises fun _ => rfl))
  | time => exact .ok _
  | uuid => exact .ok _
  | _ => exact callProvider_raises fun _ => rfl

end IRLight
