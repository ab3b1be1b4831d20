import IRLight.Session.Effects

/-! # The life of a Session record

What holds of every record (`Session.Sound`), and how a record relates to any later version of itself
(`Session.Later`). A status has a phase, and phases only grow. -/

namespace IRLight
open Status

/-- How far a Session has come in its life. -/
def Status.phase : Status → ℕ
  | stopped => 0
  | provisioning => 1
  | bootstrapping => 2
  | readyWaitIngest | live | degraded | holding => 3
  | stopping | failedCleanup => 4
  | finished | failed => 5

namespace Session

/-- What the Control API keeps true of every record. -/
structure Sound (r : Session) : Prop where
  free : r.status = stopped → r.provisioningOperationId = none
  owned : 1 ≤ r.status.phase → r.status.phase ≤ 2 → r.provisioningOperationId.isSome
  progress : r.provisioningInProgress = r.provisioningOperationId.isSome
  released : 5 ≤ r.status.phase → r.entitlementReserved = false
  bound : r.status = stopped → r.idempotencyKey.isSome → r.entitlementReserved = true
  early : r.status.phase ≤ 2 → r.readyAt = none
  running : r.status.phase = 3 → r.readyAt.isSome
  cancelled : r.provisioningCancelRequested = true → 4 ≤ r.status.phase

/-- What an earlier version of a record says about a later one. -/
structure Later (r r' : Session) : Prop where
  user : r'.userId = r.userId
  phase : r.status.phase ≤ r'.status.phase
  final : 5 ≤ r.status.phase → r'.status = r.status
  key : r.idempotencyKey.isSome → r'.idempotencyKey = r.idempotencyKey
  ready : r.readyAt.isSome → r'.readyAt.isSome
  settled : 4 ≤ r.status.phase → r.provisioningOperationId = none → r'.readyAt = r.readyAt
  owner : 1 ≤ r.status.phase → r'.provisioningOperationId = r.provisioningOperationId ∨
    r'.provisioningOperationId = none

namespace Later

theorem refl (r : Session) : r.Later r :=
  ⟨rfl, le_rfl, fun _ => rfl, fun _ => rfl, id, fun _ _ => rfl, fun _ => Or.inl rfl⟩

theorem trans {r s t : Session} (h : r.Later s) (h' : s.Later t) : r.Later t where
  user := h'.user.trans h.user
  phase := h.phase.trans h'.phase
  final hr := by
    have hs := h.final hr
    exact (h'.final (hs ▸ hr)).trans hs
  key hr := (h'.key (h.key hr ▸ hr)).trans (h.key hr)
  ready hr := h'.ready (h.ready hr)
  settled hp ho := by
    have ho' : s.provisioningOperationId = none :=
      (h.owner (by omega)).elim (fun e => e.trans ho) id
    exact (h'.settled (hp.trans h.phase) ho').trans (h.settled hp ho)
  owner hp := by
    rcases h'.owner (hp.trans h.phase) with e | e
    · rcases h.owner hp with e' | e' <;> rw [e'] at e
      · exact Or.inl e
      · exact Or.inr e
    · exact Or.inr e

end Later

/-- A record that keeps all of its lifecycle fields. -/
structure Same (r r' : Session) : Prop where
  sessionId : r'.sessionId = r.sessionId
  user : r'.userId = r.userId
  status : r'.status = r.status
  key : r'.idempotencyKey = r.idempotencyKey
  reserved : r'.entitlementReserved = r.entitlementReserved
  ready : r'.readyAt = r.readyAt
  owner : r'.provisioningOperationId = r.provisioningOperationId
  progress : r'.provisioningInProgress = r.provisioningInProgress
  cancelled : r'.provisioningCancelRequested = r.provisioningCancelRequested

namespace Same

theorem refl (r : Session) : r.Same r := ⟨rfl, rfl, rfl, rfl, rfl, rfl, rfl, rfl, rfl⟩

theorem trans {r s t : Session} (h : r.Same s) (h' : s.Same t) : r.Same t :=
  ⟨h'.1.trans h.1, h'.2.trans h.2, h'.3.trans h.3, h'.4.trans h.4, h'.5.trans h.5, h'.6.trans h.6,
    h'.7.trans h.7, h'.8.trans h.8, h'.9.trans h.9⟩

theorem sound {r r' : Session} (h : r.Same r') (hs : r.Sound) : r'.Sound where
  free := by rw [h.status, h.owner]; exact hs.free
  owned := by rw [h.status, h.owner]; exact hs.owned
  progress := by rw [h.progress, h.owner]; exact hs.progress
  released := by rw [h.status, h.reserved]; exact hs.released
  bound := by rw [h.status, h.key, h.reserved]; exact hs.bound
  early := by rw [h.status, h.ready]; exact hs.early
  running := by rw [h.status, h.ready]; exact hs.running
  cancelled := by rw [h.status, h.cancelled]; exact hs.cancelled

theorem later {r r' : Session} (h : r.Same r') : r.Later r' :=
  ⟨h.user, by rw [h.status], fun _ => h.status, fun _ => h.key, by rw [h.ready]; exact id, fun _ _ => h.ready,
    fun _ => Or.inl h.owner⟩

theorem occupies {r r' : Session} (h : r.Same r') : r'.occupies = r.occupies := by
  simp only [Session.occupies, h.reserved, h.status]

end Same

/-- A record that keeps its identity and, at most, gives up its owner. -/
structure Kept (r r' : Session) : Prop where
  sessionId : r'.sessionId = r.sessionId
  user : r'.userId = r.userId
  key : r'.idempotencyKey = r.idempotencyKey
  ready : r'.readyAt = r.readyAt
  owner : r'.provisioningOperationId = r.provisioningOperationId ∧
      r'.provisioningInProgress = r.provisioningInProgress ∨
    r'.provisioningOperationId = none ∧ r'.provisioningInProgress = false

namespace Kept

theorem progress {r r' : Session} (h : r.Kept r') (hs : r.Sound) :
    r'.provisioningInProgress = r'.provisioningOperationId.isSome := by
  rcases h.owner with ⟨ho, hp⟩ | ⟨ho, hp⟩
  · rw [ho, hp, hs.progress]
  · rw [ho, hp]
    rfl

theorem later {r r' : Session} (h : r.Kept r') (hp : r.status.phase ≤ r'.status.phase)
    (hf : 5 ≤ r.status.phase → r'.status = r.status) : r.Later r' :=
  ⟨h.user, hp, hf, fun _ => h.key, fun hr => by rw [h.ready]; exact hr, fun _ _ => h.ready,
    fun _ => h.owner.imp And.left And.left⟩

/-- A record in a cleanup or terminal state. -/
theorem sound {r r' : Session} (h : r.Kept r') (hs : r.Sound) (hp : 4 ≤ r'.status.phase)
    (hres : 5 ≤ r'.status.phase → r'.entitlementReserved = false) : r'.Sound where
  free e := by simp [e, Status.phase] at hp
  owned _ _ := by omega
  progress := h.progress hs
  released := hres
  bound e := by simp [e, Status.phase] at hp
  early _ := by omega
  running _ := by omega
  cancelled _ := hp

end Kept

/-- A record that moves among the running states. -/
theorem Sound.running_move {r r' : Session} (hs : r.Sound) (hp : r'.status.phase = 3)
    (hready : r'.readyAt.isSome) (howner : r'.provisioningOperationId = r.provisioningOperationId)
    (hprogress : r'.provisioningInProgress = r.provisioningInProgress)
    (hcancel : r'.provisioningCancelRequested = false) : r'.Sound where
  free e := by simp [e, Status.phase] at hp
  owned _ _ := by omega
  progress := by rw [howner, hprogress, hs.progress]
  released _ := by omega
  bound e := by simp [e, Status.phase] at hp
  early _ := by omega
  running _ := hready
  cancelled e := by rw [hcancel] at e; cases e

end Session

/-! ### Partial updates -/

/-- A change that sets neither the owner nor the time of readiness. -/
def Change.tame : Change → Bool
  | readyAt _ | provisioningOperationId (some _) | provisioningInProgress true => false
  | _ => true

/-- A change that gives up the owner, and one that ends the provisioning. -/
def Change.clearsOwner : Change → Bool
  | provisioningOperationId none => true
  | _ => false

def Change.clearsProgress : Change → Bool
  | provisioningInProgress false => true
  | _ => false

/-- Changes that keep the lifecycle fields and give up the owner only together with the provisioning. -/
structure TameChanges (changes : List Change) : Prop where
  tame : ∀ c ∈ changes, c.tame
  both : changes.any Change.clearsOwner = changes.any Change.clearsProgress

/-- What tame changes do to a record. -/
theorem updateOf_tame {context : String} {changes : List Change} {update : Session → Session}
    (h : updateOf context changes = .ok update) (ht : ∀ c ∈ changes, c.tame) (r : Session) :
    (update r).sessionId = r.sessionId ∧ (update r).userId = r.userId ∧
    (update r).idempotencyKey = r.idempotencyKey ∧ (update r).entitlementReserved = r.entitlementReserved ∧
    (update r).readyAt = r.readyAt ∧ (update r).status = r.status ∧
    ((update r).provisioningCancelRequested = true →
      r.provisioningCancelRequested = true ∨ .provisioningCancelRequested true ∈ changes) ∧
    (update r).provisioningOperationId =
      (if changes.any Change.clearsOwner then none else r.provisioningOperationId) ∧
    (update r).provisioningInProgress =
      (if changes.any Change.clearsProgress then false else r.provisioningInProgress) := by
  induction changes generalizing update r with
  | nil =>
    obtain rfl := Except.ok.inj h
    exact ⟨rfl, rfl, rfl, rfl, rfl, rfl, Or.inl, rfl, rfl⟩
  | cons c changes ih =>
    obtain ⟨f, hf, h⟩ := bind_eq_ok.mp h
    obtain ⟨g, hg, h⟩ := bind_eq_ok.mp h
    obtain rfl := pure_eq_ok.mp h
    obtain ⟨i1, i2, i3, i4, i5, i6, i7, i8, i9⟩ := ih hg (fun c hc => ht c (List.mem_cons_of_mem _ hc)) (f r)
    have hc := ht c List.mem_cons_self
    simp only [i1, i2, i3, i4, i5, i6, i8, i9, List.any_cons, List.mem_cons]
    cases c with
    | readyAt v => cases hc
    | provisioningOperationId v =>
      cases v with
      | some u => cases hc
      | none =>
        obtain rfl := Except.ok.inj hf
        exact ⟨rfl, rfl, rfl, rfl, rfl, rfl, fun e => (i7 e).imp id Or.inr, by simp [Change.clearsOwner],
          by simp [Change.clearsProgress]⟩
    | provisioningInProgress v =>
      cases v with
      | true => cases hc
      | false =>
        obtain rfl := Except.ok.inj hf
        exact ⟨rfl, rfl, rfl, rfl, rfl, rfl, fun e => (i7 e).imp id Or.inr, by simp [Change.clearsOwner],
          by simp [Change.clearsProgress]⟩
    | provisioningCancelRequested v =>
      obtain rfl := Except.ok.inj hf
      refine ⟨rfl, rfl, rfl, rfl, rfl, rfl, fun e => ?_, by simp [Change.clearsOwner], by simp [Change.clearsProgress]⟩
      rcases i7 e with e | e
      · exact Or.inr (Or.inl (congrArg Change.provisioningCancelRequested e.symm))
      · exact Or.inr (Or.inr e)
    | _ =>
      obtain rfl := Except.ok.inj hf
      exact ⟨rfl, rfl, rfl, rfl, rfl, rfl, fun e => (i7 e).imp id Or.inr, by simp [Change.clearsOwner],
        by simp [Change.clearsProgress]⟩

theorem TameChanges.kept {context : String} {changes : List Change} {update : Session → Session}
    (ht : TameChanges changes) (h : updateOf context changes = .ok update) (r : Session) : r.Kept (update r) := by
  obtain ⟨h1, h2, h3, _, h5, _, _, h8, h9⟩ := updateOf_tame h ht.tame r
  refine ⟨h1, h2, h3, h5, ?_⟩
  rw [h8, h9, ht.both]
  split
  · exact Or.inr ⟨rfl, rfl⟩
  · exact Or.inl ⟨rfl, rfl⟩

/-- A change that touches nothing of the lifecycle. -/
def Change.plain : Change → Bool
  | readyAt _ | provisioningOperationId _ | provisioningInProgress _ | provisioningCancelRequested _ => false
  | _ => true

theorem updateOf_plain {context : String} {changes : List Change} {update : Session → Session}
    (h : updateOf context changes = .ok update) (hp : ∀ c ∈ changes, c.plain) (r : Session) : r.Same (update r) := by
  induction changes generalizing update r with
  | nil =>
    obtain rfl := Except.ok.inj h
    exact .refl r
  | cons c changes ih =>
    obtain ⟨f, hf, h⟩ := bind_eq_ok.mp h
    obtain ⟨g, hg, h⟩ := bind_eq_ok.mp h
    obtain rfl := pure_eq_ok.mp h
    refine Session.Same.trans ?_ (ih hg (fun c hc => hp c (List.mem_cons_of_mem _ hc)) (f r))
    have hc := hp c List.mem_cons_self
    cases c <;> first
      | (obtain rfl := Except.ok.inj hf; exact ⟨rfl, rfl, rfl, rfl, rfl, rfl, rfl, rfl, rfl⟩)
      | cases hc

namespace SessionStore
open Session

/-! ### The committed records -/

theorem newSession_sound (sid user : String) (env : Environment) (mode : EgressMode) (now : Timestamp) :
    (newSession sid user env mode now).Sound :=
  ⟨fun _ => rfl, fun h => absurd h (by simp [newSession, Status.phase]), rfl,
    fun h => absurd h (by simp [newSession, Status.phase]), fun _ h => absurd h (by simp [newSession]), fun _ => rfl,
    fun h => absurd h (by simp [newSession, Status.phase]), fun h => absurd h (by simp [newSession])⟩

theorem appendEventLocked_same (r : Session) (type : String) (reason : Option String) (payload : Json)
    (origin : String) (now : Timestamp) : r.Same (r.appendEventLocked type reason payload origin now) :=
  ⟨rfl, rfl, rfl, rfl, rfl, rfl, rfl, rfl, rfl⟩

theorem foldl_same {f : Session → String → Session} (hf : ∀ (r : Session) (e : String), r.Same (f r e))
    (types : List String) (r : Session) : r.Same (types.foldl f r) := by
  induction types generalizing r with
  | nil => exact .refl r
  | cons e types ih => exact (hf r e).trans (ih (f r e))

theorem audited_same (r : Session) (event : Option EventDraft) (now : Timestamp) : r.Same (audited r event now) := by
  cases event <;> exact ⟨rfl, rfl, rfl, rfl, rfl, rfl, rfl, rfl, rfl⟩

theorem commanded_same (r : Session) (mode : AudioMode) (key operator : String) (fresh : Uuid) (now : Timestamp) :
    r.Same (commanded r mode key operator fresh now) :=
  ⟨rfl, rfl, rfl, rfl, rfl, rfl, rfl, rfl, rfl⟩

theorem nodeBound_same (r : Session) (node boot : String) (now : Timestamp) : r.Same (nodeBound r node boot now) :=
  ⟨rfl, rfl, rfl, rfl, rfl, rfl, rfl, rfl, rfl⟩

theorem relay_same (o : RelayClientObservation) (r : Session) (node : String) (types : List String)
    (observedAt now : Timestamp) : r.Same (o.record r node types observedAt now) := by
  have h := foldl_same (f := fun r eventType =>
    r.appendEventLocked eventType o.reasonCode (o.payload node) "node-agent" now)
    (fun r e => appendEventLocked_same r _ _ _ _ _) types r
  exact ⟨h.1, h.2, h.3, h.4, h.5, h.6, h.7, h.8, h.9⟩

theorem transitions_kept {context : String} {changes : List Change} {update : Session → Session}
    (ht : TameChanges changes) (hu : updateOf context changes = .ok update) (r : Session) (new : Status)
    (now : Timestamp) : r.Kept (transitioned r update new now) := by
  have h := ht.kept hu r
  unfold transitioned
  split <;> exact ⟨h.1, h.2, h.3, h.4, h.5⟩

theorem stopRequested_kept (r : Session) (now : Timestamp) : r.Kept (stopRequested r now) :=
  ⟨rfl, rfl, rfl, rfl, Or.inl ⟨rfl, rfl⟩⟩

/-- A record with nothing of its lifecycle changed but the reservation, which is now held. -/
theorem sound_of_reserve {r r' : Session} (h : r.Sound) (hlate : r.status ∉ [finished, failed])
    (hstatus : r'.status = r.status) (howner : r'.provisioningOperationId = r.provisioningOperationId)
    (hprogress : r'.provisioningInProgress = r.provisioningInProgress) (hready : r'.readyAt = r.readyAt)
    (hcancel : r'.provisioningCancelRequested = r.provisioningCancelRequested)
    (hres : r'.entitlementReserved = true) : r'.Sound where
  free e := howner.trans (h.free (hstatus ▸ e))
  owned h1 h2 := by
    rw [hstatus] at h1 h2
    rw [howner]
    exact h.owned h1 h2
  progress := by rw [howner, hprogress, h.progress]
  released e := by
    rw [hstatus] at e
    cases hs : r.status <;> simp [hs, Status.phase] at e hlate
  bound _ _ := hres
  early e := hready.trans (h.early (hstatus ▸ e))
  running e := by
    rw [hready]
    exact h.running (hstatus ▸ e)
  cancelled e := by
    rw [hstatus]
    exact h.cancelled (hcancel ▸ e)

theorem claimed_sound {r : Session} (op : Uuid) (t now : Timestamp) (h : r.Sound) (hs : r.status = stopped) :
    (claimed r op t now).Sound where
  free e := nomatch e
  owned _ _ := rfl
  progress := rfl
  released e := absurd e (by simp [claimed, Status.phase])
  bound e := nomatch e
  early _ := h.early (by simp [hs, Status.phase])
  running e := absurd e (by simp [claimed, Status.phase])
  cancelled e := nomatch e

theorem claimed_later {r : Session} (op : Uuid) (t now : Timestamp) (hs : r.status = stopped) :
    r.Later (claimed r op t now) :=
  ⟨rfl, by simp [hs, Status.phase], fun e => absurd e (by simp [hs, Status.phase]), fun _ => rfl, id,
    fun e => absurd e (by simp [hs, Status.phase]), fun e => absurd e (by simp [hs, Status.phase])⟩

theorem heard_sound {r : Session} (observed : Timestamp) (ready : Bool) (h : r.Sound) : (heard r observed ready).Sound := by
  unfold heard
  dsimp only
  split
  · rename_i hr
    simp only [Bool.and_eq_true, decide_eq_true_eq] at hr
    refine h.running_move rfl rfl rfl rfl ?_
    by_contra hc
    have := h.cancelled (by simpa using hc)
    simp [hr.2, Status.phase] at this
  · exact ⟨h.1, h.2, h.3, h.4, h.5, h.6, h.7, h.8⟩

theorem heard_later (r : Session) (observed : Timestamp) (ready : Bool) : r.Later (heard r observed ready) := by
  unfold heard
  dsimp only
  split
  · rename_i hr
    simp only [Bool.and_eq_true, decide_eq_true_eq] at hr
    exact ⟨rfl, by simp [hr.2, Status.phase], fun e => absurd e (by simp [hr.2, Status.phase]), fun _ => rfl,
      fun _ => rfl, fun e => absurd e (by simp [hr.2, Status.phase]), fun _ => Or.inl rfl⟩
  · exact ⟨rfl, le_rfl, fun _ => rfl, fun _ => rfl, id, fun _ _ => rfl, fun _ => Or.inl rfl⟩

/-! ### Ingest observations -/

namespace IngestObservation
variable {o : IngestObservation}

/-- An observation only ever moves a Session among the running states. -/
theorem target_running {state next : Status} {event : String} {reason : Option String}
    (h : o.target state = some (next, event, reason)) : state.phase = 3 ∧ next.phase = 3 := by
  unfold target at h
  cases state <;> simp at h <;> repeat' split at h
  all_goals first
    | (obtain ⟨rfl, -⟩ := Prod.mk.inj (Option.some.inj h); exact ⟨rfl, rfl⟩)
    | cases h

theorem recoveryTarget_running {target : Status} {reason : Option String}
    (h : o.recoveryTarget = some (target, reason)) : target.phase = 3 := by
  unfold recoveryTarget at h
  simp only at h
  split at h
  · obtain ⟨rfl, -⟩ := Prod.mk.inj (Option.some.inj h)
    rfl
  · split at h
    · obtain ⟨rfl, -⟩ := Prod.mk.inj (Option.some.inj h)
      rfl
    · cases h

theorem recoveryCandidateReady_same (r : Session) (stable : Timestamp) (source : Option String)
    (current : Timestamp) : r.Same (r.recoveryCandidateReady stable source current).2 := by
  unfold Session.recoveryCandidateReady
  split
  · split <;> exact ⟨rfl, rfl, rfl, rfl, rfl, rfl, rfl, rfl, rfl⟩
  · exact ⟨rfl, rfl, rfl, rfl, rfl, rfl, rfl, rfl, rfl⟩

theorem clearRecoveryCandidate_same (r : Session) : r.Same r.clearRecoveryCandidate :=
  ⟨rfl, rfl, rfl, rfl, rfl, rfl, rfl, rfl, rfl⟩

theorem decide_spec (r : Session) (stable current : Timestamp) :
    r.Same (o.decide r stable current).2 ∧ ∀ target event reason,
      (o.decide r stable current).1 = some (target, event, reason) → r.status.phase = 3 ∧ target.phase = 3 := by
  unfold decide
  split
  · rename_i hh
    split
    · exact ⟨clearRecoveryCandidate_same r, fun _ _ _ h => nomatch h⟩
    · rename_i t reason ht
      refine ⟨recoveryCandidateReady_same r _ _ _, fun target event reason' h => ⟨by rw [hh]; rfl, ?_⟩⟩
      dsimp only at h
      split at h
      · obtain ⟨rfl, -⟩ := Prod.mk.inj (Option.some.inj h)
        exact recoveryTarget_running ht
      · cases h
  · exact ⟨.refl r, fun _ _ _ h => target_running h⟩

theorem stamp_same (r : Session) (target : Status) (current : Timestamp) : r.Same (o.stamp r target current) := by
  unfold stamp
  split
  · exact ⟨rfl, rfl, rfl, rfl, rfl, rfl, rfl, rfl, rfl⟩
  · split <;> exact ⟨rfl, rfl, rfl, rfl, rfl, rfl, rfl, rfl, rfl⟩

/-- The lifecycle part of an observation changes nothing but the status, and that among the running
    states. -/
theorem advance_spec (r : Session) (node : String) (stable current : Timestamp) :
    r.Same (o.advance r node stable current) ∨ ∃ target, r.status.phase = 3 ∧ target.phase = 3 ∧
      ({ r with status := target } : Session).Same (o.advance r node stable current) := by
  obtain ⟨hsame, hmove⟩ := decide_spec (o := o) r stable current
  unfold advance
  dsimp only
  split
  · rename_i target event reason hd
    obtain ⟨h3, ht⟩ := hmove _ _ _ hd
    split
    · refine Or.inr ⟨target, h3, ht, ?_⟩
      refine Session.Same.trans ?_ (appendEventLocked_same _ _ _ _ _ _)
      refine Session.Same.trans ?_ (stamp_same _ _ _)
      exact ⟨hsame.1, hsame.2, rfl, hsame.4, hsame.5, hsame.6, hsame.7, hsame.8, hsame.9⟩
    · split
      · exact Or.inl (hsame.trans (clearRecoveryCandidate_same _))
      · exact Or.inl hsame
  · split
    · exact Or.inl (hsame.trans (clearRecoveryCandidate_same _))
    · exact Or.inl hsame

theorem appendEvents_same (r : Session) (node : String) (types : List String) (current : Timestamp) :
    r.Same (o.appendEvents r node types current) :=
  foldl_same (fun r _ => appendEventLocked_same r _ _ _ _ _) types r

/-- The record that `apply_ingest_observation` commits. -/
theorem committed_spec (r : Session) (node : String) (types : List String) (stable current : Timestamp) :
    let r' := { o.advance (o.appendEvents r node types current) node stable current with
      nodeId := some node, updatedAt := current }
    r.Same r' ∨ ∃ target, r.status.phase = 3 ∧ target.phase = 3 ∧ ({ r with status := target } : Session).Same r' := by
  have ha := appendEvents_same (o := o) r node types current
  rcases advance_spec (o := o) (o.appendEvents r node types current) node stable current with h | ⟨t, h3, ht, h⟩
  · have h := ha.trans h
    exact Or.inl ⟨h.1, h.2, h.3, h.4, h.5, h.6, h.7, h.8, h.9⟩
  · rw [ha.status] at h3
    exact Or.inr ⟨t, h3, ht, h.1.trans ha.1, h.2.trans ha.2, h.3, h.4.trans ha.4, h.5.trans ha.5, h.6.trans ha.6,
      h.7.trans ha.7, h.8.trans ha.8, h.9.trans ha.9⟩

end IngestObservation
end SessionStore
end IRLight
