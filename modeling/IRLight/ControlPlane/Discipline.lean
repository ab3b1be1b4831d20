import IRLight.Session.Leases
import IRLight.Session.Lifecycle
import IRLight.ControlPlane.System

/-! # The discipline of the store's callers

What the programs of the Control Plane observe when they call an authority (`Permits`), and what a call
that observes it can do to the Session records (`Commits`). -/

namespace IRLight
open Interleaving Status

/-- What a task has done so far, the latest call first. -/
abbrev History := List (Event Op Op.Res Exc Input)

/-- The task has claimed the Session's provisioning. -/
def Claims (h : History) (sessionId : String) : Prop :=
  ∃ e ∈ h, ∃ operationId startedAt, e.op = .store (.claimProvisioning sessionId operationId startedAt) ∧ e.isOk

/-- The task has revoked the Session's credentials. -/
def Revoked (h : History) (sessionId : String) : Prop := ∃ e ∈ h, e.op = .revokeSession sessionId ∧ e.isOk

/-- The Session is past its running states. -/
def World.Late (w : World) (sessionId : String) : Prop :=
  ∃ r, w.store.session? sessionId = some r ∧ 4 ≤ r.status.phase

/-- The Session failed before it ever accepted media, and nobody provisions it. -/
def World.NeverReady (w : World) (sessionId : String) : Prop :=
  ∃ r, w.store.session? sessionId = some r ∧ 4 ≤ r.status.phase ∧ r.provisioningOperationId = none ∧ r.readyAt = none

/-- The checkpoints that `prepare` makes. -/
inductive CheckpointShape : Option Status → Bool → List Change → Prop
  | resource {changes : List Change} (plain : ∀ c ∈ changes, c.plain) : CheckpointShape none false changes
  | bootstrapping : CheckpointShape (some bootstrapping) false []
  | ready (reading : PyFloat) : CheckpointShape (some readyWaitIngest) true [.readyAt reading]

/-- The owner has not moved the Session yet. -/
def World.Awaiting (sid : String) (op : Uuid) (w : World) : Prop :=
  ∀ r, w.store.session? sid = some r → r.provisioningOperationId = some op →
    r.status = provisioning ∨ 3 ≤ r.status.phase

/-- The Session is past provisioning. -/
def World.Begun (sid : String) (w : World) : Prop := ∃ r, w.store.session? sid = some r ∧ 2 ≤ r.status.phase

/-- Where a checkpoint may find its Session. -/
def CheckpointFits (w : World) (sid : String) (op : Uuid) : Option Status → Prop
  | some bootstrapping => w.Awaiting sid op
  | some readyWaitIngest => w.Begun sid
  | _ => True

/-- What a call of the Session store observes. Where only the API prepares Sessions (`apiOnly`), it binds a
    Session before the workflow sees it. -/
def StorePermits (apiOnly : Prop) (i : ℕ) (h : History) (w : World) : StoreOp → Prop
  | .create sid _ _ => apiOnly → (w.store.session? sid).isSome
  | .claimProvisioning sid op _ => op.owner = i ∧ op.serial < w.serial ∧
      (∀ sid' r, w.store.session? sid' = some r → r.provisioningOperationId ≠ some op) ∧
      (apiOnly → ∃ r, w.store.session? sid = some r ∧ r.idempotencyKey.isSome)
  | .provisioningCheckpoint sid op next complete changes => op.owner = i ∧ CheckpointShape next complete changes ∧
      CheckpointFits w sid op next
  | .requestStopIfCurrent _ expected _ => expected ∈ activeStates
  | .transition sid new allowed changes => TameChanges changes ∧
      (new = failedCleanup ∧ (∀ st ∈ allowed, st ∈ activeStates ++ [stopping]) ∨
        (new = finished ∧ allowed = [stopping] ∨ new = failed ∧ allowed = [failedCleanup]) ∧
          (Revoked h sid ∨ w.NeverReady sid))
  | .transitionIfCurrent _ new allowed _ changes => TameChanges changes ∧
      new = failedCleanup ∧ ∀ st ∈ allowed, st ∈ activeStates
  | .update sid changes => (∀ c ∈ changes, c.plain) ∨
      TameChanges changes ∧ w.Late sid
  | .updateIfCurrent _ _ _ _ changes => ∀ c ∈ changes, c.plain
  | _ => True

/-- What a call observes. Resources of a Session are created only by the task that claimed it, and
    credentials are issued only for a Session that has accepted media. -/
def Permits (apiOnly : Prop) (i : ℕ) (h : History) (o : Op) (w : World) : Prop :=
  match o with
  | .store o => StorePermits apiOnly i h w o
  | .issue sid _ _ _ _ _ => ∃ r, w.store.session? sid = some r ∧ r.readyAt.isSome
  | .createVolume _ _ tags => ∃ sid, tags.sessionId = some sid ∧ Claims h sid
  | .createServer _ _ _ _ tags => ∃ sid, tags.sessionId = some sid ∧ Claims h sid
  | _ => True

/-! ### What a permitted call can do -/

namespace StoreOp

/-- The call is a heartbeat of a ready Node. -/
def readies : StoreOp → Bool
  | recordNodeHeartbeat _ _ _ _ ready => ready
  | _ => false

/-- The provisioning that the call is a checkpoint of. -/
def mover? : StoreOp → Option Uuid
  | provisioningCheckpoint _ op _ _ _ => some op
  | _ => none

/-- The call ends a Session. -/
def ends : StoreOp → Bool
  | transition _ new _ _ => new ∈ [finished, failed]
  | _ => false

end StoreOp

/-- One version of a record and the next, by the call `o`. -/
structure Session.Step (o : StoreOp) (r r' : Session) : Prop where
  sound : r'.Sound
  later : r.Later r'
  sessionId : r'.sessionId = r.sessionId
  owner : r'.provisioningOperationId = r.provisioningOperationId ∨ r'.provisioningOperationId = none
  occupies : r'.occupies = true → r.occupies = true
  arrives : r'.status.phase = 3 → r.status.phase = 3 ∨ r'.provisioningOperationId = none ∨ o.readies
  steady : r'.status.phase ≤ 2 → r'.status = r.status ∨ ∃ u, o.mover? = some u ∧ r'.provisioningOperationId = some u
  ends : 5 ≤ r'.status.phase → 5 ≤ r.status.phase ∨ o.ends

/-- The slot that a successful call takes: the Session, its user and the limit. -/
def StoreOp.slot? : StoreOp → Option (String × String × ℤ)
  | reservePrepareSlot sid user _ _ max => some (sid, user, max)
  | beginPrepare sid user _ _ max _ => some (sid, user, max)
  | _ => none

/-- What a successful call of the store does to the records. -/
inductive Commits (apiOnly : Prop) (o : StoreOp) (s : SessionStore) : SessionStore → Prop
  | same {s' : SessionStore} (h : s'.sessions = s.sessions) : Commits apiOnly o s s'
  | step {sid : String} {r r' : Session} (hr : s.session? sid = some r) (h : r.Step o r') : Commits apiOnly o s (s.put sid r')
  | reserve {sid user : String} {max : ℤ} {r r' : Session} (hr : s.session? sid = some r) (ho : o.slot? = some (sid, user, max))
      (hs : r'.Sound) (hl : r.Later r') (hid : r'.sessionId = r.sessionId) (hu : r.userId = user)
      (how : r'.provisioningOperationId = r.provisioningOperationId) (hst : r'.status = r.status)
      (hmax : (s.occupied sid user : ℤ) < max ∨ r.occupies = true) : Commits apiOnly o s (s.put sid r')
  | fresh {sid user : String} {max : ℤ} {r' : Session} (hr : s.session? sid = none) (ho : o.slot? = some (sid, user, max))
      (hs : r'.Sound) (hid : r'.sessionId = sid) (hu : r'.userId = user) (how : r'.provisioningOperationId = none)
      (hmax : (s.occupied sid user : ℤ) < max) : Commits apiOnly o s (s.put sid r')
  | created {sid : String} {r' : Session} (hapi : ¬apiOnly) (hr : s.session? sid = none) (hs : r'.Sound)
      (hid : r'.sessionId = sid) (how : r'.provisioningOperationId = none) (hocc : r'.occupies = false) :
      Commits apiOnly o s (s.put sid r')
  | claim {sid : String} {op : Uuid} {started : PyFloat} {r : Session} {t now : Timestamp}
      (ho : o = .claimProvisioning sid op started) (hr : s.session? sid = some r) (hstop : r.status = stopped)
      (hkey : apiOnly → r.idempotencyKey.isSome) : Commits apiOnly o s (s.put sid (SessionStore.claimed r op t now))

theorem Session.Same.step {o : StoreOp} {r r' : Session} (h : r.Same r') (hs : r.Sound) : r.Step o r' :=
  ⟨h.sound hs, h.later, h.sessionId, Or.inl h.owner, by rw [h.occupies]; exact id,
    fun e => Or.inl (h.status ▸ e), fun _ => Or.inl h.status, fun e => Or.inl (h.status ▸ e)⟩

theorem occupies_of_status {r : Session} (h : r.status ∈ capacityStates) : r.occupies = true := by
  simp [Session.occupies, h]

theorem phase_of_capacity {st : Status} (h : st ∈ capacityStates) : 1 ≤ st.phase ∧ st.phase ≤ 4 := by
  revert h
  cases st <;> decide

/-- A record that moves on to a cleanup or terminal state from one that occupies its slot. -/
theorem Session.Kept.step {o : StoreOp} {r r' : Session} (h : r.Kept r') (hs : r.Sound) (hr : r.status ∈ capacityStates)
    (hp : 4 ≤ r'.status.phase) (hres : 5 ≤ r'.status.phase → r'.entitlementReserved = false)
    (hends : 5 ≤ r'.status.phase → o.ends) : r.Step o r' where
  sound := h.sound hs hp hres
  later := by
    refine h.later ?_ fun hf => ?_
    · have := phase_of_capacity hr
      omega
    · have := phase_of_capacity hr
      omega
  sessionId := h.sessionId
  owner := h.owner.imp And.left And.left
  occupies _ := occupies_of_status hr
  arrives e := by omega
  steady e := by omega
  ends e := Or.inr (hends e)

namespace SessionStore
variable {s s' : SessionStore} {sid : String} {r r' : Session} {o : StoreOp}

theorem step_of_running (hs : r.Sound) {target : Status} (h3 : r.status.phase = 3) (ht : target.phase = 3) :
    r.Step o { r with status := target } where
  sound := hs.running_move ht (hs.running h3) rfl rfl (by
    by_contra hc
    have := hs.cancelled (by simpa using hc)
    omega)
  later := ⟨rfl, by simp [h3, ht], fun e => by omega, fun _ => rfl, id, fun _ _ => rfl, fun _ => Or.inl rfl⟩
  sessionId := rfl
  owner := Or.inl rfl
  occupies _ := occupies_of_status (by
    revert h3
    cases r.status <;> decide)
  arrives _ := Or.inl h3
  steady e := absurd e (by simp [ht])
  ends e := absurd e (by simp [ht])

theorem late_of_cancelled (hs : r.Sound) (hc : r.provisioningCancelled = true) : 4 ≤ r.status.phase := by
  simp only [Session.provisioningCancelled, Bool.or_eq_true, decide_eq_true_eq] at hc
  rcases hc with hc | hc
  · exact hs.cancelled hc
  · revert hc
    cases r.status <;> decide

theorem advanced_eq_ok {next : Status} {r₁ : Session} (h : advanced r (some next) = .ok r₁) :
    next ∈ transitions r.status ∧ r₁ = { r with status := next }.clearRecoveryCandidate := by
  obtain ⟨_, hn, h⟩ := bind_eq_ok.mp h
  rw [raiseIf_eq_ok, not_not] at hn
  exact ⟨hn, (pure_eq_ok.mp h).symm⟩

/-- A Session that is being provisioned has an owner, so a fresh identifier claims a stopped one only. -/
theorem stopped_of_claim (hs : r.Sound) {op : Uuid} (hst : r.status ∈ [stopped, provisioning, bootstrapping])
    (hop : r.provisioningOperationId = none ∨ r.provisioningOperationId = some op)
    (hunused : r.provisioningOperationId ≠ some op) : r.status = stopped := by
  have howned := hs.owned
  have hnone := hop.resolve_right hunused
  cases hc : r.status <;> simp_all [Status.phase]

/-- A checkpoint of the owner. -/
theorem step_of_checkpoint (hs : r.Sound) {op : Uuid} (hop : r.provisioningOperationId = some op)
    {next : Option Status} {complete : Bool} {changes : List Change} (hshape : CheckpointShape next complete changes)
    {context : String} {update : Session → Session} (hu : updateOf context changes = .ok update)
    {now : Timestamp} (hr' : (update r).provisioningCancelled = true ∧ r' = { update r with updatedAt := now } ∨
        (update r).provisioningCancelled = false ∧ ∃ r₁, advanced (update r) next = .ok r₁ ∧
          r' = { (if complete then completed r₁ else r₁) with updatedAt := now })
    (hmover : o.mover? = some op) : r.Step o r' := by
  cases hshape with
  | resource plain =>
    have hsame := updateOf_plain hu plain r
    have : r' = { update r with updatedAt := now } := by
      rcases hr' with ⟨_, rfl⟩ | ⟨_, r₁, hadv, rfl⟩
      · rfl
      · obtain rfl := Except.ok.inj hadv
        rfl
    subst this
    exact Session.Same.step ⟨hsame.1, hsame.2, hsame.3, hsame.4, hsame.5, hsame.6, hsame.7, hsame.8, hsame.9⟩ hs
  | bootstrapping =>
    obtain rfl := Except.ok.inj hu
    rcases hr' with ⟨_, rfl⟩ | ⟨_, r₁, hadv, rfl⟩
    · exact Session.Same.step ⟨rfl, rfl, rfl, rfl, rfl, rfl, rfl, rfl, rfl⟩ hs
    · obtain ⟨hn, rfl⟩ := advanced_eq_ok hadv
      have hst : r.status = provisioning := by
        revert hn
        simp only [id]
        cases r.status <;> decide
      have hearly := hs.early (by simp [hst, Status.phase])
      have hc : r.provisioningCancelRequested = false := by
        by_contra hc
        have := hs.cancelled (by simpa using hc)
        simp [hst, Status.phase] at this
      exact
        { sound := ⟨(fun e => by cases e), fun _ _ => by simp [hop, Session.clearRecoveryCandidate], hs.progress,
            fun e => absurd e (by simp [Session.clearRecoveryCandidate, Status.phase]), (fun e => by cases e),
            fun _ => hearly, fun e => absurd e (by simp [Session.clearRecoveryCandidate, Status.phase]),
            fun e => absurd e (by simp [hc, Session.clearRecoveryCandidate])⟩
          later := ⟨rfl, by simp [hst, Status.phase, Session.clearRecoveryCandidate],
            fun e => absurd e (by simp [hst, Status.phase]), fun _ => rfl, id, fun _ _ => rfl, fun _ => Or.inl rfl⟩
          sessionId := rfl
          owner := Or.inl rfl
          occupies := fun _ => occupies_of_status (by rw [hst]; decide)
          arrives := (fun e => by cases e)
          steady := fun _ => Or.inr ⟨op, hmover, hop⟩
          ends := fun e => absurd e (by simp [Session.clearRecoveryCandidate, Status.phase]) }
  | ready reading =>
    obtain ⟨f, hf, hu⟩ := bind_eq_ok.mp hu
    obtain ⟨t, _, hf⟩ := bind_eq_ok.mp hf
    obtain rfl := pure_eq_ok.mp hf
    obtain rfl := pure_eq_ok.mp hu
    rcases hr' with ⟨hc, rfl⟩ | ⟨_, r₁, hadv, rfl⟩
    · have hlate : 4 ≤ r.status.phase := late_of_cancelled hs hc
      exact
        { sound := ⟨hs.free, hs.owned, hs.progress, hs.released, hs.bound,
            fun e => absurd e (by simp only [id]; omega), fun _ => rfl, hs.cancelled⟩
          later := ⟨rfl, le_rfl, fun _ => rfl, fun _ => rfl, fun _ => rfl,
            fun _ ho => absurd ho (by simp [hop]), fun _ => Or.inl rfl⟩
          sessionId := rfl
          owner := Or.inl rfl
          occupies := id
          arrives := Or.inl
          steady := fun _ => Or.inl rfl
          ends := Or.inl }
    · obtain ⟨hn, rfl⟩ := advanced_eq_ok hadv
      have hst : r.status = bootstrapping := by
        revert hn
        simp only [id]
        cases r.status <;> decide
      exact
        { sound := ⟨(fun e => by cases e), fun _ e => absurd e (by
              simp [completed, Session.clearRecoveryCandidate, Status.phase]), rfl,
            fun e => absurd e (by simp [completed, Session.clearRecoveryCandidate, Status.phase]),
            (fun e => by cases e), fun e => absurd e (by simp [completed, Session.clearRecoveryCandidate, Status.phase]),
            fun _ => rfl, (fun e => by cases e)⟩
          later := ⟨rfl, by simp [hst, Status.phase, completed, Session.clearRecoveryCandidate],
            fun e => absurd e (by simp [hst, Status.phase]), fun _ => rfl, fun _ => rfl,
            fun e => absurd e (by simp [hst, Status.phase]), fun _ => Or.inr rfl⟩
          sessionId := rfl
          owner := Or.inr rfl
          occupies := fun _ => occupies_of_status (by rw [hst]; decide)
          arrives := fun _ => Or.inr (Or.inl rfl)
          steady := fun e => absurd e (by simp [completed, Session.clearRecoveryCandidate, Status.phase])
          ends := fun e => absurd e (by simp [completed, Session.clearRecoveryCandidate, Status.phase]) }

theorem step_of_stop (hs : r.Sound) (hst : r.status ∉ terminalStates) (now : Timestamp) :
    r.Step o (stopRequested r now) := by
  refine (stopRequested_kept r now).step hs ?_ (by simp [stopRequested, Session.clearRecoveryCandidate, Status.phase])
    (fun e => absurd e ?_) fun e => absurd e ?_
  rotate_left
  · simp [stopRequested, Session.clearRecoveryCandidate, Status.phase]
  · simp [stopRequested, Session.clearRecoveryCandidate, Status.phase]
  revert hst
  cases r.status <;> decide

theorem transitioned_status (r : Session) (update : Session → Session) (new : Status) (now : Timestamp) :
    (transitioned r update new now).status = new := by
  unfold transitioned
  dsimp only
  split <;> rfl

theorem transitioned_reserved (r : Session) (update : Session → Session) {new : Status} (now : Timestamp)
    (hn : 5 ≤ new.phase) : (transitioned r update new now).entitlementReserved = false := by
  unfold transitioned
  have : new ∈ [finished, failed] := by
    revert hn
    cases new <;> decide
  simp only [this, ↓reduceIte]

theorem step_of_transition (hs : r.Sound) {context : String} {changes : List Change} (ht : TameChanges changes)
    {update : Session → Session} (hu : updateOf context changes = .ok update) {new : Status}
    (hr : r.status ∈ capacityStates) (hn : 4 ≤ new.phase) (hends : 5 ≤ new.phase → o.ends) (now : Timestamp) :
    r.Step o (transitioned r update new now) := by
  refine (transitions_kept ht hu r new now).step hs hr (by rw [transitioned_status]; exact hn) (fun e => ?_) fun e => ?_
  · rw [transitioned_status] at e
    exact transitioned_reserved r update now e
  · rw [transitioned_status] at e
    exact hends e

/-- An update of a Session that is past its running states. -/
theorem step_of_late_update (hs : r.Sound) {context : String} {changes : List Change} (ht : TameChanges changes)
    {update : Session → Session}
    (hu : updateOf context changes = .ok update) (hlate : 4 ≤ r.status.phase) (now : Timestamp) :
    r.Step o { update r with updatedAt := now } := by
  have hk := ht.kept hu r
  obtain ⟨-, -, -, hres, -, hst, -, -, -⟩ := updateOf_tame hu ht.tame r
  have hk' : r.Kept { update r with updatedAt := now } := ⟨hk.1, hk.2, hk.3, hk.4, hk.5⟩
  have hst' : ({ update r with updatedAt := now } : Session).status = r.status := hst
  refine ⟨hk'.sound hs (by rw [hst']; exact hlate) fun e => ?_, hk'.later (by rw [hst']) fun _ => hst', hk'.sessionId,
    hk'.owner.imp And.left And.left, fun e => ?_, fun e => Or.inl (hst' ▸ e), fun _ => Or.inl hst',
    fun e => Or.inl (hst' ▸ e)⟩
  · rw [hst'] at e
    exact hres.trans (hs.released e)
  · simp only [Session.occupies, hst, hres] at e ⊢
    exact e

end SessionStore

open SessionStore in
/-- What a permitted call of the store does to the records. -/
theorem StoreOp.commits {apiOnly : Prop} {o : StoreOp} {i : ℕ} {h : History} {w : World} {clock : ℕ → PyFloat} {fresh : Uuid}
    {a : o.Res} {s' : SessionStore} (hrun : o.run clock fresh w.store = .ok (a, s'))
    (hp : StorePermits apiOnly i h w o) (hs : ∀ sid r, w.store.session? sid = some r → r.Sound ∧ r.sessionId = sid) :
    Commits apiOnly o w.store s' := by
  have hsound : ∀ {sid r}, w.store.session? sid = some r → r.Sound := fun hr => (hs _ _ hr).1
  cases o with
  | get sid =>
    obtain ⟨_, rfl⟩ := Prod.mk.inj (Except.ok.inj hrun)
    exact .same rfl
  | create sid user env =>
    rcases effect_create hrun with ⟨_, rfl⟩ | ⟨hr, now, rfl, rfl⟩
    · exact .same rfl
    · refine .created (fun hapi => ?_) hr (newSession_sound ..) rfl rfl rfl
      have hsome : (w.store.session? sid).isSome := hp hapi
      simp [hr] at hsome
  | reservePrepareSlot sid user env ent max =>
    rcases effect_reservePrepareSlot hrun with
      ⟨r₀, hr, hu, ⟨_, _, rfl⟩ | ⟨hst, hocc, now, rfl, rfl⟩⟩ | ⟨hr, hocc, t, now, rfl, rfl⟩
    · exact .same rfl
    · exact .reserve hr rfl (sound_of_reserve (hsound hr) hst rfl rfl rfl rfl rfl rfl)
        ⟨rfl, le_rfl, fun _ => rfl, fun _ => rfl, id, fun _ _ => rfl, fun _ => Or.inl rfl⟩ rfl hu rfl rfl hocc.symm
    · exact .fresh hr rfl (sound_of_reserve (newSession_sound sid user env .directPush t) (by simp [newSession]) rfl
        rfl rfl rfl rfl rfl) rfl rfl rfl hocc
  | beginPrepare sid user request ent max key =>
    obtain ⟨r, replay⟩ := a
    rcases effect_beginPrepare hrun with
      ⟨_, _, _, _, rfl⟩ | ⟨_, hocc, r₀, now, rfl, rfl, ⟨hr, hu, hst, hkey⟩ | ⟨hr, t, rfl⟩⟩
    · exact .same rfl
    · exact .reserve hr rfl (sound_of_reserve (hsound hr) hst rfl rfl rfl rfl rfl rfl)
        ⟨rfl, le_rfl, fun _ => rfl, fun e => absurd e (by simp [hkey]), id, fun _ _ => rfl, fun _ => Or.inl rfl⟩ rfl
        hu rfl rfl (Or.inl hocc)
    · exact .fresh hr rfl (sound_of_reserve (newSession_sound sid user request.environment request.egressMode t)
        (by simp [newSession]) rfl rfl rfl rfl rfl rfl) rfl rfl rfl hocc
  | getPrepareReplay sid user request key =>
    obtain ⟨_, _, h⟩ := map_eq_ok.mp hrun
    obtain ⟨_, rfl⟩ := Prod.mk.inj h
    exact .same rfl
  | authoritativeSnapshot =>
    obtain ⟨_, _, h⟩ := map_eq_ok.mp hrun
    obtain ⟨_, rfl⟩ := Prod.mk.inj h
    exact .same rfl
  | findByProviderServerId server states =>
    obtain ⟨_, rfl⟩ := Prod.mk.inj (Except.ok.inj hrun)
    exact .same rfl
  | sessionsInStates states =>
    obtain ⟨_, rfl⟩ := Prod.mk.inj (Except.ok.inj hrun)
    exact .same rfl
  | claimProvisioning sid op started =>
    obtain ⟨r₀, t, now, hr, hst, hop, rfl, rfl⟩ := effect_claimProvisioning hrun
    obtain ⟨_, _, hunused, hbound⟩ := hp
    refine .claim rfl hr ?_ fun hapi => ?_
    · exact stopped_of_claim (hsound hr) hst hop (hunused sid r₀ hr)
    · obtain ⟨r, hr', hkey⟩ := hbound hapi
      obtain rfl := Option.some.inj (hr.symm.trans hr')
      exact hkey
  | provisioningCheckpoint sid op next complete changes =>
    obtain ⟨r₀, update, now, hr, hop, hu, rfl, hcases⟩ := effect_provisioningCheckpoint hrun
    exact .step hr (step_of_checkpoint (hsound hr) hop hp.2.1 hu hcases rfl)
  | requestStop sid =>
    obtain ⟨r₀, hr, ⟨_, _, rfl⟩ | ⟨hst, now, rfl, rfl⟩⟩ := effect_requestStop hrun
    · exact .same rfl
    · exact .step hr (step_of_stop (hsound hr) hst now)
  | requestStopIfCurrent sid expected fields =>
    rcases effect_requestStopIfCurrent hrun with ⟨_, rfl⟩ | ⟨r₀, now, hr, hst, _, _, rfl⟩
    · exact .same rfl
    · refine .step hr (step_of_stop (hsound hr) (fun hterm => ?_) now)
      have hactive : r₀.status ∈ activeStates := by rw [hst]; exact hp
      revert hterm hactive
      cases r₀.status <;> decide
  | transition sid new allowed changes =>
    obtain ⟨r₀, update, now, hr, hst, hu, rfl, rfl⟩ := effect_transition hrun
    obtain ⟨htame, ⟨rfl, hall⟩ | ⟨⟨rfl, rfl⟩ | ⟨rfl, rfl⟩, _⟩⟩ := hp
    · refine .step hr (step_of_transition (hsound hr) htame hu ?_ (by decide) (fun e => absurd e (by decide)) now)
      have := hall _ hst
      revert this
      cases r₀.status <;> decide
    · exact .step hr (step_of_transition (hsound hr) htame hu (by simp_all [capacityStates]) (by decide) (fun _ => rfl) now)
    · exact .step hr (step_of_transition (hsound hr) htame hu (by simp_all [capacityStates]) (by decide) (fun _ => rfl) now)
  | transitionIfCurrent sid new allowed fields changes =>
    rcases effect_transitionIfCurrent hrun with ⟨_, rfl⟩ | ⟨r₀, update, now, hr, hst, _, hu, _, rfl⟩
    · exact .same rfl
    · obtain ⟨htame, rfl, hall⟩ := hp
      exact .step hr (step_of_transition (hsound hr) htame hu
        (List.mem_append_left _ (hall _ hst)) (by decide) (fun e => absurd e (by decide)) now)
  | update sid changes =>
    obtain ⟨r₀, update, now, hr, hu, rfl, rfl⟩ := effect_update hrun
    rcases hp with hplain | ⟨htame, r, hr', hlate⟩
    · have h := updateOf_plain hu hplain r₀
      exact .step hr (Session.Same.step ⟨h.1, h.2, h.3, h.4, h.5, h.6, h.7, h.8, h.9⟩ (hsound hr))
    · obtain rfl := Option.some.inj (hr.symm.trans hr')
      exact .step hr (step_of_late_update (hsound hr) htame hu hlate now)
  | updateIfCurrent sid expected fields event changes =>
    rcases effect_updateIfCurrent hrun with ⟨_, rfl⟩ | ⟨r₀, update, now, hr, _, _, hu, _, rfl⟩
    · exact .same rfl
    · exact .step hr (((updateOf_plain hu hp r₀).trans (audited_same _ _ _)).step (hsound hr))
  | appendEvent sid type reason payload origin occurred =>
    obtain ⟨r₀, now, hr, rfl⟩ := effect_appendEvent hrun
    exact .step hr (Session.Same.step ⟨rfl, rfl, rfl, rfl, rfl, rfl, rfl, rfl, rfl⟩ (hsound hr))
  | setAudioDesired sid mode version key operator =>
    rcases effect_setAudioDesired hrun with rfl | ⟨r₀, now, hr, rfl⟩
    · exact .same rfl
    · exact .step hr ((commanded_same ..).step (hsound hr))
  | bindNode sid node boot server =>
    obtain ⟨r₀, now, hr, _, _, rfl, rfl⟩ := effect_bindNode hrun
    exact .step hr ((nodeBound_same ..).step (hsound hr))
  | recordNodeHeartbeat sid node boot observed ready =>
    rcases effect_recordNodeHeartbeat hrun with ⟨_, rfl, _⟩ | ⟨_, r₀, hr, hst, _, _, _, rfl⟩
    · exact .same rfl
    · refine .step hr ⟨heard_sound _ _ (hsound hr), heard_later _ _ _, ?_, Or.inl ?_, fun _ => ?_, ?_, ?_, ?_⟩
      · unfold heard; dsimp only; split <;> rfl
      · unfold heard; dsimp only; split <;> rfl
      · exact occupies_of_status (List.mem_append_left _ hst)
      · cases ready
        · exact Or.inl
        · exact fun _ => Or.inr (Or.inr rfl)
      · unfold heard
        dsimp only
        split
        · exact fun e => absurd e (by simp [Status.phase])
        · exact fun _ => Or.inl rfl
      · unfold heard
        dsimp only
        split
        · exact fun e => absurd e (by simp [Status.phase])
        · exact Or.inl
  | applyIngestObservation sid node types observation current =>
    obtain ⟨r₀, hr, ⟨_, rfl⟩ | ⟨_, rfl⟩⟩ := effect_applyIngestObservation hrun
    · exact .same rfl
    · rcases IngestObservation.committed_spec (o := observation) r₀ node types w.store.recoveryStableSeconds current
        with hsame | ⟨target, h3, ht, hsame⟩
      · exact .step hr (hsame.step (hsound hr))
      · have h1 := step_of_running (o := .applyIngestObservation sid node types observation current) (hsound hr) h3 ht
        have h2 := hsame.step (o := .applyIngestObservation sid node types observation current) h1.sound
        exact .step hr ⟨h2.sound, h1.later.trans h2.later, h2.sessionId.trans h1.sessionId,
          Or.inl (hsame.owner), fun e => h1.occupies (h2.occupies e), fun _ => Or.inl h3,
          fun e => absurd (hsame.status ▸ e) (by simp [ht]), fun e => absurd (hsame.status ▸ e) (by simp [ht])⟩
  | applyRelayClientObservation sid node types observation =>
    obtain ⟨r₀, hr, ⟨_, rfl⟩ | ⟨_, observedAt, now, rfl⟩⟩ := effect_applyRelayClientObservation hrun
    · exact .same rfl
    · exact .step hr ((relay_same ..).step (hsound hr))
  | claimOrphanCleanup sid resource kind =>
    rcases effect_claimOrphanCleanup hrun with ⟨_, rfl⟩ | ⟨_, ⟨_, now, scope, _, rfl⟩, _⟩ <;> exact .same rfl
  | claimSessionCleanup sid =>
    rcases effect_claimSessionCleanup hrun with ⟨_, rfl⟩ | ⟨_, ⟨_, now, scope, _, rfl⟩, _⟩ <;> exact .same rfl
  | orphanCleanupStillOwned sid lease =>
    obtain ⟨_, _, h⟩ := map_eq_ok.mp hrun
    obtain ⟨_, rfl⟩ := Prod.mk.inj h
    exact .same rfl
  | sessionCleanupStillOwned sid lease =>
    obtain ⟨_, _, h⟩ := map_eq_ok.mp hrun
    obtain ⟨_, rfl⟩ := Prod.mk.inj h
    exact .same rfl
  | releaseOrphanCleanup sid lease =>
    obtain ⟨_, hr, h⟩ := map_eq_ok.mp hrun
    obtain ⟨_, rfl⟩ := Prod.mk.inj h
    rcases effect_releaseOrphanCleanup hr with rfl | ⟨_, rfl⟩ <;> exact .same rfl
  | releaseSessionCleanup sid lease =>
    obtain ⟨_, hr, h⟩ := map_eq_ok.mp hrun
    obtain ⟨_, rfl⟩ := Prod.mk.inj h
    rcases effect_releaseSessionCleanup hr with rfl | ⟨_, rfl⟩ <;> exact .same rfl

end IRLight
