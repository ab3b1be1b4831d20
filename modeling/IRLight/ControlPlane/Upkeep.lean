import IRLight.ControlPlane.Cleanups

/-! # What a call does to the records and the leases

One lemma says for every call of the store how a record moves (`StoreOp.upkeeps`), and one what becomes of the
leases (`StoreOp.leases`). -/

namespace IRLight
open Interleaving Status SessionStore

/-! ### Records -/

/-- The call claims or releases a lease. -/
def StoreOp.leases : StoreOp → Bool
  | claimOrphanCleanup _ _ _ | releaseOrphanCleanup _ _ | claimSessionCleanup _ | releaseSessionCleanup _ _ => true
  | _ => false

/-- What a permitted call does to the records: a new version follows the transition table, leaves STOPPED by a claim
    and the cleanup states by an ending transition, and keeps the fields that follow the status. -/
inductive Upkeeps (mine : String → Prop) (o : StoreOp) (s : SessionStore) : SessionStore → Prop
  | same : Upkeeps mine o s s
  | leased {s' : SessionStore} (ho : o.leases) (h : s'.sessions = s.sessions) : Upkeeps mine o s s'
  | step {sid : String} {r r' : Session} (hr : s.session? sid = some r)
      (table : r'.status = r.status ∨ r'.status ∈ transitions r.status)
      (claim : r.status = stopped → r'.status = stopped ∨ ∃ op started, o = .claimProvisioning sid op started)
      (ends : r.status ∈ cleanupStates → r'.status ∈ cleanupStates ∨
        ∃ new allowed changes, o = .transition sid new allowed changes ∧ new ∈ [finished, failed])
      (upkept : r.Upkept → (mine sid → r.status ∈ cleanupStates) → r'.Upkept) : Upkeeps mine o s (s.put sid r')
  | fresh {sid : String} {r' : Session} (hr : s.session? sid = none) (hst : r'.status = stopped) (hu : r'.Upkept) :
      Upkeeps mine o s (s.put sid r')

section
variable {mine : String → Prop} {o : StoreOp} {s s' : SessionStore} {sid : String} {r r' : Session}

theorem Upkeeps.alike (hr : s.session? sid = some r) (h : r.Alike r') : Upkeeps mine o s (s.put sid r') :=
  .step hr (Or.inl h.status) (fun e => Or.inl (h.status.trans e)) (fun e => Or.inl (h.status ▸ e)) fun hu _ => h.upkept hu

/-- A move out of an active state. -/
theorem Upkeeps.of_active (hr : s.session? sid = some r) (hactive : r.status ∈ activeStates)
    (table : r'.status = r.status ∨ r'.status ∈ transitions r.status) (upkept : r.Upkept → r'.Upkept) :
    Upkeeps mine o s (s.put sid r') := by
  refine .step hr table (fun e => ?_) (fun e => ?_) fun hu _ => upkept hu
  · rw [e] at hactive
    exact absurd hactive (by decide)
  · have hnot : ∀ st : Status, st ∈ activeStates → st ∉ cleanupStates := by decide
    exact absurd e (hnot _ hactive)

theorem stop_table (hst : r.status ∉ terminalStates) : stopping = r.status ∨ stopping ∈ transitions r.status := by
  revert hst
  cases r.status <;> decide

theorem Upkeeps.of_stop (hr : s.session? sid = some r) (hst : r.status ∉ terminalStates) (now : Timestamp) :
    Upkeeps mine o s (s.put sid (stopRequested r now)) := by
  refine .step hr (stop_table hst) (fun e => ?_) (fun _ => Or.inl (List.mem_cons_self)) fun _ _ => stopRequested_upkept r now
  exact absurd (by rw [e]; decide) hst

/-- A transition into a cleanup or terminal state. -/
theorem Upkeeps.of_transition {context : String} {changes : List Change} {update : Session → Session} {new : Status}
    (hr : s.session? sid = some r) (hu : updateOf context changes = .ok update)
    (hs : Settles (decide (new ∈ cleanupStates)) changes) (hphase : 4 ≤ new.phase) (htable : new ∈ transitions r.status)
    (hends : new ∈ cleanupStates ∨ ∃ allowed changes, o = .transition sid new allowed changes) (now : Timestamp) :
    Upkeeps mine o s (s.put sid (transitioned r update new now)) := by
  have hst := transitioned_status r update new now
  refine .step hr (Or.inr (by rw [hst]; exact htable)) (fun e => ?_) (fun _ => ?_) fun _ _ =>
    transitioned_upkept hu hs hphase r now
  · rw [e] at htable
    obtain rfl := List.mem_singleton.mp htable
    exact absurd hphase (by decide)
  · rw [hst]
    refine or_iff_not_imp_left.mpr fun hnot => ?_
    obtain ⟨allowed, changes, rfl⟩ := hends.resolve_left hnot
    refine ⟨new, allowed, changes, rfl, ?_⟩
    revert hphase hnot
    cases new <;> decide

theorem advanced_cases {next : Option Status} {complete : Bool} {changes : List Change} {update : Session → Session}
    {context : String} {now : Timestamp} (hshape : CheckpointShape next complete changes) (hu : updateOf context changes = .ok update)
    (hquiet : ∀ c ∈ changes, c.quiet)
    (hr' : (update r).provisioningCancelled = true ∧ r' = { update r with updatedAt := now } ∨
        (update r).provisioningCancelled = false ∧ ∃ r₁, advanced (update r) next = .ok r₁ ∧
          r' = { (if complete then completed r₁ else r₁) with updatedAt := now }) :
    r.Alike r' ∨ r.status ∈ activeStates ∧ r'.status ∈ transitions r.status ∧ (r.Upkept → r'.Upkept) := by
  have halike := updateOf_quiet hu hquiet r
  rcases hr' with ⟨_, rfl⟩ | ⟨_, r₁, hadv, rfl⟩
  · exact Or.inl ⟨halike.1, halike.2, halike.3, halike.4, halike.5⟩
  · cases next with
    | none =>
      obtain rfl := Except.ok.inj hadv
      refine Or.inl ?_
      split <;> exact ⟨halike.1, halike.2, halike.3, halike.4, halike.5⟩
    | some next =>
      obtain ⟨htable, rfl⟩ := advanced_eq_ok hadv
      rw [halike.status] at htable
      -- the owner only makes the two moves of provisioning
      have hnext : next = bootstrapping ∨ next = readyWaitIngest := by
        cases hshape <;> simp
      have hphase : r.status.phase ≤ 2 ∧ r.status ∈ activeStates ∧ 2 ≤ next.phase ∧ next.phase ≤ 3 ∧ next ≠ holding := by
        revert htable
        rcases hnext with rfl | rfl <;> cases r.status <;> decide
      refine Or.inr ⟨hphase.2.1, ?_, fun hup => ?_⟩
      · split <;> exact htable
      · have hphase' : (update r).status.phase ≤ 2 := by
          rw [halike.status]
          exact hphase.1
        have hkept := advanced_upkept (halike.upkept hup) hphase' hphase.2.2.1 hphase.2.2.2.1 hphase.2.2.2.2
        split <;> exact ⟨hkept.pending, hkept.since, hkept.source, hkept.hold⟩

/-- What a permitted call of the store does to the records. -/
theorem StoreOp.upkeeps {apiOnly : Prop} {i : ℕ} {h : History} {w : World} {clock : ℕ → PyFloat} {fresh : Uuid} {a : o.Res}
    (hrun : o.run clock fresh w.store = .ok (a, s')) (hp : StorePermits apiOnly i h w o) (ht : o.Tidy mine)
    (hs : ∀ sid r, w.store.session? sid = some r → r.Sound) : Upkeeps mine o w.store s' := by
  cases o with
  | get sid =>
    obtain ⟨_, rfl⟩ := Prod.mk.inj (Except.ok.inj hrun)
    exact .same
  | create sid user env =>
    rcases effect_create hrun with ⟨_, rfl⟩ | ⟨hr, now, rfl, rfl⟩
    · exact .same
    · exact .fresh hr rfl (newSession_upkept ..)
  | reservePrepareSlot sid user env ent max =>
    rcases effect_reservePrepareSlot hrun with
      ⟨r₀, hr, _, ⟨_, _, rfl⟩ | ⟨_, _, now, rfl, rfl⟩⟩ | ⟨hr, _, t, now, rfl, rfl⟩
    · exact .same
    · exact .alike hr ⟨rfl, rfl, rfl, rfl, rfl⟩
    · exact .fresh hr rfl (Session.Alike.upkept (r := newSession sid user env .directPush t) ⟨rfl, rfl, rfl, rfl, rfl⟩
        (newSession_upkept ..))
  | beginPrepare sid user request ent max key =>
    obtain ⟨r, replay⟩ := a
    rcases effect_beginPrepare hrun with ⟨_, _, _, _, rfl⟩ | ⟨_, _, r₀, now, rfl, rfl, ⟨hr, _⟩ | ⟨hr, t, rfl⟩⟩
    · exact .same
    · exact .alike hr ⟨rfl, rfl, rfl, rfl, rfl⟩
    · exact .fresh hr rfl (Session.Alike.upkept (r := newSession sid user request.environment request.egressMode t)
        ⟨rfl, rfl, rfl, rfl, rfl⟩ (newSession_upkept ..))
  | getPrepareReplay sid user request key =>
    obtain ⟨_, _, h⟩ := map_eq_ok.mp hrun
    obtain ⟨_, rfl⟩ := Prod.mk.inj h
    exact .same
  | authoritativeSnapshot =>
    obtain ⟨_, _, h⟩ := map_eq_ok.mp hrun
    obtain ⟨_, rfl⟩ := Prod.mk.inj h
    exact .same
  | findByProviderServerId server states =>
    obtain ⟨_, rfl⟩ := Prod.mk.inj (Except.ok.inj hrun)
    exact .same
  | sessionsInStates states =>
    obtain ⟨_, rfl⟩ := Prod.mk.inj (Except.ok.inj hrun)
    exact .same
  | claimProvisioning sid op started =>
    obtain ⟨r₀, t, now, hr, hst, hop, rfl, rfl⟩ := effect_claimProvisioning hrun
    obtain ⟨_, _, hunused, _⟩ := hp
    have hstop := stopped_of_claim (hs _ _ hr) hst hop (hunused sid r₀ hr)
    refine .step hr (Or.inr (by rw [hstop]; exact List.mem_cons_self)) (fun _ => Or.inr ⟨op, started, rfl⟩) (fun e => ?_) fun hu _ =>
      claimed_upkept hu hstop op t now
    rw [hstop] at e
    exact absurd e (by decide)
  | provisioningCheckpoint sid op next complete changes =>
    obtain ⟨r₀, update, now, hr, hop, hu, rfl, hcases⟩ := effect_provisioningCheckpoint hrun
    rcases advanced_cases hp.2.1 hu ht hcases with halike | ⟨hactive, htable, hupkept⟩
    · exact .alike hr halike
    · exact .of_active hr hactive (Or.inr htable) hupkept
  | requestStop sid =>
    obtain ⟨r₀, hr, ⟨_, _, rfl⟩ | ⟨hst, now, rfl, rfl⟩⟩ := effect_requestStop hrun
    · exact .same
    · exact .of_stop hr hst now
  | requestStopIfCurrent sid expected fields =>
    rcases effect_requestStopIfCurrent hrun with ⟨_, rfl⟩ | ⟨r₀, now, hr, hst, _, _, rfl⟩
    · exact .same
    · refine .of_stop hr (fun hterm => ?_) now
      have hactive : r₀.status ∈ activeStates := by rw [hst]; exact hp
      revert hterm hactive
      cases r₀.status <;> decide
  | transition sid new allowed changes =>
    obtain ⟨r₀, update, now, hr, hst, hu, rfl, rfl⟩ := effect_transition hrun
    obtain ⟨_, ⟨rfl, hall⟩ | ⟨⟨rfl, rfl⟩ | ⟨rfl, rfl⟩, _⟩⟩ := hp
    · refine .of_transition hr hu ht.1 (by decide) ?_ (Or.inl (by decide)) now
      have := hall _ hst
      revert this
      cases r₀.status <;> decide
    · exact .of_transition hr hu ht.1 (by decide) (by simp_all [transitions]) (Or.inr ⟨_, _, rfl⟩) now
    · exact .of_transition hr hu ht.1 (by decide) (by simp_all [transitions]) (Or.inr ⟨_, _, rfl⟩) now
  | transitionIfCurrent sid new allowed fields changes =>
    rcases effect_transitionIfCurrent hrun with ⟨_, rfl⟩ | ⟨r₀, update, now, hr, hst, _, hu, _, rfl⟩
    · exact .same
    · obtain ⟨_, rfl, hall⟩ := hp
      have hs : Settles (decide (failedCleanup ∈ cleanupStates)) changes := ht
      refine .of_transition hr hu hs (by decide) ?_ (Or.inl (by decide)) now
      have := hall _ hst
      revert this
      cases r₀.status <;> decide
  | update sid changes =>
    obtain ⟨r₀, update, now, hr, hu, rfl, rfl⟩ := effect_update hrun
    rcases ht with hquiet | ⟨hsettles, hmine⟩
    · have h := updateOf_quiet hu hquiet r₀
      exact .alike hr ⟨h.1, h.2, h.3, h.4, h.5⟩
    · have h := updateOf_settles hu hsettles r₀
      refine .step hr (Or.inl h.status) (fun e => Or.inl (h.status.trans e)) (fun e => Or.inl (h.status ▸ e)) fun hup hin => ?_
      have hpending : (true : Bool) = decide (r₀.status ∈ cleanupStates) := (decide_eq_true (hin hmine)).symm
      refine Session.Alike.upkept (r := { r₀ with cleanupPending := true }) ⟨h.1, h.2, h.3, h.4, h.5⟩ ?_
      exact ⟨hpending, hup.since, hup.source, hup.hold⟩
  | updateIfCurrent sid expected fields event changes =>
    rcases effect_updateIfCurrent hrun with ⟨_, rfl⟩ | ⟨r₀, update, now, hr, hst, _, hu, _, rfl⟩
    · exact .same
    · by_cases hquiet : ∀ c ∈ changes, c.quiet
      · exact .alike hr ((updateOf_quiet hu hquiet r₀).trans (audited_alike _ _))
      · push Not at hquiet
        obtain ⟨c, hc, hnot⟩ := hquiet
        obtain ⟨rfl, _⟩ := (ht c hc).resolve_left hnot
        obtain ⟨hold, h⟩ := updateOf_hold hu (fun c hc => (ht c hc).imp id And.right) r₀
        have h := h.trans (audited_alike event now)
        refine .of_active hr (by rw [hst]; decide) (Or.inl h.status) fun hup => h.upkept ?_
        exact ⟨hup.pending, hup.since, hup.source, fun _ hne => absurd hst hne⟩
  | appendEvent sid type reason payload origin occurred =>
    obtain ⟨r₀, now, hr, rfl⟩ := effect_appendEvent hrun
    exact .alike hr ⟨rfl, rfl, rfl, rfl, rfl⟩
  | setAudioDesired sid mode version key operator =>
    rcases effect_setAudioDesired hrun with rfl | ⟨r₀, now, hr, rfl⟩
    · exact .same
    · exact .alike hr ⟨rfl, rfl, rfl, rfl, rfl⟩
  | bindNode sid node boot server =>
    obtain ⟨r₀, now, hr, _, _, rfl, rfl⟩ := effect_bindNode hrun
    exact .alike hr ⟨rfl, rfl, rfl, rfl, rfl⟩
  | recordNodeHeartbeat sid node boot observed ready =>
    rcases effect_recordNodeHeartbeat hrun with ⟨_, rfl, _⟩ | ⟨_, r₀, hr, hst, _, _, _, rfl⟩
    · exact .same
    · refine .of_active hr hst ?_ fun hup => heard_upkept hup observed ready
      unfold heard
      dsimp only
      split
      · rename_i hready
        simp only [Bool.and_eq_true, decide_eq_true_eq] at hready
        exact Or.inr (by rw [hready.2]; exact List.mem_cons_self)
      · exact Or.inl rfl
  | applyIngestObservation sid node types observation current =>
    obtain ⟨r₀, hr, ⟨_, rfl⟩ | ⟨hst, rfl⟩⟩ := effect_applyIngestObservation hrun
    · exact .same
    · have halike := IngestObservation.appendEvents_alike (o := observation) r₀ node types current
      refine .of_active hr hst ?_ fun hup => ?_
      · have htable := (IngestObservation.advance_table (o := observation)
          (observation.appendEvents r₀ node types current) node w.store.recoveryStableSeconds current)
        rw [halike.status] at htable
        exact htable
      · have hkept := IngestObservation.advance_upkept (o := observation) (halike.upkept hup) node
          w.store.recoveryStableSeconds current
        exact ⟨hkept.pending, hkept.since, hkept.source, hkept.hold⟩
  | applyRelayClientObservation sid node types observation =>
    obtain ⟨r₀, hr, ⟨_, rfl⟩ | ⟨_, observedAt, now, rfl⟩⟩ := effect_applyRelayClientObservation hrun
    · exact .same
    · exact .alike hr (relay_alike ..)
  | claimOrphanCleanup sid resource kind =>
    rcases effect_claimOrphanCleanup hrun with ⟨_, rfl⟩ | ⟨_, ⟨_, now, scope, _, rfl⟩, _⟩ <;> exact .leased rfl rfl
  | claimSessionCleanup sid =>
    rcases effect_claimSessionCleanup hrun with ⟨_, rfl⟩ | ⟨_, ⟨_, now, scope, _, rfl⟩, _⟩ <;> exact .leased rfl rfl
  | orphanCleanupStillOwned sid lease =>
    obtain ⟨_, _, h⟩ := map_eq_ok.mp hrun
    obtain ⟨_, rfl⟩ := Prod.mk.inj h
    exact .same
  | sessionCleanupStillOwned sid lease =>
    obtain ⟨_, _, h⟩ := map_eq_ok.mp hrun
    obtain ⟨_, rfl⟩ := Prod.mk.inj h
    exact .same
  | releaseOrphanCleanup sid lease =>
    obtain ⟨_, hr, h⟩ := map_eq_ok.mp hrun
    obtain ⟨_, rfl⟩ := Prod.mk.inj h
    rcases effect_releaseOrphanCleanup hr with rfl | ⟨_, rfl⟩ <;> exact .leased rfl rfl
  | releaseSessionCleanup sid lease =>
    obtain ⟨_, hr, h⟩ := map_eq_ok.mp hrun
    obtain ⟨_, rfl⟩ := Prod.mk.inj h
    rcases effect_releaseSessionCleanup hr with rfl | ⟨_, rfl⟩ <;> exact .leased rfl rfl

/-- Where a record comes from. -/
theorem Upkeeps.record (hu : Upkeeps mine o s s') (hr' : s'.session? sid = some r') :
    s.session? sid = some r' ∨
      (∃ r, s.session? sid = some r ∧ (r'.status = r.status ∨ r'.status ∈ transitions r.status) ∧
        (r.Upkept → (mine sid → r.status ∈ cleanupStates) → r'.Upkept)) ∨
      s.session? sid = none ∧ r'.status = stopped ∧ r'.Upkept := by
  cases hu with
  | same => exact Or.inl hr'
  | leased _ h =>
    rw [session?, h] at hr'
    exact Or.inl hr'
  | step hr table _ _ upkept =>
    rcases session?_put hr' with ⟨rfl, rfl⟩ | hold
    · exact Or.inr (Or.inl ⟨_, hr, table, upkept⟩)
    · exact Or.inl hold
  | fresh hr hst hup =>
    rcases session?_put hr' with ⟨rfl, rfl⟩ | hold
    · exact Or.inr (Or.inr ⟨hr, hst, hup⟩)
    · exact Or.inl hold

theorem StoreOp.tidy_of_permits {h : History} (ht : LeasePermits h (.store o)) :
    o.Tidy fun sid => ∃ leaseId, (sid, leaseId) ∈ cleanups h := by
  cases o with
  | releaseOrphanCleanup => trivial
  | releaseSessionCleanup => trivial
  | _ => exact ht

/-- A permitted call of the store moves the records by `Upkeeps`, or not at all. -/
theorem World.exec_upkeeps {apiOnly : Prop} {i : ℕ} {h : History} {x : Input} {w : World} (hw : w.Sound)
    (hp : StorePermits apiOnly i h w o) (ht : o.Tidy mine) :
    Upkeeps mine o w.store (World.exec.state i (.store o) x w).store := by
  rcases World.exec_store_cases i o x w with ⟨a, s', _, hrun, he⟩ | ⟨e, he, _⟩
  · rw [Exec.state, he]
    exact StoreOp.upkeeps hrun hp ht fun sid r hr => (hw.record sid r hr).1
  · rw [Exec.state, he]
    exact .same

end

/-! ### Leases -/

/-- What a call of the store does to the leases. -/
inductive LeaseMoves (i : ℕ) (o : StoreOp) (x : Input) (w : World) : Prop
  | kept (hg : grant? (World.exec.event i (.store o) x w) = none)
      (h : ∀ sid, (World.exec.state i (.store o) x w).store.lease? sid = w.store.lease? sid)
  | granted {sid : String} {lease : CleanupLease}
      (hg : grant? (World.exec.event i (.store o) x w) = some (sid, ⟨i, w.serial⟩, leaseEnd x))
      (hid : lease.leaseId = ⟨i, w.serial⟩) (hexpires : (lease.expiresAt : ℚ) = leaseEnd x)
      (lapsed : w.store.LeaseOver sid (x.clock 0)) (h : (World.exec.state i (.store o) x w).store = w.store.lend sid lease)
      (whose : (∃ resource kind, o = .claimOrphanCleanup sid resource kind) ∧
          (∀ r, w.store.session? sid = some r → r.status ∈ terminalStates) ∨
        o = .claimSessionCleanup sid ∧ ∃ r, w.store.session? sid = some r ∧ r.status ∈ cleanupStates)
  | released {sid : String} {leaseId : Uuid} {lease : CleanupLease}
      (hg : grant? (World.exec.event i (.store o) x w) = none) (hok : (World.exec.event i (.store o) x w).isOk)
      (ho : o = .releaseOrphanCleanup sid leaseId ∨ o = .releaseSessionCleanup sid leaseId)
      (hl : w.store.lease? sid = some lease) (hid : lease.leaseId = leaseId)
      (h : (World.exec.state i (.store o) x w).store = w.store.giveBack sid)

section
variable {i : ℕ} {o : StoreOp} {x : Input} {w : World} {sid : String}

theorem grant?_of_error {o : Op} {x : Input} {e : Exc} : grant? ⟨o, x, .error e⟩ = none := by
  unfold grant?
  split
  · rename_i heq
    simp only [Event.mk.injEq] at heq
    obtain ⟨rfl, rfl, heq⟩ := heq
    cases heq
  · rename_i heq
    simp only [Event.mk.injEq] at heq
    obtain ⟨rfl, rfl, heq⟩ := heq
    cases heq
  · rfl

theorem LeaseMoves.of_grant {s' : SessionStore} (hg : w.store.Grants s' sid ⟨i, w.serial⟩ x.clock)
    (hs : (World.exec.state i (.store o) x w).store = s')
    (hgrant : grant? (World.exec.event i (.store o) x w) = some (sid, ⟨i, w.serial⟩, leaseEnd x))
    (whose : (∃ resource kind, o = .claimOrphanCleanup sid resource kind) ∧
          (∀ r, w.store.session? sid = some r → r.status ∈ terminalStates) ∨
        o = .claimSessionCleanup sid ∧ ∃ r, w.store.session? sid = some r ∧ r.status ∈ cleanupStates) :
    LeaseMoves i o x w := by
  obtain ⟨hover, now, scope, hnow, rfl⟩ := hg
  refine .granted hgrant rfl ?_ hover hs whose
  simp [leaseEnd, hnow]

/-- What a permitted call of the store does to the leases. -/
theorem World.exec_leases {apiOnly : Prop} {h : History} (hw : w.Sound) (hp : StorePermits apiOnly i h w o)
    (ht : LeasePermits h (.store o)) : LeaseMoves i o x w := by
  rcases World.exec_store_cases i o x w with ⟨a, s', hx, hrun, he⟩ | ⟨e, he, _⟩
  · have hs : (World.exec.state i (.store o) x w).store = s' := by rw [Exec.state, he]
    have hevent : World.exec.event i (.store o) x w = ⟨.store o, x, .ok a⟩ := by rw [Exec.event, he]
    have hkept : o.Tidy (fun _ => True) → o.leases = false → grant? ⟨.store o, x, .ok a⟩ = none → LeaseMoves i o x w := by
      intro htidy hnot hgrant
      refine .kept (by rw [hevent]; exact hgrant) fun sid => ?_
      rw [hs]
      cases StoreOp.upkeeps hrun hp htidy fun sid r hr => (hw.record sid r hr).1 with
      | same => rfl
      | leased ho => rw [hnot] at ho; cases ho
      | step => rfl
      | fresh => rfl
    cases o with
    | claimOrphanCleanup sid resource kind =>
      rcases effect_claimOrphanCleanup hrun with ⟨rfl, rfl⟩ | ⟨rfl, hg, hterminal⟩
      · exact .kept (by rw [hevent]; rfl) fun sid => by rw [hs]
      · exact .of_grant hg hs (by rw [hevent]; rfl) (Or.inl ⟨⟨_, _, rfl⟩, hterminal⟩)
    | claimSessionCleanup sid =>
      rcases effect_claimSessionCleanup hrun with ⟨rfl, rfl⟩ | ⟨rfl, hg, hcleanup⟩
      · exact .kept (by rw [hevent]; rfl) fun sid => by rw [hs]
      · exact .of_grant hg hs (by rw [hevent]; rfl) (Or.inr ⟨rfl, hcleanup⟩)
    | releaseOrphanCleanup sid lease =>
      obtain ⟨_, hr, hm⟩ := map_eq_ok.mp hrun
      obtain ⟨_, rfl⟩ := Prod.mk.inj hm
      rcases effect_releaseOrphanCleanup hr with rfl | ⟨⟨lease, hl, hid⟩, rfl⟩
      · exact .kept (by rw [hevent]; rfl) fun sid => by rw [hs]
      · exact .released (by rw [hevent]; rfl) (by rw [hevent]; rfl) (Or.inl rfl) hl hid hs
    | releaseSessionCleanup sid lease =>
      obtain ⟨_, hr, hm⟩ := map_eq_ok.mp hrun
      obtain ⟨_, rfl⟩ := Prod.mk.inj hm
      rcases effect_releaseSessionCleanup hr with rfl | ⟨⟨lease, hl, hid⟩, rfl⟩
      · exact .kept (by rw [hevent]; rfl) fun sid => by rw [hs]
      · exact .released (by rw [hevent]; rfl) (by rw [hevent]; rfl) (Or.inr rfl) hl hid hs
    | provisioningCheckpoint => exact hkept ht rfl rfl
    | transition => exact hkept ⟨ht.1, fun _ => trivial⟩ rfl rfl
    | transitionIfCurrent => exact hkept ht rfl rfl
    | update => exact hkept (ht.imp id fun h => ⟨h.1, trivial⟩) rfl rfl
    | updateIfCurrent => exact hkept ht rfl rfl
    | _ => exact hkept trivial rfl rfl
  · exact .kept (by rw [Exec.event, he]; exact grant?_of_error) fun sid => by rw [Exec.state, he]

end
end IRLight
