import IRLight.ControlPlane.Upkeep

/-! # The life of a Session record

The fields that follow the status are set by hand, and by tasks that read the status some calls earlier: a cleanup
writes `cleanup_pending` on what it read when it claimed the lease. Nothing but the lease keeps the status of the
Session between the two, so the invariant says where a Session is while a task cleans it up. -/

namespace IRLight
open Interleaving Status SessionStore

/-- A task that is in the middle of a cleanup still holds the lease when it makes a call: nobody took it over. -/
def LeasesHeld (c : Plane) : Action Request Input → Prop
  | .start _ => True
  | .step i _ => ∀ t, c.tasks[i]? = some t → ∀ sid leaseId, (sid, leaseId) ∈ cleanups t.history →
      ∃ lease, c.state.store.lease? sid = some lease ∧ lease.leaseId = leaseId

/-- A Session whose lease is held for a cleanup is in a cleanup state. -/
def World.BeingCleaned (w : World) (sid : String) (leaseId : Uuid) : Prop :=
  ∀ lease, w.store.lease? sid = some lease → lease.leaseId = leaseId →
    ∃ r, w.store.session? sid = some r ∧ r.status ∈ cleanupStates

/-- What every run keeps about records and cleanups. -/
structure Tended (c : Plane) : Prop where
  upkept : ∀ sid r, c.state.store.session? sid = some r → r.Upkept
  drawn : ∀ (i : ℕ) t, c.tasks[i]? = some t → ∀ sid leaseId, (sid, leaseId) ∈ cleanups t.history →
    leaseId.owner = i ∧ leaseId.serial < c.state.serial
  cleaning : ∀ (i : ℕ) t, c.tasks[i]? = some t → ∀ sid leaseId, (sid, leaseId) ∈ cleanups t.history →
    c.state.BeingCleaned sid leaseId

section
variable {i : ℕ} {h : History} {o : StoreOp} {x : Input} {w : World} {sid : String} {leaseId : Uuid}

/-! ### Cleanups of one task -/

/-- A cleanup that a task is in the middle of began before its last call, which did not end the Session, or with it. -/
theorem mem_cleanups_cons {e : Event Op Op.Res Exc Input} (hm : (sid, leaseId) ∈ cleanups (e :: h)) :
    (∃ x, e = ⟨.store (.claimSessionCleanup sid), x, .ok (some leaseId)⟩) ∨ (sid, leaseId) ∈ cleanups h ∧
      ∀ new allowed changes x r, e = ⟨.store (.transition sid new allowed changes), x, .ok r⟩ → new ∉ [finished, failed] := by
  rw [cleanups, List.foldr_cons] at hm
  unfold onCleanups at hm
  split at hm
  · rcases List.mem_cons.mp hm with he | hm
    · obtain ⟨rfl, rfl⟩ := Prod.mk.inj he
      exact Or.inl ⟨_, rfl⟩
    · exact Or.inr ⟨hm, fun _ _ _ _ _ he => by cases he⟩
  · exact Or.inr ⟨(List.mem_filter.mp hm).1, fun _ _ _ _ _ he => by cases he⟩
  · split at hm
    · obtain ⟨hm, hne⟩ := List.mem_filter.mp hm
      refine Or.inr ⟨hm, fun new allowed changes x r he => ?_⟩
      simp only [Event.mk.injEq, Op.store.injEq, StoreOp.transition.injEq] at he
      obtain ⟨⟨rfl, _⟩, _⟩ := he
      simp at hne
    · rename_i hnew
      refine Or.inr ⟨hm, fun new allowed changes x r he => ?_⟩
      simp only [Event.mk.injEq, Op.store.injEq, StoreOp.transition.injEq] at he
      obtain ⟨⟨_, rfl, _⟩, _⟩ := he
      exact hnew
  · rename_i hnone
    exact Or.inr ⟨hm, fun new allowed changes x r he => (hnone _ _ _ _ _ _ he).elim⟩

theorem cleanups_of_other {op : Op} (hop : ∀ so, op ≠ .store so) (x : Input) (r : Except Exc op.Res) :
    cleanups (⟨op, x, r⟩ :: h) = cleanups h := by
  cases op with
  | store so => exact absurd rfl (hop so)
  | _ => rfl

/-! ### One call -/

variable {apiOnly : Prop} {c : Plane} {q : Request} {next : Except Exc (Op.store o).Res → Control Response}

/-- The Session of a cleanup stays in its cleanup states, unless the task of the call ends it. -/
theorem status_kept (hw : w.Sound) (hp : StorePermits apiOnly i h w o) (ht : LeasePermits h (.store o)) {r : Session}
    (hr : w.store.session? sid = some r) (hst : r.status ∈ cleanupStates) :
    (∃ r', (World.exec.state i (.store o) x w).store.session? sid = some r' ∧ r'.status ∈ cleanupStates) ∨
      ∃ new allowed changes a, World.exec.event i (.store o) x w = ⟨.store (.transition sid new allowed changes), x, .ok a⟩ ∧
        new ∈ [finished, failed] ∧ ∃ leaseId, (sid, leaseId) ∈ cleanups h := by
  have htidy := StoreOp.tidy_of_permits ht
  rcases World.exec_store_cases i o x w with ⟨a, s', _, hrun, he⟩ | ⟨e, he, _⟩
  · rw [Exec.state, he]
    cases StoreOp.upkeeps hrun hp htidy fun sid r hr => (hw.record sid r hr).1 with
    | same => exact Or.inl ⟨r, hr, hst⟩
    | leased _ hsame => exact Or.inl ⟨r, by rw [session?, hsame]; exact hr, hst⟩
    | @step sid₁ r₁ r' hr₁ _ _ ends _ =>
      by_cases hsid : sid = sid₁
      · subst hsid
        obtain rfl := Option.some.inj (hr₁.symm.trans hr)
        rcases ends hst with hin | ⟨new, allowed, changes, rfl, hnew⟩
        · exact Or.inl ⟨r', session?_put_self, hin⟩
        · exact Or.inr ⟨new, allowed, changes, a, by rw [Exec.event, he], hnew, htidy.2 hnew⟩
      · exact Or.inl ⟨r, by rw [session?_put_ne hsid]; exact hr, hst⟩
    | @fresh sid₁ r' hr₁ _ _ =>
      have hsid : sid ≠ sid₁ := fun hsid => by rw [hsid, hr₁] at hr; cases hr
      exact Or.inl ⟨r, by rw [session?_put_ne hsid]; exact hr, hst⟩
  · rw [Exec.state, he]
    exact Or.inl ⟨r, hr, hst⟩

/-- The lease of a cleanup that began before a call was there before the call. -/
theorem lease_of_later (hw : w.Sound) (hp : StorePermits apiOnly i h w o) (ht : LeasePermits h (.store o))
    (hdrawn : leaseId.serial < w.serial) {lease : CleanupLease}
    (hl : (World.exec.state i (.store o) x w).store.lease? sid = some lease) (hid : lease.leaseId = leaseId) :
    w.store.lease? sid = some lease := by
  cases World.exec_leases (x := x) hw hp ht with
  | kept _ hsame => rwa [hsame] at hl
  | @granted sid₁ lease₁ _ hid₁ _ _ hs _ =>
    rw [hs] at hl
    by_cases hsid : sid = sid₁
    · rw [hsid, lease?_lend_self] at hl
      obtain rfl := Option.some.inj hl
      rw [hid₁] at hid
      exact absurd hdrawn (by rw [← hid]; exact Nat.lt_irrefl _)
    · rwa [lease?_lend_ne hsid] at hl
  | @released sid₁ _ _ _ _ _ _ _ hs =>
    rw [hs] at hl
    by_cases hsid : sid = sid₁
    · rw [hsid, lease?_giveBack_self] at hl
      cases hl
    · rwa [lease?_giveBack_ne hsid] at hl

namespace Tended

/-- A cleanup that a task was in the middle of before a call, and that the call does not end. -/
theorem cleaning_call (hm : Tended c) (hw : c.state.Sound) (hp : StorePermits apiOnly i h c.state o)
    (ht : LeasePermits h (.store o)) (htask : c.tasks[i]? = some ⟨q, .call (.store o) next, h⟩)
    (hheld : ∀ sid leaseId, (sid, leaseId) ∈ cleanups h →
      ∃ lease, c.state.store.lease? sid = some lease ∧ lease.leaseId = leaseId)
    {j : ℕ} {t : Task Request Op Op.Res Exc Response Input} (htj : c.tasks[j]? = some t)
    (hmem : (sid, leaseId) ∈ cleanups t.history)
    (hself : i = j → ∀ new allowed changes x' a, World.exec.event i (.store o) x c.state =
      ⟨.store (.transition sid new allowed changes), x', .ok a⟩ → new ∉ [finished, failed]) :
    (World.exec.state i (.store o) x c.state).BeingCleaned sid leaseId := by
  intro lease hl hid
  obtain ⟨howner, hdrawn⟩ := hm.drawn j t htj sid leaseId hmem
  have hl₀ := lease_of_later hw hp ht hdrawn hl hid
  obtain ⟨r, hr, hst⟩ := hm.cleaning j t htj sid leaseId hmem lease hl₀ hid
  refine (status_kept hw hp ht hr hst).resolve_right ?_
  rintro ⟨new, allowed, changes, a, hevent, hnew, leaseId', hmem'⟩
  -- only a task that cleans the Session up ends it, and it holds the one lease
  obtain ⟨lease', hl', hid'⟩ := hheld sid leaseId' hmem'
  obtain rfl := Option.some.inj (hl₀.symm.trans hl')
  have hi := (hm.drawn i _ htask sid leaseId' hmem').1
  exact hself (by rw [← hi, ← hid', hid, howner]) new allowed changes x a hevent hnew

theorem call (hm : Tended c) (hw : c.state.Sound) (hp : StorePermits apiOnly i h c.state o) (ht : LeasePermits h (.store o))
    (htask : c.tasks[i]? = some ⟨q, .call (.store o) next, h⟩)
    (hheld : ∀ sid leaseId, (sid, leaseId) ∈ cleanups h →
      ∃ lease, c.state.store.lease? sid = some lease ∧ lease.leaseId = leaseId) :
    Tended ⟨World.exec.state i (.store o) x c.state,
      c.tasks.set i ⟨q, next (World.exec i (.store o) x c.state).1, World.exec.event i (.store o) x c.state :: h⟩⟩ := by
  have hserial : (World.exec.state i (.store o) x c.state).serial = c.state.serial + 1 := World.exec_serial ..
  have hmine : ∀ sid, (∃ leaseId, (sid, leaseId) ∈ cleanups h) → ∀ r, c.state.store.session? sid = some r →
      r.status ∈ cleanupStates := by
    rintro sid ⟨leaseId, hmem⟩ r hr
    obtain ⟨lease, hl, hid⟩ := hheld sid leaseId hmem
    obtain ⟨r', hr', hst⟩ := hm.cleaning i _ htask sid leaseId hmem lease hl hid
    obtain rfl := Option.some.inj (hr.symm.trans hr')
    exact hst
  refine ⟨fun sid r' hr' => ?_, fun j t htj sid leaseId hmem => ?_, fun j t htj sid leaseId hmem => ?_⟩
  · rcases (World.exec_upkeeps (x := x) hw hp (StoreOp.tidy_of_permits ht)).record hr' with
      hr | ⟨r, hr, _, hup⟩ | ⟨_, _, hup⟩
    · exact hm.upkept sid r' hr
    · exact hup (hm.upkept sid r hr) fun hin => hmine sid hin r hr
    · exact hup
  · show leaseId.owner = j ∧ leaseId.serial < (World.exec.state i (.store o) x c.state).serial
    rw [hserial]
    rcases mem_tasks_set htj with ⟨rfl, rfl⟩ | ⟨_, htj⟩
    · rcases mem_cleanups_cons hmem with ⟨x', hevent⟩ | ⟨hmem, _⟩
      · have hgrant : grant? (World.exec.event i (.store o) x c.state) = some (sid, leaseId, leaseEnd x') := by
          rw [hevent]
          rfl
        cases World.exec_leases (x := x) hw hp ht with
        | kept hg => rw [hg] at hgrant; cases hgrant
        | granted hg =>
          obtain ⟨_, he⟩ := Prod.mk.inj (Option.some.inj (hg.symm.trans hgrant))
          obtain ⟨rfl, _⟩ := Prod.mk.inj he
          exact ⟨rfl, Nat.lt_succ_self _⟩
        | released hg => rw [hg] at hgrant; cases hgrant
      · have hdrawn := hm.drawn i _ htask sid leaseId hmem
        exact ⟨hdrawn.1, Nat.lt_succ_of_lt hdrawn.2⟩
    · have hdrawn := hm.drawn j t htj sid leaseId hmem
      exact ⟨hdrawn.1, Nat.lt_succ_of_lt hdrawn.2⟩
  · rcases mem_tasks_set htj with ⟨rfl, rfl⟩ | ⟨hij, htj⟩
    · rcases mem_cleanups_cons hmem with ⟨x', hevent⟩ | ⟨hmem, hends⟩
      · -- a lease is granted only for a Session in a cleanup state
        obtain rfl : o = .claimSessionCleanup sid := Op.store.inj (congrArg Event.op hevent)
        intro lease _ _
        have hok : (World.exec i (.store (.claimSessionCleanup sid)) x c.state).1 = .ok (some leaseId) := by
          simp only [Exec.event, Event.mk.injEq, heq_eq_eq, true_and] at hevent
          exact hevent.2
        rcases effect_claimSessionCleanup (World.exec_store_ok hok) with ⟨h, _⟩ | ⟨_, ⟨_, _, _, _, hs⟩, r, hr, hst⟩
        · cases h
        · exact ⟨r, by rw [Exec.state, hs]; exact hr, hst⟩
      · exact hm.cleaning_call hw hp ht htask hheld htask hmem fun _ => hends
    · exact hm.cleaning_call hw hp ht htask hheld htj hmem fun hij' => absurd hij' hij

/-- A call of another authority. -/
theorem call_other (hm : Tended c) {o : Op} {next : Except Exc o.Res → Control Response} (ho : ∀ so, o ≠ .store so)
    (htask : c.tasks[i]? = some ⟨q, .call o next, h⟩) :
    Tended ⟨World.exec.state i o x c.state,
      c.tasks.set i ⟨q, next (World.exec i o x c.state).1, World.exec.event i o x c.state :: h⟩⟩ := by
  have hstore : (World.exec.state i o x c.state).store = c.state.store := World.exec_other ho
  have hserial : (World.exec.state i o x c.state).serial = c.state.serial + 1 := World.exec_serial ..
  have hold : ∀ (j : ℕ) t, (c.tasks.set i ⟨q, next (World.exec i o x c.state).1,
      World.exec.event i o x c.state :: h⟩)[j]? = some t →
      ∃ t₀, c.tasks[j]? = some t₀ ∧ cleanups t.history = cleanups t₀.history := by
    intro j t htj
    rcases mem_tasks_set htj with ⟨rfl, rfl⟩ | ⟨_, htj⟩
    · exact ⟨_, htask, cleanups_of_other ho x _⟩
    · exact ⟨t, htj, rfl⟩
  refine ⟨fun sid r hr => hm.upkept sid r (hstore ▸ hr), fun j t htj sid leaseId hmem => ?_, fun j t htj sid leaseId hmem => ?_⟩
  · obtain ⟨t₀, ht₀, hsame⟩ := hold j t htj
    have hdrawn := hm.drawn j t₀ ht₀ sid leaseId (hsame ▸ hmem)
    exact ⟨hdrawn.1, by rw [hserial]; exact Nat.lt_succ_of_lt hdrawn.2⟩
  · obtain ⟨t₀, ht₀, hsame⟩ := hold j t htj
    intro lease hl hid
    rw [hstore] at hl ⊢
    exact hm.cleaning j t₀ ht₀ sid leaseId (hsame ▸ hmem) lease hl hid

end Tended

/-! ### Every run -/

variable {config : Config} {stable : Timestamp}

theorem tended (hr : Plane.Reaches config stable LeasesHeld c) : Tended c := by
  refine hr.invariant ⟨fun sid r hr => ?_, fun i t ht => ?_, fun i t ht => ?_⟩ fun c a hr ha hm => ?_
  · simp [World.initial, session?] at hr
  · simp at ht
  · simp at ht
  have hs : Pool.Sound (discipline False) (fun _ _ _ _ => True) c := Plane.sound False hr fun _ _ _ h => h.elim
  rcases Pool.act_cases World.exec (Request.program config) c a with
    ⟨q, rfl, he⟩ | ⟨i, x, q, o, next, h, rfl, ht, he⟩ | he <;> rw [he]
  · refine ⟨hm.upkept, fun i t ht => ?_, fun i t ht => ?_⟩
    · rcases mem_tasks_append ht with ht | rfl
      · exact hm.drawn i t ht
      · exact fun _ _ hmem => by cases hmem
    · rcases mem_tasks_append ht with ht | rfl
      · exact hm.cleaning i t ht
      · exact fun _ _ hmem => by cases hmem
  · have hcall : c.Calls i o h := ⟨_, next, ht, rfl, rfl⟩
    by_cases hstore : ∃ so, o = .store so
    · obtain ⟨so, rfl⟩ := hstore
      exact hm.call hs.inv (hs.permitted hcall) (Plane.tidy hr hcall) ht fun sid leaseId => ha _ ht sid leaseId
    · exact hm.call_other (fun so hso => hstore ⟨so, hso⟩) ht
  · exact hm

/-- An action keeps every record and moves it along the transition table, and a new record is STOPPED. -/
theorem record_act (hr : Plane.Reaches config stable LeasesHeld c) (a : Action Request Input) (sid : String) :
    (∀ r, c.state.store.session? sid = some r →
      ∃ r', (c.act World.exec (Request.program config) a).state.store.session? sid = some r' ∧
        (r'.status = r.status ∨ r'.status ∈ transitions r.status)) ∧
    (c.state.store.session? sid = none → ∀ r',
      (c.act World.exec (Request.program config) a).state.store.session? sid = some r' → r'.status = stopped) := by
  have hs : Pool.Sound (discipline False) (fun _ _ _ _ => True) c := Plane.sound False hr fun _ _ _ h => h.elim
  rcases Pool.act_state World.exec (Request.program config) c a with hsame | ⟨i, x, o, h, rfl, hcall⟩
  · rw [hsame]
    exact ⟨fun r hrec => ⟨r, hrec, Or.inl rfl⟩, fun hnone r' hr' => by rw [hnone] at hr'; cases hr'⟩
  · rw [hcall.state]
    by_cases hstore : ∃ so, o = .store so
    · obtain ⟨so, rfl⟩ := hstore
      have hp : StorePermits False i h c.state so := hs.permitted hcall
      have hu := World.exec_upkeeps (x := x) hs.inv hp (StoreOp.tidy_of_permits (Plane.tidy hr hcall))
      refine ⟨fun r hrec => ?_, fun hnone r' hr' => ?_⟩
      · obtain ⟨r', hr', _⟩ := (World.Sound.exec (x := x) hs.inv (hs.permitted hcall)).2.1 sid r hrec
        refine ⟨r', hr', ?_⟩
        rcases hu.record hr' with hr' | ⟨r₀, hr₀, table, _⟩ | ⟨hnone, _⟩
        · exact Or.inl (by rw [Option.some.inj (hr'.symm.trans hrec)])
        · obtain rfl := Option.some.inj (hr₀.symm.trans hrec)
          exact table
        · rw [hrec] at hnone
          cases hnone
      · rcases hu.record hr' with hr | ⟨r, hr, _⟩ | ⟨_, hst, _⟩
        · rw [hnone] at hr
          cases hr
        · rw [hnone] at hr
          cases hr
        · exact hst
    · rw [Exec.state, World.exec_other fun so hso => hstore ⟨so, hso⟩]
      exact ⟨fun r hrec => ⟨r, hrec, Or.inl rfl⟩, fun hnone r' hr' => by rw [hnone] at hr'; cases hr'⟩

/-- **The life of a Session record**, in every run whose cleanups keep their leases: every change of a status follows
    the transition table, FINISHED and FAILED are absorbing and hold no reservation, cleanup is pending exactly in
    STOPPING and FAILED_CLEANUP, a recovery candidate is present only in HOLDING, and no active status but HOLDING has
    the deadline of a hold. -/
theorem session_record_life (hr : Plane.Reaches config stable LeasesHeld c) :
    (∀ sid r, c.state.store.session? sid = some r →
      (r.status ∈ [finished, failed] → r.entitlementReserved = false) ∧
      (r.cleanupPending = true ↔ r.status ∈ [stopping, failedCleanup]) ∧
      (r.recoveryCandidateSince.isSome ∨ r.recoveryCandidateSourceId.isSome → r.status = holding) ∧
      (r.status ∈ activeStates → r.status ≠ holding → r.holdDeadlineAt = none)) ∧
    ∀ a sid,
      (∀ r, c.state.store.session? sid = some r →
        ∃ r', (c.act World.exec (Request.program config) a).state.store.session? sid = some r' ∧
          (r'.status = r.status ∨ r'.status ∈ transitions r.status) ∧
          (r.status ∈ [finished, failed] → r'.status = r.status)) ∧
      (c.state.store.session? sid = none → ∀ r',
        (c.act World.exec (Request.program config) a).state.store.session? sid = some r' → r'.status = stopped) := by
  have hm := tended hr
  have hs : Pool.Sound (discipline False) (fun _ _ _ _ => True) c := Plane.sound False hr fun _ _ _ h => h.elim
  refine ⟨fun sid r hrec => ⟨fun hended => ?_, ?_, fun hcand => ?_, fun hactive => ?_⟩, fun a sid => ?_⟩
  · refine (hs.inv.record sid r hrec).1.released ?_
    revert hended
    cases r.status <;> decide
  · rw [(hm.upkept sid r hrec).pending]
    exact decide_eq_true_iff
  · exact hcand.elim (hm.upkept sid r hrec).since (hm.upkept sid r hrec).source
  · refine (hm.upkept sid r hrec).hold ?_
    revert hactive
    cases r.status <;> decide
  · obtain ⟨hkeep, hnew⟩ := record_act hr a sid
    refine ⟨fun r hrec => ?_, hnew⟩
    obtain ⟨r', hr', table⟩ := hkeep r hrec
    refine ⟨r', hr', table, fun hended => table.resolve_right fun hmove => ?_⟩
    revert hended hmove
    cases r.status <;> simp [transitions]

/-- Every cleanup of the task that steps still has its lease. -/
def holdsLeases (c : Plane) : Action Request Input → Bool
  | .start _ => true
  | .step i _ => (c.tasks[i]?).all fun t => (cleanups t.history).all fun (sid, leaseId) =>
      (c.state.store.lease? sid).any (·.leaseId = leaseId)

theorem leasesHeld_of_holdsLeases (c : Plane) (a : Action Request Input) (ha : holdsLeases c a) : LeasesHeld c a := by
  cases a with
  | start q => trivial
  | step i x =>
    intro t ht sid leaseId hmem
    rw [holdsLeases, ht, Option.all_some, List.all_eq_true] at ha
    obtain ⟨lease, hl, hid⟩ := (Option.any_eq_true _ _).mp (ha _ hmem)
    exact ⟨lease, hl, by simpa using hid⟩

/-- A Session is prepared and stopped. -/
def Sample.preparedThenStopped : List (Action Request Input) :=
  .start (.prepare (Sample.call .dev)) :: quietSteps 0 17 1 ++ .start (.stop Sample.sid Sample.user) :: quietSteps 1 20 3

theorem session_record_life_sample :
    ∃ r, (Plane.after Sample.config 5 Sample.preparedThenStopped).state.store.session? Sample.sid = some r ∧
      r.status = finished ∧ r.entitlementReserved = false ∧ r.cleanupPending ≠ true := by
  have hreach : Plane.Reaches Sample.config 5 LeasesHeld (Plane.after Sample.config 5 Sample.preparedThenStopped) :=
    Reachable.init.run_of_checks leasesHeld_of_holdsLeases (by decide +kernel)
  have hended : ((Plane.after Sample.config 5 Sample.preparedThenStopped).state.store.session? Sample.sid).any
      (·.status = finished) := by decide +kernel
  obtain ⟨r, hr, hst⟩ := (Option.any_eq_true _ _).mp hended
  have hst : r.status = finished := by simpa using hst
  obtain ⟨hreserved, hpending, _⟩ := (session_record_life hreach).1 _ r hr
  exact ⟨r, hr, hst, hreserved (by simp [hst]), fun h => absurd (hpending.mp h) (by simp [hst])⟩

end
end IRLight
