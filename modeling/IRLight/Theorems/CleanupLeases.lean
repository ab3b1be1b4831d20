import IRLight.ControlPlane.Upkeep

/-! # Cleanup leases exclude

Deletes run outside every transaction, so all that keeps a Session from being provisioned under one is the lease.
The invariant follows each granted lease until a release of it is recorded or the clock has shown its expiry. -/

namespace IRLight
open Interleaving Status SessionStore

/-! ### The clock -/

/-- The readings that a call may take: no method looks at the clock more than three times. -/
def Input.readings (x : Input) : List ℚ :=
  [x.clock 0, x.clock 1, x.clock 2].filterMap fun
    | .finite t => some t
    | _ => none

/-- The call can read the clock, and no reading reaches `time`. -/
def Input.Before (x : Input) (time : ℚ) : Prop := x.readings ≠ [] ∧ ∀ t ∈ x.readings, t < time

/-- The clock never goes back. -/
def ClockAdvances (c : Plane) : Action Request Input → Prop
  | .start _ => True
  | .step _ x => x.readings.Pairwise (· ≤ ·) ∧
      ∀ task ∈ c.tasks, ∀ e ∈ task.history, ∀ t ∈ e.input.readings, ∀ t' ∈ x.readings, t ≤ t'

instance (c : Plane) (a : Action Request Input) : Decidable (ClockAdvances c a) :=
  match a with
  | .start _ => isTrue trivial
  | .step _ x => inferInstanceAs (Decidable (x.readings.Pairwise (· ≤ ·) ∧
      ∀ task ∈ c.tasks, ∀ e ∈ task.history, ∀ t ∈ e.input.readings, ∀ t' ∈ x.readings, t ≤ t'))

/-! ### What a run has seen of a lease -/

/-- The call releases the lease, or tries to. -/
def Releases (sid : String) (leaseId : Uuid) (e : Event Op Op.Res Exc Input) : Prop :=
  e.op = .store (.releaseOrphanCleanup sid leaseId) ∨ e.op = .store (.releaseSessionCleanup sid leaseId)

/-- The operation releases a lease. -/
def Op.releases : Op → Bool
  | .store (.releaseOrphanCleanup _ _) | .store (.releaseSessionCleanup _ _) => true
  | _ => false

theorem Releases.releases {sid : String} {leaseId : Uuid} {e : Event Op Op.Res Exc Input} (h : Releases sid leaseId e) :
    e.op.releases := by
  rcases h with h | h <;> rw [h] <;> rfl

/-- The call claims a lease to delete an orphan. -/
def claimsOrphan (e : Event Op Op.Res Exc Input) : Bool := e.op matches .store (.claimOrphanCleanup _ _ _)

namespace Plane

/-- The lease was granted, for the time until `expiry`. -/
def Granted (c : Plane) (sid : String) (leaseId : Uuid) (expiry : ℚ) : Prop :=
  c.Saw fun e => grant? e = some (sid, leaseId, expiry)

/-- The lease was released. -/
def Released (c : Plane) (sid : String) (leaseId : Uuid) : Prop := c.Saw fun e => Releases sid leaseId e ∧ e.isOk

/-- The clock has shown `time`. -/
def Passed (c : Plane) (time : ℚ) : Prop := c.Saw fun e => ∃ t ∈ e.input.readings, time ≤ t

end Plane

/-- The lease that a call was granted is released, or expired, or it is still stored; and then a lease to delete an
    orphan still finds no Session to provision. -/
def Guarded (c : Plane) (e : Event Op Op.Res Exc Input) : Prop :=
  ∀ sid leaseId expiry, grant? e = some (sid, leaseId, expiry) → c.Released sid leaseId ∨ c.Passed expiry ∨
    (∃ lease, c.state.store.lease? sid = some lease ∧ lease.leaseId = leaseId ∧ (lease.expiresAt : ℚ) = expiry) ∧
      (claimsOrphan e → ∀ r, c.state.store.session? sid = some r → r.status ∈ terminalStates)

/-- What every run keeps about leases. -/
structure Leased (c : Plane) : Prop where
  drawn : ∀ (i : ℕ) t, c.tasks[i]? = some t → ∀ sid leaseId, Holds t.history sid leaseId →
    leaseId.owner = i ∧ leaseId.serial < c.state.serial
  own : ∀ t ∈ c.tasks, ∀ e ∈ t.history, ∀ sid leaseId, Releases sid leaseId e → Holds t.history sid leaseId
  guarded : ∀ t ∈ c.tasks, ∀ e ∈ t.history, Guarded c e
  duty : ∀ t ∈ c.tasks, ∀ sid leaseId expiry, orphanDuty t.history = some (sid, leaseId, expiry) →
    (∃ e ∈ t.history, grant? e = some (sid, leaseId, expiry) ∧ claimsOrphan e) ∧
      ∀ e ∈ t.history, ¬Releases sid leaseId e

section
variable {apiOnly : Prop} {i : ℕ} {h : History} {o : StoreOp} {x : Input} {w : World} {sid : String} {leaseId : Uuid}
  {c : Plane} {q : Request} {expiry : ℚ}

theorem mem_readings {k : ℕ} {t : ℚ} (hk : k ≤ 2) (ht : x.clock k = .finite t) : t ∈ x.readings := by
  unfold Input.readings
  refine List.mem_filterMap.mpr ⟨.finite t, ?_, rfl⟩
  rw [← ht]
  obtain rfl | rfl | rfl : k = 0 ∨ k = 1 ∨ k = 2 := by omega
  all_goals simp

/-! ### One call -/

theorem Holds.of_cons {e : Event Op Op.Res Exc Input} (hg : Holds (e :: h) sid leaseId) :
    (∃ expiry, grant? e = some (sid, leaseId, expiry)) ∨ Holds h sid leaseId := by
  obtain ⟨e', he', hg⟩ := hg
  rcases List.mem_cons.mp he' with rfl | he'
  · exact Or.inl hg
  · exact Or.inr ⟨e', he', hg⟩

theorem grant?_of_other {o : Op} (ho : ∀ so, o ≠ .store so) (x : Input) (r : Except Exc o.Res) : grant? ⟨o, x, r⟩ = none := by
  cases o with
  | store so => exact absurd rfl (ho so)
  | _ => rfl

/-- A grant draws a fresh identifier. -/
theorem fresh_of_grant (hw : w.Sound) (hp : StorePermits apiOnly i h w o) (ht : LeasePermits h (.store o))
    (hg : grant? (World.exec.event i (.store o) x w) = some (sid, leaseId, expiry)) : leaseId = ⟨i, w.serial⟩ := by
  cases World.exec_leases (x := x) hw hp ht with
  | kept hn => rw [hn] at hg; cases hg
  | granted hg' =>
    obtain ⟨_, he⟩ := Prod.mk.inj (Option.some.inj (hg'.symm.trans hg))
    exact (Prod.mk.inj he).1.symm
  | released hn => rw [hn] at hg; cases hg

/-- A Session that has ended or was never provisioned stays so, unless it is claimed once its lease is over. -/
theorem terminal_kept (hw : w.Sound) (hp : StorePermits apiOnly i h w o) (ht : LeasePermits h (.store o)) {lease : CleanupLease}
    (hl : w.store.lease? sid = some lease) (hterm : ∀ r, w.store.session? sid = some r → r.status ∈ terminalStates)
    (hbefore : ∀ t ∈ x.readings, t < lease.expiresAt) {r' : Session}
    (hr' : (World.exec.state i (.store o) x w).store.session? sid = some r') : r'.status ∈ terminalStates := by
  rcases World.exec_store_cases i o x w with ⟨a, s', _, hrun, he⟩ | ⟨e, he, _⟩
  · rw [Exec.state, he] at hr'
    cases StoreOp.upkeeps hrun hp (StoreOp.tidy_of_permits ht) fun sid r hr => (hw.record sid r hr).1 with
    | same => exact hterm r' hr'
    | leased _ hsame =>
      rw [session?, hsame] at hr'
      exact hterm r' hr'
    | step hr table claim _ _ =>
      rcases session?_put hr' with ⟨rfl, rfl⟩ | hold
      · have hst := hterm _ hr
        simp only [terminalStates, List.mem_cons, List.not_mem_nil, or_false] at hst
        rcases hst with hst | hst | hst
        · rcases claim hst with hst' | ⟨op, started, rfl⟩
          · rw [hst']
            decide
          · obtain ⟨t, ht, hle⟩ := leaseOver_of_claimProvisioning hrun lease hl
            exact absurd (hbefore t (mem_readings (by decide) ht)) (not_lt.mpr (by exact_mod_cast hle))
        · rw [hst] at table
          rw [table.resolve_right (by simp [transitions])]
          decide
        · rw [hst] at table
          rw [table.resolve_right (by simp [transitions])]
          decide
      · exact hterm r' hold
    | fresh hr hst _ =>
      rcases session?_put hr' with ⟨rfl, rfl⟩ | hold
      · rw [hst]
        decide
      · exact hterm r' hold
  · rw [Exec.state, he] at hr'
    exact hterm r' hr'

theorem duty_cons {o : Op} {r : Except Exc o.Res} (hd : orphanDuty (⟨o, x, r⟩ :: h) = some (sid, leaseId, expiry)) :
    (grant? ⟨o, x, r⟩ = some (sid, leaseId, expiry) ∧ claimsOrphan ⟨o, x, r⟩) ∨
      orphanDuty h = some (sid, leaseId, expiry) ∧ ∀ sid' leaseId', ¬Releases sid' leaseId' ⟨o, x, r⟩ := by
  rw [orphanDuty, List.foldr_cons] at hd
  unfold onOrphanDuty at hd
  split at hd
  · rename_i heq
    rw [heq]
    exact Or.inl ⟨hd, rfl⟩
  · cases hd
  · cases hd
  · rename_i horphan hsession
    refine Or.inr ⟨hd, fun sid' leaseId' hrel => ?_⟩
    rcases hrel with rfl | rfl
    · exact horphan _ _ _ _ rfl
    · exact hsession _ _ _ _ rfl

/-- What a call of the store keeps of a lease granted before it. -/
theorem Guarded.call (hw : c.state.Sound) (hp : StorePermits apiOnly i h c.state o) (ht : LeasePermits h (.store o))
    {next : Except Exc (Op.store o).Res → Control Response} (htask : c.tasks[i]? = some ⟨q, .call (.store o) next, h⟩)
    {e : Event Op Op.Res Exc Input} (hg : Guarded c e) :
    Guarded ⟨World.exec.state i (.store o) x c.state, c.tasks.set i
      ⟨q, next (World.exec i (.store o) x c.state).1, World.exec.event i (.store o) x c.state :: h⟩⟩ e := by
  intro sid leaseId expiry hgrant
  rcases hg sid leaseId expiry hgrant with hrel | hpass | ⟨⟨lease, hl, hid, hexp⟩, hterm⟩
  · exact Or.inl ((Pool.saw_step htask).mpr (Or.inr hrel))
  · exact Or.inr (Or.inl ((Pool.saw_step htask).mpr (Or.inr hpass)))
  · by_cases hbefore : ∀ t ∈ x.readings, t < lease.expiresAt
    swap
    · push Not at hbefore
      obtain ⟨t, ht, hle⟩ := hbefore
      exact Or.inr (Or.inl ((Pool.saw_step htask).mpr (Or.inl ⟨t, ht, hexp ▸ hle⟩)))
    have hstored : (World.exec.state i (.store o) x c.state).store.lease? sid = some lease ∨
        Releases sid leaseId (World.exec.event i (.store o) x c.state) ∧ (World.exec.event i (.store o) x c.state).isOk := by
      cases World.exec_leases (x := x) hw hp ht with
      | kept _ hsame => exact Or.inl ((hsame sid).trans hl)
      | @granted sid₁ lease₁ _ _ _ lapsed hs _ =>
        rw [hs]
        by_cases hsid : sid = sid₁
        · subst hsid
          obtain ⟨t, ht, hle⟩ := lapsed lease hl
          exact absurd (hbefore t (mem_readings (by decide) ht)) (not_lt.mpr (by exact_mod_cast hle))
        · exact Or.inl (by rw [lease?_lend_ne hsid]; exact hl)
      | @released sid₁ leaseId₁ lease₁ _ hok ho hl₁ hid₁ hs =>
        rw [hs]
        by_cases hsid : sid = sid₁
        · subst hsid
          obtain rfl := Option.some.inj (hl.symm.trans hl₁)
          obtain rfl := hid.symm.trans hid₁
          exact Or.inr ⟨ho.imp (congrArg Op.store) (congrArg Op.store), hok⟩
        · exact Or.inl (by rw [lease?_giveBack_ne hsid]; exact hl)
    rcases hstored with hl' | hrel
    · exact Or.inr (Or.inr ⟨⟨lease, hl', hid, hexp⟩, fun horphan r' hr' =>
        terminal_kept hw hp ht hl (hterm horphan) hbefore hr'⟩)
    · exact Or.inl ((Pool.saw_step htask).mpr (Or.inl hrel))

/-- A lease that a call was granted is stored, and one for an orphan found no Session to provision. -/
theorem Guarded.granted (hw : c.state.Sound) (hp : StorePermits apiOnly i h c.state o) (ht : LeasePermits h (.store o))
    {tasks : List (Task Request Op Op.Res Exc Response Input)} :
    Guarded ⟨World.exec.state i (.store o) x c.state, tasks⟩ (World.exec.event i (.store o) x c.state) := by
  intro sid leaseId expiry hgrant
  cases World.exec_leases (x := x) hw hp ht with
  | kept hn => rw [hn] at hgrant; cases hgrant
  | released hn => rw [hn] at hgrant; cases hgrant
  | @granted sid₁ lease hg hid hexp _ hs whose =>
    obtain ⟨rfl, he⟩ := Prod.mk.inj (Option.some.inj (hg.symm.trans hgrant))
    obtain ⟨rfl, rfl⟩ := Prod.mk.inj he
    refine Or.inr (Or.inr ⟨⟨lease, by rw [hs, lease?_lend_self], hid, hexp⟩, fun horphan r hr => ?_⟩)
    rw [hs, session?_lend] at hr
    rcases whose with ⟨_, hterm⟩ | ⟨rfl, _⟩
    · exact hterm r hr
    · cases horphan

namespace Leased

theorem call (hm : Leased c) (hw : c.state.Sound) (hp : StorePermits apiOnly i h c.state o) (ht : LeasePermits h (.store o))
    {next : Except Exc (Op.store o).Res → Control Response} (htask : c.tasks[i]? = some ⟨q, .call (.store o) next, h⟩) :
    Leased ⟨World.exec.state i (.store o) x c.state, c.tasks.set i
      ⟨q, next (World.exec i (.store o) x c.state).1, World.exec.event i (.store o) x c.state :: h⟩⟩ := by
  have hserial : (World.exec.state i (.store o) x c.state).serial = c.state.serial + 1 := World.exec_serial ..
  have hmem := List.mem_of_getElem? htask
  have hown : ∀ e ∈ World.exec.event i (.store o) x c.state :: h, ∀ sid leaseId, Releases sid leaseId e → Holds h sid leaseId := by
    intro e he sid leaseId hrel
    rcases List.mem_cons.mp he with rfl | he
    · rcases hrel with ho | ho
      · obtain rfl := Op.store.inj ho
        exact ht
      · obtain rfl := Op.store.inj ho
        exact ht
    · exact hm.own _ hmem e he sid leaseId hrel
  refine ⟨fun j t htj sid leaseId hholds => ?_, fun t htm e he sid leaseId hrel => ?_, fun t htm e he => ?_,
    fun t htm sid leaseId expiry hduty => ?_⟩
  · rw [hserial]
    rcases mem_tasks_set htj with ⟨rfl, rfl⟩ | ⟨_, htj⟩
    · rcases hholds.of_cons with ⟨expiry, hgrant⟩ | hholds
      · obtain rfl := fresh_of_grant hw hp ht hgrant
        exact ⟨rfl, Nat.lt_succ_self _⟩
      · have hdrawn := hm.drawn i _ htask sid leaseId hholds
        exact ⟨hdrawn.1, Nat.lt_succ_of_lt hdrawn.2⟩
    · have hdrawn := hm.drawn j t htj sid leaseId hholds
      exact ⟨hdrawn.1, Nat.lt_succ_of_lt hdrawn.2⟩
  · rcases List.mem_or_eq_of_mem_set htm with htm | rfl
    · exact hm.own t htm e he sid leaseId hrel
    · exact (hown e he sid leaseId hrel).cons _
  · rcases List.mem_or_eq_of_mem_set htm with htm | rfl
    · exact (hm.guarded t htm e he).call hw hp ht htask
    · rcases List.mem_cons.mp he with rfl | he
      · exact .granted hw hp ht
      · exact (hm.guarded _ hmem e he).call hw hp ht htask
  · rcases List.mem_or_eq_of_mem_set htm with htm | rfl
    · exact hm.duty t htm sid leaseId expiry hduty
    · rcases duty_cons hduty with ⟨hgrant, horphan⟩ | ⟨hduty, hnot⟩
      · refine ⟨⟨_, List.mem_cons_self, hgrant, horphan⟩, fun e he hrel => ?_⟩
        -- a release of this lease would be older than the lease
        have hdrawn := (hm.drawn i _ htask sid leaseId (hown e he sid leaseId hrel)).2
        rw [fresh_of_grant hw hp ht hgrant] at hdrawn
        exact Nat.lt_irrefl _ hdrawn
      · obtain ⟨⟨e, he, hgrant⟩, hfree⟩ := hm.duty _ hmem sid leaseId expiry hduty
        refine ⟨⟨e, List.mem_cons_of_mem _ he, hgrant⟩, fun e' he' => ?_⟩
        rcases List.mem_cons.mp he' with rfl | he'
        · exact hnot sid leaseId
        · exact hfree e' he'

end Leased

theorem Guarded.call_other {o : Op} (ho : ∀ so, o ≠ .store so) {next : Except Exc o.Res → Control Response}
    (htask : c.tasks[i]? = some ⟨q, .call o next, h⟩) {e : Event Op Op.Res Exc Input} (hg : Guarded c e) :
    Guarded ⟨World.exec.state i o x c.state,
      c.tasks.set i ⟨q, next (World.exec i o x c.state).1, World.exec.event i o x c.state :: h⟩⟩ e := by
  have hstore : (World.exec.state i o x c.state).store = c.state.store := World.exec_other ho
  intro sid leaseId expiry hgrant
  rcases hg sid leaseId expiry hgrant with hrel | hpass | hstored
  · exact Or.inl ((Pool.saw_step htask).mpr (Or.inr hrel))
  · exact Or.inr (Or.inl ((Pool.saw_step htask).mpr (Or.inr hpass)))
  · exact Or.inr (Or.inr (by rw [hstore]; exact hstored))

theorem Guarded.start {e : Event Op Op.Res Exc Input} (hg : Guarded c e) (p : Control Response) :
    Guarded { c with tasks := c.tasks ++ [⟨q, p, []⟩] } e := by
  intro sid leaseId expiry hgrant
  rcases hg sid leaseId expiry hgrant with hrel | hpass | hstored
  · exact Or.inl (Pool.saw_start.mpr hrel)
  · exact Or.inr (Or.inl (Pool.saw_start.mpr hpass))
  · exact Or.inr (Or.inr hstored)

namespace Leased

/-- A call of another authority claims and releases nothing. -/
theorem call_other (hm : Leased c) {o : Op} (ho : ∀ so, o ≠ .store so) {next : Except Exc o.Res → Control Response}
    (htask : c.tasks[i]? = some ⟨q, .call o next, h⟩) :
    Leased ⟨World.exec.state i o x c.state,
      c.tasks.set i ⟨q, next (World.exec i o x c.state).1, World.exec.event i o x c.state :: h⟩⟩ := by
  have hserial : (World.exec.state i o x c.state).serial = c.state.serial + 1 := World.exec_serial ..
  have hgrant : grant? (World.exec.event i o x c.state) = none := grant?_of_other ho ..
  have hfree : ∀ sid leaseId, ¬Releases sid leaseId (World.exec.event i o x c.state) :=
    fun sid leaseId hrel => hrel.elim (ho _) (ho _)
  have hmem := List.mem_of_getElem? htask
  refine ⟨fun j t htj sid leaseId hholds => ?_, fun t htm e he sid leaseId hrel => ?_, fun t htm e he => ?_,
    fun t htm sid leaseId expiry hduty => ?_⟩
  · show leaseId.owner = j ∧ leaseId.serial < (World.exec.state i o x c.state).serial
    rw [hserial]
    have hold : ∃ t₀, c.tasks[j]? = some t₀ ∧ Holds t₀.history sid leaseId := by
      rcases mem_tasks_set htj with ⟨rfl, rfl⟩ | ⟨_, htj⟩
      · refine ⟨_, htask, hholds.of_cons.resolve_left ?_⟩
        rintro ⟨expiry, hg⟩
        rw [hgrant] at hg
        cases hg
      · exact ⟨t, htj, hholds⟩
    obtain ⟨t₀, ht₀, hholds⟩ := hold
    have hdrawn := hm.drawn j t₀ ht₀ sid leaseId hholds
    exact ⟨hdrawn.1, Nat.lt_succ_of_lt hdrawn.2⟩
  · rcases List.mem_or_eq_of_mem_set htm with htm | rfl
    · exact hm.own t htm e he sid leaseId hrel
    · rcases List.mem_cons.mp he with rfl | he
      · exact absurd hrel (hfree sid leaseId)
      · exact (hm.own _ hmem e he sid leaseId hrel).cons _
  · rcases List.mem_or_eq_of_mem_set htm with htm | rfl
    · exact (hm.guarded t htm e he).call_other ho htask
    · rcases List.mem_cons.mp he with rfl | he
      · intro sid leaseId expiry hg
        rw [hgrant] at hg
        cases hg
      · exact (hm.guarded _ hmem e he).call_other ho htask
  · rcases List.mem_or_eq_of_mem_set htm with htm | rfl
    · exact hm.duty t htm sid leaseId expiry hduty
    · obtain ⟨hduty, _⟩ := (duty_cons hduty).resolve_left fun hd => by
        have hg := hd.1.symm.trans hgrant
        cases hg
      obtain ⟨⟨e, he, hg⟩, hnone⟩ := hm.duty _ hmem sid leaseId expiry hduty
      refine ⟨⟨e, List.mem_cons_of_mem _ he, hg⟩, fun e' he' => ?_⟩
      rcases List.mem_cons.mp he' with rfl | he'
      · exact hfree sid leaseId
      · exact hnone e' he'

/-- A new task has no history. -/
theorem start (hm : Leased c) (p : Control Response) : Leased { c with tasks := c.tasks ++ [⟨q, p, []⟩] } := by
  have hold : ∀ t ∈ c.tasks ++ [⟨q, p, []⟩], t ∈ c.tasks ∨ t.history = [] := by
    intro t htm
    rcases List.mem_append.mp htm with htm | htm
    · exact Or.inl htm
    · exact Or.inr (by rw [List.mem_singleton.mp htm])
  refine ⟨fun j t htj sid leaseId hholds => ?_, fun t htm e he => ?_, fun t htm e he => ?_, fun t htm sid leaseId expiry hd => ?_⟩
  · rcases mem_tasks_append htj with htj | rfl
    · exact hm.drawn j t htj sid leaseId hholds
    · exact absurd hholds fun ⟨_, he, _⟩ => nomatch he
  · rcases hold t htm with htm | hnil
    · exact hm.own t htm e he
    · rw [hnil] at he
      cases he
  · rcases hold t htm with htm | hnil
    · exact (hm.guarded t htm e he).start p
    · rw [hnil] at he
      cases he
  · rcases hold t htm with htm | hnil
    · exact hm.duty t htm sid leaseId expiry hd
    · rw [hnil] at hd
      cases hd

end Leased

/-! ### Every run -/

variable {config : Config} {stable : Timestamp} {cond : Plane → Action Request Input → Prop}

theorem leased (hr : Plane.Reaches config stable cond c) : Leased c := by
  refine hr.invariant ⟨?_, ?_, ?_, ?_⟩ fun c a hr _ hm => ?_
  · exact fun j t htj => nomatch htj
  · exact fun t htm => nomatch htm
  · exact fun t htm => nomatch htm
  · exact fun t htm => nomatch htm
  have hs : Pool.Sound (discipline False) (fun _ _ _ _ => True) c := Plane.sound False hr fun _ _ _ h => h.elim
  rcases Pool.act_cases World.exec (Request.program config) c a with
    ⟨q, rfl, he⟩ | ⟨i, x, q, o, next, h, rfl, ht, he⟩ | he <;> rw [he]
  · exact hm.start _
  · have hcall : c.Calls i o h := ⟨_, next, ht, rfl, rfl⟩
    by_cases hstore : ∃ so, o = .store so
    · obtain ⟨so, rfl⟩ := hstore
      exact hm.call hs.inv (hs.permitted hcall) (Plane.tidy hr hcall) ht
    · exact hm.call_other (fun so hso => hstore ⟨so, hso⟩) ht
  · exact hm

/-- The operations that a lease of the Session's id keeps out. -/
def Op.provisions (sid : String) : Op → Bool
  | .store (.create sid' _ _) | .store (.reservePrepareSlot sid' _ _ _ _) | .store (.beginPrepare sid' _ _ _ _ _)
  | .store (.claimProvisioning sid' _ _) => sid' = sid
  | _ => false

/-- The clock has not shown a time that the next call is before. -/
theorem not_passed (hx : ClockAdvances c (.step i x)) (hb : x.Before expiry) : ¬c.Passed expiry := by
  rintro ⟨t, htm, e, he, t', ht', hle⟩
  obtain ⟨now, hnow⟩ := List.exists_mem_of_ne_nil _ hb.1
  exact absurd (hb.2 now hnow) (not_lt.mpr (hle.trans (hx.2 t htm e he t' ht' now hnow)))

/-- A lease that was granted, not released and is not over is stored. -/
theorem stored_of_granted (hm : Leased c) (hx : ClockAdvances c (.step i x)) (hg : c.Granted sid leaseId expiry)
    (hrel : ¬c.Released sid leaseId) (hb : x.Before expiry) :
    ∃ lease, c.state.store.lease? sid = some lease ∧ ∀ k ≤ 2, ∀ t, x.clock k = .finite t → ¬lease.expiresAt ≤ t := by
  obtain ⟨t, htm, e, he, hgrant⟩ := hg
  obtain ⟨⟨lease, hl, _, hexp⟩, _⟩ :=
    ((hm.guarded t htm e he sid leaseId expiry hgrant).resolve_left hrel).resolve_left (not_passed hx hb)
  refine ⟨lease, hl, fun k hk t ht hle => ?_⟩
  have hlt := hb.2 t (mem_readings hk ht)
  rw [← hexp] at hlt
  exact absurd hlt (not_lt.mpr (by exact_mod_cast hle))

/-- An operation that is kept out finds the lease over where it succeeds. -/
theorem leaseOver_of_provisions {o : Op} (ho : o.provisions sid) (hok : (World.exec.event i o x w).isOk) :
    ∃ k ≤ 2, w.store.LeaseOver sid (x.clock k) := by
  have hrun : ∀ {so : StoreOp}, (World.exec.event i (.store so) x w).isOk →
      ∃ a s', so.run x.clock ⟨i, w.serial⟩ w.store = .ok (a, s') := by
    intro so hok
    rcases World.exec_store_cases i so x w with ⟨a, s', _, hrun, _⟩ | ⟨e, he, _⟩
    · exact ⟨a, s', hrun⟩
    · rw [Exec.event, he] at hok
      cases hok
  unfold Op.provisions at ho
  split at ho
  · obtain rfl := of_decide_eq_true ho
    obtain ⟨a, s', hrun⟩ := hrun hok
    exact ⟨1, by decide, leaseOver_of_create hrun⟩
  · obtain rfl := of_decide_eq_true ho
    obtain ⟨a, s', hrun⟩ := hrun hok
    exact ⟨0, by decide, leaseOver_of_reservePrepareSlot hrun⟩
  · obtain rfl := of_decide_eq_true ho
    obtain ⟨a, s', hrun⟩ := hrun hok
    exact ⟨0, by decide, leaseOver_of_beginPrepare hrun⟩
  · obtain rfl := of_decide_eq_true ho
    obtain ⟨a, s', hrun⟩ := hrun hok
    exact ⟨0, by decide, leaseOver_of_claimProvisioning hrun⟩
  · cases ho

/-- A granted claim found no lease left, and one for an orphan no Session to provision. -/
theorem grant_cases {o : Op} (hg : grant? (World.exec.event i o x w) = some (sid, leaseId, expiry)) :
    w.store.LeaseOver sid (x.clock 0) ∧
      (claimsOrphan (World.exec.event i o x w) → ∀ r, w.store.session? sid = some r → r.status ∈ terminalStates) := by
  unfold grant? at hg
  split at hg
  · rename_i sid' _ _ x' leaseId' he
    obtain ⟨rfl, _⟩ := Prod.mk.inj (Option.some.inj hg)
    obtain rfl := congrArg Event.op he
    simp only [Exec.event, Event.mk.injEq, heq_eq_eq, true_and] at he
    rcases effect_claimOrphanCleanup (World.exec_store_ok he.2) with ⟨h, _⟩ | ⟨_, hgrants, hterm⟩
    · cases h
    · exact ⟨hgrants.lapsed, fun _ => hterm⟩
  · rename_i sid' x' leaseId' he
    obtain ⟨rfl, _⟩ := Prod.mk.inj (Option.some.inj hg)
    obtain rfl := congrArg Event.op he
    simp only [Exec.event, Event.mk.injEq, heq_eq_eq, true_and] at he
    rcases effect_claimSessionCleanup (World.exec_store_ok he.2) with ⟨h, _⟩ | ⟨_, hgrants, _⟩
    · cases h
    · exact ⟨hgrants.lapsed, fun horphan => by cases horphan⟩
  · cases hg

/-- Nobody but the task that deletes an orphan releases its lease. -/
theorem not_released_of_duty (hm : Leased c) {t : Task Request Op Op.Res Exc Response Input} (ht : c.tasks[i]? = some t)
    (hduty : orphanDuty t.history = some (sid, leaseId, expiry)) : ¬c.Released sid leaseId := by
  have htm := List.mem_of_getElem? ht
  obtain ⟨⟨e, he, hgrant, _⟩, hfree⟩ := hm.duty t htm sid leaseId expiry hduty
  rintro ⟨t', htm', e', he', hrel, _⟩
  obtain ⟨j, htj⟩ := List.mem_iff_getElem?.mp htm'
  have hi := (hm.drawn i t ht sid leaseId ⟨e, he, expiry, hgrant⟩).1
  have hj := (hm.drawn j t' htj sid leaseId (hm.own t' htm' e' he' sid leaseId hrel)).1
  obtain rfl := hi.symm.trans hj
  obtain rfl := Option.some.inj (ht.symm.trans htj)
  exact hfree e' he' hrel

/-- **Cleanup leases exclude**, in every run whose clock does not go back. While a granted lease is neither released nor
    over, no lease of its id is granted, and the operations that create, reserve, begin or claim its Session fail. A
    lease for an orphan is granted only where its id has no Session or one that is STOPPED, FINISHED or FAILED, and a
    delete under such a lease that takes effect in time still finds it so. -/
theorem cleanup_leases_exclude (hr : Plane.Reaches config stable ClockAdvances c) {o : Op} (hcall : c.Calls i o h)
    (hx : ClockAdvances c (.step i x)) :
    (∀ sid leaseId expiry, c.Granted sid leaseId expiry → ¬c.Released sid leaseId → x.Before expiry →
      (∀ leaseId' expiry', grant? (World.exec.event i o x c.state) ≠ some (sid, leaseId', expiry')) ∧
      (o.provisions sid → (World.exec.event i o x c.state).isOk = false)) ∧
    (∀ sid resource kind leaseId, o = .store (.claimOrphanCleanup sid resource kind) →
      (∃ expiry, grant? (World.exec.event i o x c.state) = some (sid, leaseId, expiry)) →
      ∀ r, c.state.store.session? sid = some r → r.status ∈ [stopped, finished, failed]) ∧
    ∀ id, o = .deleteVolume id ∨ o = .deleteServer id → DeletePermits h id ∧
      ∀ sid leaseId expiry, orphanDuty h = some (sid, leaseId, expiry) → x.Before expiry →
        ∀ r, c.state.store.session? sid = some r → r.status ∈ [stopped, finished, failed] := by
  have hm := leased hr
  refine ⟨fun sid leaseId expiry hg hrel hb => ?_, fun sid resource kind leaseId ho hgrant r hrec => ?_, fun id ho => ?_⟩
  · obtain ⟨lease, hl, hlive⟩ := stored_of_granted hm hx hg hrel hb
    refine ⟨fun leaseId' expiry' hgrant => ?_, fun hprov => Bool.eq_false_iff.mpr fun hok => ?_⟩
    · obtain ⟨t, ht, hle⟩ := (grant_cases hgrant).1 lease hl
      exact hlive 0 (by decide) t ht hle
    · obtain ⟨k, hk, hover⟩ := leaseOver_of_provisions hprov hok
      obtain ⟨t, ht, hle⟩ := hover lease hl
      exact hlive k hk t ht hle
  · obtain ⟨expiry, hgrant⟩ := hgrant
    subst ho
    exact (grant_cases hgrant).2 rfl r hrec
  · have hpermits : DeletePermits h id := by
      have htidy := Plane.tidy hr hcall
      rcases ho with rfl | rfl <;> exact htidy
    refine ⟨hpermits, fun sid leaseId expiry hduty hb r hrec => ?_⟩
    obtain ⟨t, _, ht, _, rfl⟩ := hcall
    have htm := List.mem_of_getElem? ht
    obtain ⟨⟨e, he, hgrant, horphan⟩, _⟩ := hm.duty t htm sid leaseId expiry hduty
    have hguarded := hm.guarded t htm e he sid leaseId expiry hgrant
    exact ((hguarded.resolve_left (not_released_of_duty hm ht hduty)).resolve_left (not_passed hx hb)).2 horphan r hrec

/-- A Session is prepared and stopped, its cleanup has its lease, and the user reserves the Session again. -/
def Sample.reservedDuringCleanup : List (Action Request Input) :=
  .start (.prepare (Sample.call .dev)) :: quietSteps 0 17 1 ++ .start (.stop Sample.sid Sample.user) :: quietSteps 1 5 3 ++
    [.start (.reserve Sample.sid Sample.user .dev { id := "e", maxConcurrentSessions := 1 })]

theorem cleanup_leases_exclude_sample :
    let c := Plane.after Sample.config 5 Sample.reservedDuringCleanup
    ∃ o h, c.Calls 2 o h ∧ o.provisions Sample.sid ∧ (World.exec.event 2 o (.quiet 4) c.state).isOk = false := by
  intro c
  have hchecks : Pool.checks World.exec (Request.program Sample.config) (fun c a => decide (ClockAdvances c a))
      ⟨World.initial 5, []⟩ Sample.reservedDuringCleanup := by decide +kernel
  have hreach : Plane.Reaches Sample.config 5 ClockAdvances c :=
    Reachable.init.run_of_checks (fun _ _ => of_decide_eq_true) hchecks
  have hx : ClockAdvances c (.step 2 (.quiet 4)) := by decide +kernel
  have hnext : c.nextSatisfies 2 fun _ o _ => o.provisions Sample.sid := by decide +kernel
  have hgranted : ∃ t ∈ c.tasks, ∃ e ∈ t.history, grant? e = some (Sample.sid, ⟨1, 21⟩, 903) := by decide +kernel
  have hkept : ∀ t ∈ c.tasks, ∀ e ∈ t.history, ¬e.op.releases := by decide +kernel
  obtain ⟨q, o, next, h, ht, ho⟩ := Pool.exists_of_nextSatisfies hnext
  have hcall : c.Calls 2 o h := ⟨_, next, ht, rfl, rfl⟩
  refine ⟨o, h, hcall, ho, ((cleanup_leases_exclude hreach hcall hx).1 _ _ _ hgranted ?_ ?_).2 ho⟩
  · rintro ⟨t, ht, e, he, hrel, _⟩
    exact hkept t ht e he hrel.releases
  · have hreadings : (Input.quiet 4).readings = [4, 4, 4] := rfl
    rw [Input.Before, hreadings]
    exact ⟨by simp, by decide +kernel⟩

end
end IRLight
