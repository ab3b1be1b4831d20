import IRLight.ControlPlane.Programs
import IRLight.Session.Occupancy

/-! # The per-user concurrency cap

Only a new binding by `begin_prepare`, or `reserve_prepare_slot`, makes a Session occupy a slot, and only
below the limit. A claim does not: the Session it finds was bound, so it holds a reservation already. -/

namespace IRLight
open Interleaving Status

/-- The slot that the call took: its Session, its user and the limit. -/
def slotTaken : Event Op Op.Res Exc Input → Option (String × String × ℤ)
  | ⟨.store (.beginPrepare sid user _ _ max _), _, .ok (_, false)⟩ => some (sid, user, max)
  | ⟨.store (.reservePrepareSlot sid user _ _ max), _, .ok _⟩ => some (sid, user, max)
  | _ => none

/-- The call took a slot of the user for the Session after counting fewer than its limit, and left the
    count within that limit. -/
def TakesSlot (sid user : String) (e : Event Op Op.Res Exc Input) (s s' : SessionStore) : Prop :=
  ∃ max, slotTaken e = some (sid, user, max) ∧ (s.occupied sid user : ℤ) < max ∧ (s'.occupiedBy user : ℤ) ≤ max

section
variable {s : SessionStore} {sid sid' user : String} {r r' : Session}

open SessionStore

/-- A commit that gives no slot to the record it changes gives none to any Session. -/
theorem holdsSlot_put_le (h : r'.userId = user → r'.occupies → s.holdsSlot sid' user)
    (ha : (s.put sid' r').holdsSlot sid user) : s.holdsSlot sid user := by
  by_cases he : sid = sid'
  · subst he
    simp only [holdsSlot_put, Bool.and_eq_true, decide_eq_true_eq] at ha
    exact h ha.1 ha.2
  · simpa [holdsSlot, session?_put_ne he] using ha

/-- A new holder is the Session whose record was committed. -/
theorem holdsSlot_put_new (hb : s.holdsSlot sid user = false) (ha : (s.put sid' r').holdsSlot sid user) :
    sid = sid' ∧ r'.userId = user ∧ r'.occupies := by
  by_cases he : sid = sid'
  · subst he
    simp only [holdsSlot_put, Bool.and_eq_true, decide_eq_true_eq] at ha
    exact ⟨rfl, ha⟩
  · rw [holdsSlot, session?_put_ne he, ← holdsSlot, hb] at ha
    cases ha

theorem occupiedBy_put_le {max : ℤ} (h : (s.occupied sid user : ℤ) < max) : ((s.put sid r').occupiedBy user : ℤ) ≤ max := by
  rw [occupiedBy_put]
  have := (decide (r'.userId = user) && r'.occupies).toNat_le
  omega

theorem holdsSlot_of_occupies (hr : s.session? sid = some r) (hu : r.userId = user) (ho : r.occupies) :
    s.holdsSlot sid user := by
  simp [holdsSlot, hr, hu, ho]

theorem bound_occupies (r : Session) (request : PrepareRequest) (ent key : String) (now : Timestamp) :
    (bound r request ent key now).occupies := by
  simp [Session.occupies, bound]

end

section
variable {i : ℕ} {h : History} {o : Op} {x : Input} {w : World} {sid user : String}

open SessionStore

/-- A call that takes a slot says whose, unless it changed nothing. -/
theorem slotTaken_of_slot {so : StoreOp} {clock : ℕ → PyFloat} {fresh : Uuid} {s s' : SessionStore} {a : so.Res}
    {t : String × String × ℤ} (hrun : so.run clock fresh s = .ok (a, s')) (ho : so.slot? = some t) (hne : s' ≠ s) :
    slotTaken ⟨.store so, x, .ok a⟩ = some t := by
  cases so <;> cases ho
  · rfl
  · obtain ⟨r, replay⟩ := a
    rcases effect_beginPrepare hrun with ⟨_, _, _, _, hs⟩ | ⟨rfl, _⟩
    · exact absurd hs hne
    · rfl

/-- A transaction gives a slot to a Session only by taking it within the limit. -/
theorem takesSlot_of_commits {so : StoreOp} {clock : ℕ → PyFloat} {fresh : Uuid} {s s' : SessionStore} {a : so.Res}
    (hs : ∀ sid r, s.session? sid = some r → r.Sound) (hrun : so.run clock fresh s = .ok (a, s'))
    (hc : Commits True so s s') (hb : s.holdsSlot sid user = false) (ha : s'.holdsSlot sid user) :
    TakesSlot sid user ⟨.store so, x, .ok a⟩ s s' := by
  have hne : s' ≠ s := fun he => by rw [he, hb] at ha; cases ha
  cases hc with
  | same hsame =>
    rw [holdsSlot, session?, hsame, ← session?, ← holdsSlot, hb] at ha
    cases ha
  | step hr hstep =>
    refine absurd (holdsSlot_put_le (fun hu ho => ?_) ha) (by simp [hb])
    exact holdsSlot_of_occupies hr (hstep.later.user.symm.trans hu) (hstep.occupies ho)
  | reserve hr hslot _ hl _ hu _ _ hmax =>
    obtain ⟨rfl, hu', _⟩ := holdsSlot_put_new hb ha
    obtain rfl := (hl.user.trans hu).symm.trans hu'
    rcases hmax with hmax | hocc
    · exact ⟨_, slotTaken_of_slot hrun hslot hne, hmax, occupiedBy_put_le hmax⟩
    · rw [holdsSlot_of_occupies hr hu hocc] at hb
      cases hb
  | fresh hr hslot _ _ hu _ hmax =>
    obtain ⟨rfl, hu', _⟩ := holdsSlot_put_new hb ha
    obtain rfl := hu.symm.trans hu'
    exact ⟨_, slotTaken_of_slot hrun hslot hne, hmax, occupiedBy_put_le hmax⟩
  | created hapi => exact absurd trivial hapi
  | claim _ hr hstop hkey =>
    -- the claimed Session was bound, so it held its reservation already
    have hres := (hs _ _ hr).bound hstop (hkey trivial)
    refine absurd (holdsSlot_put_le (fun hu _ => ?_) ha) (by simp [hb])
    exact holdsSlot_of_occupies hr hu (by simp [Session.occupies, hres])

/-- A count that grows has a new holder. -/
theorem exists_new_of_growth {so : StoreOp} {s s' : SessionStore} (hc : Commits True so s s')
    (hg : s.occupiedBy user < s'.occupiedBy user) : ∃ sid, s.holdsSlot sid user = false ∧ s'.holdsSlot sid user := by
  rcases hc.shape with hsame | ⟨sid, r', rfl⟩
  · rw [occupiedBy, occupiedBy, hsame] at hg
    exact absurd hg (lt_irrefl _)
  · refine ⟨sid, ?_⟩
    rw [occupiedBy_eq s sid, occupiedBy_eq (s.put sid r') sid, occupied_put] at hg
    cases hb : s.holdsSlot sid user <;> cases ha : (s.put sid r').holdsSlot sid user <;> simp_all

/-- What one call does to the slots. -/
theorem slots_of_call (hw : w.Sound) (hp : Permits True i h o w) :
    let w' := World.exec.state i o x w
    (∀ sid user, w.store.holdsSlot sid user = false → w'.store.holdsSlot sid user →
      TakesSlot sid user (World.exec.event i o x w) w.store w'.store) ∧
    ∀ user, w.store.occupiedBy user < w'.store.occupiedBy user → ∃ sid, w.store.holdsSlot sid user = false ∧
      TakesSlot sid user (World.exec.event i o x w) w.store w'.store := by
  have of_same : ∀ {s : SessionStore} {e : Event Op Op.Res Exc Input}, s = w.store →
      (∀ sid user, w.store.holdsSlot sid user = false → s.holdsSlot sid user → TakesSlot sid user e w.store s) ∧
      ∀ user, w.store.occupiedBy user < s.occupiedBy user → ∃ sid, w.store.holdsSlot sid user = false ∧
        TakesSlot sid user e w.store s := by
    rintro s e rfl
    exact ⟨fun sid user hb ha => by simp [hb] at ha, fun user hg => absurd hg (lt_irrefl _)⟩
  by_cases hstore : ∃ so, o = .store so
  · obtain ⟨so, rfl⟩ := hstore
    rcases World.exec_store_cases i so x w with ⟨a, s', _, hrun, he⟩ | ⟨e, he, _⟩
    · have hc : Commits True so w.store s' := StoreOp.commits hrun hp hw.record
      have hnew : ∀ sid user, w.store.holdsSlot sid user = false → s'.holdsSlot sid user →
          TakesSlot sid user ⟨.store so, x, .ok a⟩ w.store s' := fun sid user =>
        takesSlot_of_commits (fun sid r hr => (hw.record sid r hr).1) hrun hc
      rw [Exec.event, Exec.state, he]
      refine ⟨hnew, fun user hg => ?_⟩
      obtain ⟨sid, hb, ha⟩ := exists_new_of_growth hc hg
      exact ⟨sid, hb, hnew sid user hb ha⟩
    · exact of_same (by rw [Exec.state, he])
  · exact of_same (World.exec_other fun so hso => hstore ⟨so, hso⟩)

/-- A new binding by `begin_prepare` is always within its limit. -/
theorem takesSlot_of_binding {request : PrepareRequest} {ent key : String} {max : ℤ} {r : Session} {s s' : SessionStore}
    {clock : ℕ → PyFloat} (hrun : s.beginPrepare sid user request ent max key clock = .ok ((r, false), s')) :
    TakesSlot sid user ⟨.store (.beginPrepare sid user request ent max key), x, .ok (r, false)⟩ s s' := by
  rcases effect_beginPrepare hrun with ⟨hf, _⟩ | ⟨_, hmax, r₀, now, rfl, rfl, _⟩
  · cases hf
  · exact ⟨max, rfl, hmax, occupiedBy_put_le hmax⟩

end

/-- **The concurrency cap.** In every run of the deployed system, a Session comes to occupy a slot, and the
    count of its user's slots grows, only inside a new binding by `begin_prepare` or a `reserve_prepare_slot`
    that counted fewer than its limit and leaves the count within it; and every new binding is one. -/
theorem concurrency_cap {config : Config} {stable : Timestamp} {c : Plane}
    (hr : Plane.Reaches config stable Plane.Deployed c) (a : Action Request Input) :
    let s := c.state.store
    let s' := (c.act World.exec (Request.program config) a).state.store
    (∀ sid user, s.holdsSlot sid user = false → s'.holdsSlot sid user →
      ∃ e, c.Makes World.exec a e ∧ TakesSlot sid user e s s') ∧
    (∀ user, s.occupiedBy user < s'.occupiedBy user →
      ∃ e sid, c.Makes World.exec a e ∧ s.holdsSlot sid user = false ∧ TakesSlot sid user e s s') ∧
    ∀ sid user request ent max key x r,
      c.Makes World.exec a ⟨.store (.beginPrepare sid user request ent max key), x, .ok (r, false)⟩ →
        TakesSlot sid user ⟨.store (.beginPrepare sid user request ent max key), x, .ok (r, false)⟩ s s' := by
  have hs : Pool.Sound (discipline True) (fun _ _ _ _ => True) c := Plane.sound True hr fun _ _ hq _ => hq
  refine ⟨fun sid user hb ha => ?_, fun user hg => ?_, ?_⟩
  · rcases Pool.act_state World.exec (Request.program config) c a with hsame | ⟨i, x, o, h, rfl, hcall⟩
    · rw [hsame, hb] at ha
      cases ha
    · rw [hcall.state] at ha ⊢
      exact ⟨_, ⟨i, x, o, h, rfl, hcall, rfl⟩, (slots_of_call hs.inv (hs.permitted hcall)).1 sid user hb ha⟩
  · rcases Pool.act_state World.exec (Request.program config) c a with hsame | ⟨i, x, o, h, rfl, hcall⟩
    · rw [hsame] at hg
      exact absurd hg (lt_irrefl _)
    · rw [hcall.state] at hg ⊢
      obtain ⟨sid, hb, ht⟩ := (slots_of_call hs.inv (hs.permitted hcall)).2 user hg
      exact ⟨_, sid, ⟨i, x, o, h, rfl, hcall, rfl⟩, hb, ht⟩
  · rintro sid user request ent max key x r ⟨i, x', o, h, rfl, hcall, he⟩
    obtain ⟨rfl, rfl, hres⟩ := Event.mk.inj he
    rw [hcall.state]
    exact takesSlot_of_binding (World.exec_store_ok (eq_of_heq hres).symm)

/-- The first prepare request of a user takes the only slot. -/
theorem concurrency_cap_sample :
    let c := Plane.after Sample.config 5 [.start (.prepare (Sample.call .dev)), .step 0 (.quiet 1)]
    ∃ e, c.Makes World.exec (.step 0 (.quiet 1)) e ∧ TakesSlot Sample.sid Sample.user e c.state.store
      (c.act World.exec (Request.program Sample.config) (.step 0 (.quiet 1))).state.store :=
  (concurrency_cap (Reachable.init.run (by simp [Plane.Deployed, Request.isDeployed])) (.step 0 (.quiet 1))).1
    Sample.sid Sample.user (by decide +kernel) (by decide +kernel)

end IRLight
