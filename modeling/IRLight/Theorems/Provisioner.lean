import IRLight.ControlPlane.Programs

/-! # At most one provisioner

A claim takes a Session out of `STOPPED`, no call brings it back, and only the task that claimed a Session
creates resources for it. -/

namespace IRLight
open Interleaving Status

/-- The call claimed the Session's provisioning. -/
def claimed (sid : String) (e : Event Op Op.Res Exc Input) : Bool :=
  match e.op with
  | .store (.claimProvisioning sid' _ _) => sid' = sid && e.isOk
  | _ => false

/-- The call asks the provider for a resource of the Session. -/
def creates (sid : String) (e : Event Op Op.Res Exc Input) : Bool :=
  match e.op with
  | .createVolume _ _ tags | .createServer _ _ _ _ tags => tags.sessionId = some sid
  | _ => false

theorem claimed_iff {sid : String} {e : Event Op Op.Res Exc Input} :
    claimed sid e ↔ ∃ op started, e.op = .store (.claimProvisioning sid op started) ∧ e.isOk := by
  unfold claimed
  split
  · rename_i sid' op started he
    simp only [he, Bool.and_eq_true, decide_eq_true_eq, Op.store.injEq, StoreOp.claimProvisioning.injEq]
    exact ⟨fun ⟨h, hok⟩ => ⟨op, started, ⟨h, rfl, rfl⟩, hok⟩, fun ⟨_, _, ⟨h, _⟩, hok⟩ => ⟨h, hok⟩⟩
  · rename_i hne
    exact ⟨(nomatch ·), fun ⟨op, started, he, _⟩ => absurd he (hne _ _ _)⟩

variable {apiOnly : Prop} {sid : String} {i : ℕ} {h : History} {o : Op} {x : Input} {w : World}

/-- A permitted claim that succeeds finds the Session in `STOPPED`, and leaves it past that. -/
theorem claim_from_stopped (hw : w.Sound) (hp : Permits apiOnly i h o w) (hc : claimed sid (World.exec.event i o x w)) :
    (∃ r, w.store.session? sid = some r ∧ r.status = stopped) ∧
      ∃ r, (World.exec.state i o x w).store.session? sid = some r ∧ 1 ≤ r.status.phase := by
  obtain ⟨op, started, rfl, hok⟩ := claimed_iff.mp hc
  cases he : (World.exec i (.store (.claimProvisioning sid op started)) x w).1 with
  | error e => simp [Event.isOk, Exec.event, he] at hok
  | ok r =>
    obtain ⟨r₀, t, now, hr₀, hst, hop, rfl, hs⟩ := SessionStore.effect_claimProvisioning (World.exec_store_ok he)
    refine ⟨⟨r₀, hr₀, ?_⟩, _, by rw [Exec.state, hs]; exact SessionStore.session?_put_self, le_rfl⟩
    exact SessionStore.stopped_of_claim (hw.record sid r₀ hr₀).1 hst hop (hp.2.2.1 sid r₀ hr₀)

/-- A task that may ask for a resource of the Session has claimed it. -/
theorem claims_of_creates (hp : Permits apiOnly i h o w) (hc : creates sid (World.exec.event i o x w)) :
    ∃ e ∈ h, claimed sid e := by
  have of_tags : ∀ {tags : Tags}, tags.sessionId = some sid → (∃ s, tags.sessionId = some s ∧ Claims h s) →
      ∃ e ∈ h, claimed sid e := by
    rintro tags ht ⟨s, hs, e, he, hclaim⟩
    obtain rfl := Option.some.inj (ht.symm.trans hs)
    exact ⟨e, he, claimed_iff.mpr hclaim⟩
  cases o <;> simp [creates, Exec.event] at hc
  · exact of_tags hc hp
  · exact of_tags hc hp

/-- What every run keeps about one Session. -/
structure OneProvisioner (sid : String) (c : Plane) : Prop where
  once : c.count (claimed sid) ≤ 1
  started : 0 < c.count (claimed sid) → ∃ r, c.state.store.session? sid = some r ∧ 1 ≤ r.status.phase
  creator : ∀ (i : ℕ) t, c.tasks[i]? = some t → ∀ e ∈ t.history, creates sid e → ∃ e' ∈ t.history, claimed sid e'

/-- One call keeps that every creator has claimed. -/
theorem creator_step {c : Plane} {q : Request} {next : Except Exc o.Res → Control Response}
    (hp : Permits apiOnly i h o c.state) (ht : c.tasks[i]? = some ⟨q, .call o next, h⟩)
    (hc : ∀ (j : ℕ) t, c.tasks[j]? = some t → ∀ e ∈ t.history, creates sid e → ∃ e' ∈ t.history, claimed sid e')
    {p : Control Response} {j : ℕ} {t : Task Request Op Op.Res Exc Response Input} {e : Event Op Op.Res Exc Input}
    (htj : (c.tasks.set i ⟨q, p, World.exec.event i o x c.state :: h⟩)[j]? = some t) (het : e ∈ t.history)
    (hce : creates sid e) : ∃ e' ∈ t.history, claimed sid e' := by
  rcases mem_tasks_set htj with ⟨rfl, rfl⟩ | ⟨_, htj⟩
  · rcases List.mem_cons.mp het with rfl | het
    · obtain ⟨e', he', hclaim⟩ := claims_of_creates hp hce
      exact ⟨e', List.mem_cons_of_mem _ he', hclaim⟩
    · obtain ⟨e', he', hclaim⟩ := hc i _ ht e het hce
      exact ⟨e', List.mem_cons_of_mem _ he', hclaim⟩
  · exact hc j t htj e het hce

theorem OneProvisioner.act {config : Config} {c : Plane} (hs : Pool.Sound (discipline apiOnly) (fun _ _ _ _ => True) c)
    (a : Action Request Input) (hc : OneProvisioner sid c) :
    OneProvisioner sid (c.act World.exec (Request.program config) a) := by
  rcases Pool.act_cases World.exec (Request.program config) c a with
    ⟨q, -, he⟩ | ⟨i, x, q, o, next, h, -, ht, he⟩ | he <;> rw [he]
  · refine ⟨by simpa using hc.once, by simpa using hc.started, fun j t htj e het hce => ?_⟩
    rcases mem_tasks_append htj with htj | rfl
    · exact hc.creator j t htj e het hce
    · cases het
  · have hp : Permits apiOnly i h o c.state := hs.permitted ⟨_, next, ht, rfl, rfl⟩
    have hlater := (hs.inv.exec (x := x) hp).2.1
    by_cases hclaim : claimed sid (World.exec.event i o x c.state)
    · obtain ⟨⟨r, hr, hstop⟩, hafter⟩ := claim_from_stopped hs.inv hp hclaim
      have hzero : c.count (claimed sid) = 0 := by
        by_contra hne
        obtain ⟨r', hr', hphase⟩ := hc.started (Nat.pos_of_ne_zero hne)
        obtain rfl := Option.some.inj (hr.symm.trans hr')
        simp [hstop, Status.phase] at hphase
      refine ⟨?_, fun _ => hafter, fun j t htj e het hce => ?_⟩
      · rw [Pool.count_step ht, if_pos hclaim, hzero]
      · exact creator_step hp ht hc.creator htj het hce
    · refine ⟨?_, fun hpos => ?_, fun j t htj e het hce => ?_⟩
      · rw [Pool.count_step ht, if_neg hclaim]
        exact hc.once
      · rw [Pool.count_step ht, if_neg hclaim] at hpos
        obtain ⟨r, hr, hphase⟩ := hc.started hpos
        obtain ⟨r', hr', hl⟩ := hlater sid r hr
        exact ⟨r', hr', hphase.trans hl.phase⟩
      · exact creator_step hp ht hc.creator htj het hce
  · exact hc

/-- **At most one provisioner.** In every run, of any requests in any interleaving, a Session is claimed at
    most once, and all requests for its resources come from one task. -/
theorem claimed_at_most_once (config : Config) (stable : Timestamp) (schedule : List (Action Request Input))
    (sid : String) :
    (Plane.after config stable schedule).count (claimed sid) ≤ 1 ∧
      ∀ (i j : ℕ) t t', (Plane.after config stable schedule).tasks[i]? = some t →
        (Plane.after config stable schedule).tasks[j]? = some t' →
        (∃ e ∈ t.history, creates sid e) → (∃ e ∈ t'.history, creates sid e) → i = j := by
  have hreach := Plane.after_reaches config stable schedule
  have hinv : OneProvisioner sid (Plane.after config stable schedule) :=
    hreach.invariant ⟨by simp, by simp, fun i t ht => by simp at ht⟩ fun c a hr _ hc =>
      hc.act (Plane.sound False hr fun _ _ _ h => h.elim) a
  refine ⟨hinv.once, fun i j t t' ht ht' ⟨e, he, hc⟩ ⟨e', he', hc'⟩ => ?_⟩
  obtain ⟨f, hf, hclaim⟩ := hinv.creator i t ht e he hc
  obtain ⟨f', hf', hclaim'⟩ := hinv.creator j t' ht' e' he' hc'
  exact Pool.unique_of_count hinv.once ht ht' hf hf' hclaim hclaim'

end IRLight
