import IRLight.ControlPlane.Programs
import IRLight.Session.Failures

/-! # Prepare against the READY heartbeat

The worker of a prepare and the Node's heartbeat both move a Session from BOOTSTRAPPING to
READY_WAIT_INGEST. The worker's checkpoint gives up the provisioning with the same write, and the heartbeat
does not. As long as no READY heartbeat comes first, no checkpoint is refused and every Session that
accepts media is owned by nobody. -/

namespace IRLight
open Interleaving Status

/-- The Session records a heartbeat of this Node at this time. -/
def Session.Hears (r : Session) (node boot : String) (observed : Timestamp) : Prop :=
  r.nodeId = some node ∧ r.nodeBootId = some boot ∧ ∀ last ∈ r.nodeLastHeartbeatAt, last ≤ observed

/-- No READY heartbeat of its Node meets a Session that is BOOTSTRAPPING. -/
def WorkerFirst (c : Plane) : Action Request Input → Prop
  | .start _ => True
  | .step i x => ∀ sid node boot observed h, c.Calls i (.store (.recordNodeHeartbeat sid node boot observed true)) h →
      x.fault = none → ∀ r, c.state.store.session? sid = some r → r.Hears node boot observed → r.status ≠ bootstrapping

/-- The call is a checkpoint that raised `InvalidTransition`. -/
def refusedCheckpoint : Event Op Op.Res Exc Input → Bool
  | ⟨.store (.provisioningCheckpoint _ _ _ _ _), _, .error (.invalidTransition _)⟩ => true
  | _ => false

/-- Nobody provisions a Session that accepts media. -/
def World.HandedOver (w : World) : Prop :=
  ∀ sid r, w.store.session? sid = some r → r.status.phase = 3 → r.provisioningOperationId = none

section
variable {apiOnly : Prop} {i : ℕ} {h : History} {o : Op} {x : Input} {w : World} {config : Config} {stable : Timestamp}
  {c : Plane}

/-- A heartbeat of a Session that is not BOOTSTRAPPING moves it nowhere. -/
theorem handedOver_of_heartbeat {so : StoreOp} {s s' : SessionStore} {a : so.Res} {clock : ℕ → PyFloat} {fresh : Uuid}
    (hrun : so.run clock fresh s = .ok (a, s')) (hready : so.readies)
    (hover : ∀ sid r, s.session? sid = some r → r.status.phase = 3 → r.provisioningOperationId = none)
    (hfirst : ∀ sid node boot observed, so = .recordNodeHeartbeat sid node boot observed true →
      ∀ r, s.session? sid = some r → r.Hears node boot observed → r.status ≠ bootstrapping)
    (sid : String) (r' : Session) (hr' : s'.session? sid = some r') (h3 : r'.status.phase = 3) :
    r'.provisioningOperationId = none := by
  cases so with
  | recordNodeHeartbeat sid₀ node boot observed ready =>
    obtain rfl : ready = true := hready
    rcases SessionStore.effect_recordNodeHeartbeat hrun with
      ⟨_, rfl, _⟩ | ⟨_, r₀, hr₀, _, hnode, hboot, hlast, rfl⟩
    · exact hover sid r' hr' h3
    · have hne := hfirst sid₀ node boot observed rfl r₀ hr₀ ⟨hnode, hboot, hlast⟩
      have hheard : SessionStore.heard r₀ observed true = { r₀ with nodeLastHeartbeatAt := some observed } := by
        simp [SessionStore.heard, hne]
      rw [hheard] at hr'
      rcases SessionStore.session?_put hr' with ⟨rfl, rfl⟩ | hold
      · exact hover _ r₀ hr₀ h3
      · exact hover sid r' hold h3
  | _ => cases hready

theorem handedOver_exec (hw : w.Sound) (hp : Permits apiOnly i h o w) (hover : w.HandedOver)
    (hfirst : ∀ sid node boot observed, o = .store (.recordNodeHeartbeat sid node boot observed true) →
      x.fault = none → ∀ r, w.store.session? sid = some r → r.Hears node boot observed → r.status ≠ bootstrapping) :
    (World.exec.state i o x w).HandedOver := by
  by_cases hstore : ∃ so, o = .store so
  · obtain ⟨so, rfl⟩ := hstore
    have hs : ∀ sid r, w.store.session? sid = some r → r.Sound := fun sid r hr => (hw.record sid r hr).1
    intro sid r' hr' h3
    by_cases hready : so.readies
    · rcases World.exec_store_cases i so x w with ⟨a, s', hx, hrun, he⟩ | ⟨e, he, _⟩
      · rw [Exec.state, he] at hr'
        exact handedOver_of_heartbeat hrun hready hover
          (fun sid node boot observed ho => hfirst sid node boot observed (ho ▸ rfl) hx) sid r' hr' h3
      · rw [Exec.state, he] at hr'
        exact hover sid r' hr' h3
    · have hc := World.exec_commits (x := x) hw hp
      rcases hc.record hs hr' with hr | ⟨r, hr, hm⟩ | ⟨_, _, _, ho⟩
      · exact hover sid r' hr h3
      · rcases hm.arrives h3 with ⟨h3', ho⟩ | ho | ho
        · exact ho.trans (hover sid r hr h3')
        · exact ho
        · exact absurd ho hready
      · exact ho
  · rw [World.HandedOver, Exec.state, World.exec_other fun so hso => hstore ⟨so, hso⟩]
    exact hover

/-- What a checkpoint records leaves the status to the checkpoint itself. -/
theorem CheckpointShape.status {next : Option Status} {complete : Bool} {changes : List Change}
    (hshape : CheckpointShape next complete changes) {context : String} {update : Session → Session}
    (hu : updateOf context changes = .ok update) (r : Session) : (update r).status = r.status := by
  cases hshape with
  | resource plain => exact (updateOf_plain hu plain r).status
  | bootstrapping =>
    obtain rfl := Except.ok.inj hu
    rfl
  | ready reading =>
    obtain ⟨f, hf, hu⟩ := bind_eq_ok.mp hu
    obtain ⟨t, _, hf⟩ := bind_eq_ok.mp hf
    obtain rfl := pure_eq_ok.mp hf
    obtain rfl := pure_eq_ok.mp hu
    rfl

/-- A checkpoint finds its Session where it may move it, unless a heartbeat was first. -/
theorem checkpoint_accepted (hp : Permits apiOnly i h o w) (hover : w.HandedOver) :
    refusedCheckpoint (World.exec.event i o x w) = false := by
  by_contra hrefused
  rw [Bool.not_eq_false] at hrefused
  unfold refusedCheckpoint at hrefused
  split at hrefused
  · rename_i sid op next complete changes _ m heq
    obtain ⟨rfl, rfl, he⟩ := Event.mk.inj heq
    obtain ⟨_, hshape, hfits⟩ := hp
    rcases World.exec_store_cases i (.provisioningCheckpoint sid op next complete changes) x w with
      ⟨a, s', _, _, hok⟩ | ⟨e, herr, ⟨_, _, rfl⟩ | hrun⟩
    · simp [hok] at he
    · simp [herr] at he
    · obtain rfl : e = .invalidTransition m := by simpa [herr] using he
      refine SessionStore.checkpoint_raises (fun update hu r => hshape.status hu r) (fun r hr ho => ?_) _ hrun m rfl
      have hnot3 : r.status.phase ≠ 3 := fun h3 => by simp [hover sid r hr h3] at ho
      by_cases hlate : 4 ≤ r.status.phase
      · exact Or.inl hlate
      · refine Or.inr fun n hn => ?_
        cases hshape with
        | resource plain => cases hn
        | bootstrapping =>
          obtain rfl := Option.some.inj hn
          rcases hfits r hr ho with hst | hst
          · rw [hst]
            decide
          · omega
        | ready reading =>
          obtain rfl := Option.some.inj hn
          obtain ⟨r₁, hr₁, h2⟩ := hfits
          obtain rfl := Option.some.inj (hr.symm.trans hr₁)
          have hphase : r.status.phase = 2 := by omega
          revert hphase
          cases r.status <;> decide
  · cases hrefused

/-- **The handshake hands the Session over**, in every run in which no READY heartbeat meets a Session that is
    BOOTSTRAPPING: no checkpoint of a prepare raises `InvalidTransition`, and a Session that accepts media has
    given its provisioning up, so that a stop finds nothing in progress. -/
theorem handshake_hands_over (hr : Plane.Reaches config stable WorkerFirst c) :
    (∀ t ∈ c.tasks, ∀ e ∈ t.history, refusedCheckpoint e = false) ∧
    ∀ sid r, c.state.store.session? sid = some r → r.status ∈ [readyWaitIngest, live, degraded, holding] →
      r.provisioningOperationId = none ∧ r.provisioningInProgress = false ∧
      ∀ now, (SessionStore.stopRequested r now).provisioningInProgress = false := by
  have hinv : c.state.HandedOver ∧ ∀ t ∈ c.tasks, ∀ e ∈ t.history, refusedCheckpoint e = false := by
    refine Reachable.invariant (I := fun c => c.state.HandedOver ∧ ∀ t ∈ c.tasks, ∀ e ∈ t.history,
      refusedCheckpoint e = false) ⟨fun sid r hr => ?_, fun t ht => by cases ht⟩ (fun c a hr ha ih => ?_) hr
    · simp [World.initial, SessionStore.session?] at hr
    · have hsound := Plane.sound False hr fun _ _ _ h => h.elim
      rcases Pool.act_cases World.exec (Request.program config) c a with
        ⟨q, rfl, he⟩ | ⟨i, x, q, o, next, h, rfl, ht, he⟩ | he <;> rw [he]
      · refine ⟨ih.1, fun t ht => ?_⟩
        rcases List.mem_append.mp ht with ht | ht
        · exact ih.2 t ht
        · obtain rfl := List.mem_singleton.mp ht
          exact fun e he => by cases he
      · have hcall : c.Calls i o h := ⟨_, next, ht, rfl, rfl⟩
        have hp := hsound.permitted hcall
        refine ⟨handedOver_exec hsound.inv hp ih.1 fun sid node boot observed ho hx => ?_, fun t' ht' e he' => ?_⟩
        · subst ho
          exact ha sid node boot observed h hcall hx
        · rcases List.mem_or_eq_of_mem_set ht' with ht' | rfl
          · exact ih.2 t' ht' e he'
          · rcases List.mem_cons.mp he' with rfl | he'
            · exact checkpoint_accepted hp ih.1
            · exact ih.2 _ (List.mem_of_getElem? ht) e he'
      · exact ih
  refine ⟨hinv.2, fun sid r hr' hst => ?_⟩
  have h3 : r.status.phase = 3 := by
    revert hst
    cases r.status <;> decide
  have hnone := hinv.1 sid r hr' h3
  have hprogress : r.provisioningInProgress = false := by
    have hsound := Plane.sound False hr fun _ _ _ h => h.elim
    rw [(hsound.inv.record sid r hr').1.progress, hnone]
    rfl
  exact ⟨hnone, hprogress, fun now => hprogress⟩

/-- The next call is no READY heartbeat. -/
def noHeartbeat (c : Plane) : Action Request Input → Bool
  | .start _ => true
  | .step i _ => c.nextSatisfies i fun _ o _ => !(o matches .store (.recordNodeHeartbeat _ _ _ _ true))

theorem workerFirst_of_noHeartbeat (c : Plane) (a : Action Request Input) (ha : noHeartbeat c a) : WorkerFirst c a := by
  cases a with
  | start q => trivial
  | step i x =>
    intro sid node boot observed h hcall
    obtain ⟨q, hφ⟩ := hcall.satisfies ha
    cases hφ

/-- A prepare that makes its Session ready itself. -/
def Sample.shortcut : List (Action Request Input) := .start (.prepare (Sample.call .dev)) :: quietSteps 0 17 1

theorem handshake_hands_over_sample :
    let c := Plane.after Sample.config 5 Sample.shortcut
    ∃ r, c.state.store.session? Sample.sid = some r ∧ r.status = readyWaitIngest ∧
      r.provisioningOperationId = none ∧ r.provisioningInProgress = false := by
  intro c
  have hreach : Plane.Reaches Sample.config 5 WorkerFirst c :=
    Reachable.init.run_of_checks workerFirst_of_noHeartbeat (by decide +kernel)
  have hready : (c.state.store.session? Sample.sid).any (·.status = readyWaitIngest) := by decide +kernel
  obtain ⟨r, hr, hst⟩ := (Option.any_eq_true _ _).mp hready
  have hst : r.status = readyWaitIngest := by simpa using hst
  obtain ⟨hnone, hprogress, _⟩ := (handshake_hands_over hreach).2 _ r hr (by simp [hst])
  exact ⟨r, hr, hst, hnone, hprogress⟩

/-- The Node reports READY before the worker of a development Session has made it ready. -/
def Sample.readyFirst : List (Action Request Input) :=
  [.start (.prepare (Sample.call .dev)), .start Sample.bootstrap, .start Sample.ready] ++
    quietSteps 0 15 1 ++ quietSteps 1 6 2 ++ quietSteps 2 5 3 ++ quietSteps 0 2 4

/-- A READY heartbeat makes the worker's checkpoint raise `InvalidTransition`, and leaves a Session whose prepare
    has returned in progress. -/
theorem handshake_keeps_owner :
    (∃ t ∈ (Plane.after Sample.config 5 Sample.readyFirst).tasks, ∃ e ∈ t.history, refusedCheckpoint e) ∧
    let c := Plane.after Sample.config 5 Sample.readyAfter
    (∃ t ∈ c.tasks, t.request matches .prepare _ ∧ t.program matches .done (.ok _)) ∧
    ∃ r, c.state.store.session? Sample.sid = some r ∧ r.status = readyWaitIngest ∧
      r.provisioningOperationId.isSome ∧ r.provisioningInProgress = true := by
  refine ⟨by decide +kernel, by decide +kernel, ?_⟩
  have howned : ((Plane.after Sample.config 5 Sample.readyAfter).state.store.session? Sample.sid).any fun r =>
      r.status = readyWaitIngest && r.provisioningOperationId.isSome && r.provisioningInProgress := by
    decide +kernel
  obtain ⟨r, hr, hr'⟩ := (Option.any_eq_true _ _).mp howned
  simp only [Bool.and_eq_true, decide_eq_true_eq] at hr'
  exact ⟨r, hr, hr'.1.1, hr'.1.2, hr'.2⟩

end
end IRLight
