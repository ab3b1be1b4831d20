import IRLight.ControlPlane.Programs
import IRLight.ControlPlane.Sweeps
import IRLight.ControlPlane.Writes
import IRLight.Interleaving.Observe

/-! # What a sweep decides on

A sweep lists the Sessions of a state and then goes through the list, while Nodes report and users stop Sessions. It may only stop
or fail a Session that is overdue at the moment when its status changes. -/

namespace IRLight
open Interleaving Status SessionStore

/-! ### Fields that a record keeps -/

namespace SessionStore
variable {context : String} {changes : List Change} {update : Session → Session}

/-- The status and the time of creation. -/
def fixedFields (r : Session) : Status × Timestamp := (r.status, r.createdAt)

theorem updateOf_fixed (h : updateOf context changes = .ok update) (r : Session) : fixedFields (update r) = fixedFields r := by
  refine updateOf_keeps (fun c _ g hg r => ?_) h r
  cases c with
  | readyAt v =>
    obtain ⟨t, _, hg⟩ := bind_eq_ok.mp hg
    obtain rfl := pure_eq_ok.mp hg
    rfl
  | _ =>
    obtain rfl := Except.ok.inj hg
    rfl

theorem updateOf_createdAt (h : updateOf context changes = .ok update) (r : Session) : (update r).createdAt = r.createdAt :=
  congrArg Prod.snd (updateOf_fixed h r)

theorem updateOf_status (h : updateOf context changes = .ok update) (r : Session) : (update r).status = r.status :=
  congrArg Prod.fst (updateOf_fixed h r)

theorem advanced_createdAt {r r' : Session} {next : Option Status} (h : advanced r next = .ok r') : r'.createdAt = r.createdAt := by
  cases next with
  | none =>
    obtain rfl := Except.ok.inj h
    rfl
  | some next =>
    obtain ⟨_, _, h⟩ := bind_eq_ok.mp h
    obtain rfl := pure_eq_ok.mp h
    rfl

theorem transitioned_createdAt (h : updateOf context changes = .ok update) (r : Session) (new : Status) (now : Timestamp) :
    (transitioned r update new now).createdAt = r.createdAt := by
  unfold transitioned
  split <;> exact updateOf_createdAt h r

theorem foldl_createdAt {f : Session → String → Session} (hf : ∀ (r : Session) (e : String), (f r e).createdAt = r.createdAt)
    (types : List String) (r : Session) : (types.foldl f r).createdAt = r.createdAt := by
  induction types generalizing r with
  | nil => rfl
  | cons e types ih => exact (ih (f r e)).trans (hf r e)

theorem IngestObservation.advance_createdAt (o : IngestObservation) (r : Session) (node : String) (stable current : Timestamp) :
    (o.advance r node stable current).createdAt = r.createdAt := by
  have hdecide : (o.decide r stable current).2.createdAt = r.createdAt := by
    unfold decide
    split
    · split
      · rfl
      · dsimp only
        unfold Session.recoveryCandidateReady
        split
        · split <;> rfl
        · rfl
    · rfl
  have hstamp : ∀ (r : Session) target, (o.stamp r target current).createdAt = r.createdAt := by
    intro r target
    unfold stamp
    split
    · rfl
    · split <;> rfl
  unfold advance
  dsimp only
  split
  · split
    · exact (hstamp _ _).trans hdecide
    · split <;> exact hdecide
  · split <;> exact hdecide

end SessionStore

section
variable {o : StoreOp} {stable : Timestamp} {sid : String} {r r' : Session}

/-- No call changes when a Session was created. -/
theorem StoreOp.Rewrites.createdAt (h : o.Rewrites stable sid r r') : r'.createdAt = r.createdAt := by
  cases h with
  | cancelled hu => exact updateOf_createdAt hu r
  | @checkpoint _ _ complete _ _ _ _ _ hu hadv =>
    refine Eq.trans ?_ ((advanced_createdAt hadv).trans (updateOf_createdAt hu r))
    cases complete <;> rfl
  | transition _ hu => exact transitioned_createdAt hu r _ _
  | transitionIfCurrent _ _ hu => exact transitioned_createdAt hu r _ _
  | update hu => exact updateOf_createdAt hu r
  | @updateIfCurrent _ _ event _ _ _ _ _ _ hu =>
    refine Eq.trans ?_ (updateOf_createdAt hu r)
    cases event <;> rfl
  | hear =>
    unfold heard
    dsimp only
    split <;> rfl
  | ingest =>
    refine (IngestObservation.advance_createdAt ..).trans ?_
    unfold IngestObservation.appendEvents
    apply foldl_createdAt
    intro r e
    rfl
  | @relay node types o observedAt now =>
    exact foldl_createdAt (f := fun r eventType =>
      r.appendEventLocked eventType o.reasonCode (o.payload node) "node-agent" now) (fun _ _ => rfl) types r
  | _ => rfl

end

/-! ### What a sweep remembers -/

section
variable {config : Config} {stable : Timestamp} {cond : Plane → Action Request Input → Prop} {c : Plane} {i : ℕ} {o : Op}
  {x : Input} {h h' : History} {w : World} {sid : String} {session r r' : Session}

/-- The sweep was given the record in a list of the Sessions in these states. -/
def Fetched (states : List Status) (session : Session) (h : History) : Prop :=
  ∃ x records, ⟨.store (.sessionsInStates states), x, .ok records⟩ ∈ h ∧ session ∈ records

/-- The Session of a record is still there, and no earlier in its life. -/
def World.Remembers (session : Session) (w : World) : Prop :=
  ∃ r, w.store.session? session.sessionId = some r ∧ session.Later r ∧ r.createdAt = session.createdAt

theorem World.Remembers.exec {apiOnly : Prop} (hm : w.Remembers session) (hw : w.Sound) (hp : Permits apiOnly i h o w) :
    (World.exec i o x w).2.Remembers session := by
  obtain ⟨r, hr, hlater, hcreated⟩ := hm
  obtain ⟨r', hr', hlater'⟩ := (hw.exec (x := x) hp).2.1 _ r hr
  refine ⟨r', hr', hlater.trans hlater', Eq.trans ?_ hcreated⟩
  by_cases hstore : ∃ so, o = .store so
  · obtain ⟨so, rfl⟩ := hstore
    rcases World.exec_store_cases i so x w with ⟨a, s', _, hrun, he⟩ | ⟨e, he, _⟩
    · rw [he] at hr'
      rcases (StoreOp.writes _ _ hrun).record hr' with hr' | ⟨hnone, _⟩ | ⟨r₀, hr₀, hrewrites⟩
      · rw [Option.some.inj (hr'.symm.trans hr)]
      · rw [hr] at hnone
        cases hnone
      · obtain rfl := Option.some.inj (hr₀.symm.trans hr)
        exact hrewrites.createdAt
    · rw [he] at hr'
      rw [Option.some.inj (hr'.symm.trans hr)]
  · rw [World.exec_other fun so hso => hstore ⟨so, hso⟩] at hr'
    rw [Option.some.inj (hr'.symm.trans hr)]

theorem Fetched.cons {states : List Status} {e : Event Op Op.Res Exc Input} (hl : Fetched states session (e :: h)) :
    (∃ x records, e = ⟨.store (.sessionsInStates states), x, .ok records⟩ ∧ session ∈ records) ∨ Fetched states session h := by
  obtain ⟨x, records, he, hmem⟩ := hl
  rcases List.mem_cons.mp he with he | he
  · exact .inl ⟨x, records, he.symm, hmem⟩
  · exact .inr ⟨x, records, he, hmem⟩

theorem remembers_of_fetched (hw : w.Sound) {states : List Status} {records : List Session}
    (he : (World.exec i (.store (.sessionsInStates states)) x w).1 = .ok records) (hmem : session ∈ records) :
    session.status ∈ states ∧ w.Remembers session := by
  obtain ⟨rfl, _⟩ := Prod.mk.inj (Except.ok.inj (World.exec_store_ok he))
  obtain ⟨hrecord, hstatus⟩ := List.mem_filter.mp hmem
  obtain ⟨sid, hsid⟩ := mem_records.mp hrecord
  refine ⟨by simpa using hstatus, session, ?_, .refl session, rfl⟩
  rw [(hw.record sid session hsid).2]
  exact hsid

/-- The Sessions that a task was given in a list had one of its states. They are still there, and no earlier in their lives. -/
def Plane.Remembering (c : Plane) : Prop :=
  ∀ t ∈ c.tasks, ∀ states session, Fetched states session t.history → session.status ∈ states ∧ c.state.Remembers session

theorem Plane.remembers (hr : Plane.Reaches config stable cond c) : c.Remembering := by
  refine hr.invariant ?_ fun c a hr ha hm => ?_
  · intro t ht
    cases ht
  have hs : Pool.Sound (discipline False) (fun _ _ _ _ => True) c := Plane.sound False hr fun _ _ _ h => h.elim
  rcases Pool.act_cases World.exec (Request.program config) c a with
    ⟨q, rfl, he⟩ | ⟨i, x, q, o, next, h, rfl, ht, he⟩ | he <;> rw [he]
  · intro t ht states session hfetched
    rcases List.mem_append.mp ht with ht | ht
    · exact hm t ht states session hfetched
    · obtain rfl := List.mem_singleton.mp ht
      obtain ⟨_, _, he, _⟩ := hfetched
      cases he
  · have hcall : c.Calls i o h := ⟨_, next, ht, rfl, rfl⟩
    have hstep : ∀ session, c.state.Remembers session → (World.exec i o x c.state).2.Remembers session :=
      fun session hsession => hsession.exec hs.inv (hs.permitted hcall)
    intro t ht' states session hfetched
    rcases List.mem_or_eq_of_mem_set ht' with ht' | rfl
    · exact (hm t ht' states session hfetched).imp_right (hstep session)
    · refine And.imp_right (hstep session) ?_
      rcases hfetched.cons with ⟨x', records, hevent, hmem⟩ | hfetched
      · obtain rfl : o = .store (.sessionsInStates states) := congrArg Event.op hevent
        simp only [Exec.event, Event.mk.injEq, heq_eq_eq, true_and] at hevent
        exact remembers_of_fetched hs.inv hevent.2 hmem
      · exact hm _ (List.mem_of_getElem? ht) states session hfetched
  · exact hm

/-! ### When a sweep may act -/

/-- The clock of the sweep. -/
def Told (now : Timestamp) (h : History) : Prop := ∃ x, ⟨.time, x, .ok (.finite now)⟩ ∈ h

theorem Told.mono {now : Timestamp} (ht : Told now h) (hsub : h ⊆ h') : Told now h' :=
  ht.imp fun _ he => hsub he

theorem Fetched.mono {states : List Status} (hl : Fetched states session h) (hsub : h ⊆ h') :
    Fetched states session h' :=
  hl.imp fun _ hx => hx.imp fun _ he => he.imp_left fun he => hsub he

/-- A Session has run out of one of its times, by the clock of the sweep and the record itself. What the Nodes' authority adds to
    the record is what the sweep has read of it. -/
inductive Overdue (config : Reaper.ReaperConfig) (now : Timestamp) (h : History) (r : Session) : Prop
  | provisioning (status : r.status ∈ [provisioning, bootstrapping]) (due : Reaper.provisioningDue config now r)
  | deadline (status : r.status ∈ activeStates) (due : Reaper.deadlineDue now r)
  | silent (status : r.status ∈ activeStates) {x : Input} {authority : NodeAuthority}
      (read : ⟨.readAuthority, x, .ok authority⟩ ∈ h) (due : Reaper.heartbeatDue config now authority r)
  | noIngest (status : r.status = readyWaitIngest) (due : Reaper.noIngestDue config now r)
  | hold (status : r.status = holding) {deadline : Timestamp} (held : r.holdDeadlineAt = some deadline) (due : deadline < now)

/-- By what the sweep has read, a Session whose record is as `P` says is overdue. -/
def Justified (config : Reaper.ReaperConfig) (h : History) (sid : String) (P : Session → Prop) : Prop :=
  ∃ now, Told now h ∧ ∀ r : Session, P r → r.sessionId = sid →
    (∀ states session, Fetched states session h → session.sessionId = sid →
      session.status ∈ states ∧ r.createdAt = session.createdAt) →
    Overdue config now h r

/-- A call that changes no status. -/
def Op.still : Op → Bool
  | .store (.get _) | .store .authoritativeSnapshot | .store (.sessionsInStates _) | .store (.update _ _)
  | .store (.updateIfCurrent _ _ _ _ _) | .store (.appendEvent _ _ _ _ _ _) | .store (.claimOrphanCleanup _ _ _)
  | .store (.orphanCleanupStillOwned _ _) | .store (.releaseOrphanCleanup _ _) | .store (.claimSessionCleanup _)
  | .store (.sessionCleanupStillOwned _ _) | .store (.releaseSessionCleanup _ _) => true
  | .store _ => false
  | _ => true

/-- A call that changes no status but that of a Session in cleanup. -/
def Op.gentle : Op → Bool
  | .store (.transition _ _ allowed _) => allowed.all (· ∈ [stopping, failedCleanup])
  | o => o.still

/-- The calls that a sweep may make. -/
def SweepPermits (config : Reaper.ReaperConfig) (h : History) : Op → Prop
  | .store (.requestStop sid) => ∃ session, Fetched [stopping] session h ∧ session.sessionId = sid
  | .store (.requestStopIfCurrent sid expected fields) =>
    Justified config h sid fun r => r.status = expected ∧ r.matchesFields fields
  | .store (.transitionIfCurrent sid _ allowed fields _) =>
    Justified config h sid fun r => r.status ∈ allowed ∧ r.matchesFields fields
  | o => o.gentle

/-! ### Gentle programs -/

section
variable {α : Type} {leaseId : Uuid} {code : String} {now : Timestamp}

theorem SweepPermits.of_gentle {config : Reaper.ReaperConfig} (ho : o.gentle = true) : SweepPermits config h o := by
  cases o with
  | store so =>
    cases so with
    | requestStop sid => cases ho
    | requestStopIfCurrent sid expected fields => cases ho
    | transitionIfCurrent sid new allowed fields changes => cases ho
    | _ => exact ho
  | _ => exact ho

/-- A program of gentle calls only. -/
def Gentle (p : Control α) : Prop := p.Only fun o => o.gentle

theorem deleteEach_gentle {stillOwned : Control Bool} {delete : String → Control Unit} (hs : Gentle stillOwned)
    (hd : ∀ id, Gentle (delete id)) (resources : List ManagedResource) (ok : Bool) :
    Gentle (deleteEach stillOwned delete resources ok) := by
  induction resources generalizing ok with
  | nil => exact .done _
  | cons resource resources ih =>
    unfold deleteEach
    refine .bind hs fun owned => ?_
    split
    · exact .done _
    · refine .bind (hd _).attempt fun r => ?_
      split
      · exact ih ok
      · exact ih false

namespace Reaper

theorem cleanupResources_gentle : Gentle (cleanupResources sid leaseId) := by
  have hinventory : Gentle (do return (← Call.listManagedResources).filter (·.sessionId = some sid)) :=
    .bind (.op rfl) fun _ => .done _
  have howned : Gentle (Call.store (.sessionCleanupStillOwned sid leaseId)) := .op rfl
  have hserver : ∀ id, Gentle (Call.call (.deleteServer id)) := fun _ => .op rfl
  have hvolume : ∀ id, Gentle (Call.call (.deleteVolume id)) := fun _ => .op rfl
  unfold cleanupResources deleteInOrder
  refine .bind hinventory fun resources => .bind (deleteEach_gentle howned hserver _ _) fun r => ?_
  split
  · refine .bind hinventory fun remaining => ?_
    split
    · exact .done _
    · exact .bind (deleteEach_gentle howned hvolume _ _) fun _ => .done _
  · exact .done _

theorem finishFailed_gentle (reason : Json) : Gentle (finishFailed sid code reason now) := .bind (.op rfl) fun _ => .op rfl

theorem cleanupStopped_gentle : Gentle (cleanupStopped sid code now) := by
  refine .bind (.op rfl) fun r => ?_
  split
  · exact .done _
  · refine .bind (.tryFinally (.bind cleanupResources_gentle fun cleaned => ?_) (.op rfl)) fun _ => .done _
    split
    · exact .bind (.op rfl) fun _ => .done _
    · exact .bind (.op rfl) fun _ => .op rfl

theorem afterStopRequest_gentle (config : ReaperConfig) (fromState : Option Status) (session : Session) :
    Gentle (afterStopRequest config sid code fromState session now) := by
  unfold afterStopRequest
  split
  · exact .done _
  · refine .bind (.attempt (.op rfl)) fun r => ?_
    split
    · exact .done _
    · refine .bind ?_ fun _ => ?_
      · split
        · exact .op rfl
        · exact .done _
      · split
        · split
          · exact .done _
          · exact .bind (.op rfl) fun _ => cleanupStopped_gentle
        · exact cleanupStopped_gentle

theorem retryCleanup_gentle (session : Session) : Gentle (retryCleanup session now) := by
  refine .bind (.attempt (.op rfl)) fun r => ?_
  split
  · exact .done _
  · refine .bind (.op rfl) fun lease => ?_
    split
    · exact .done _
    · refine .tryFinally (.bind cleanupResources_gentle fun cleaned => ?_) (.op rfl)
      split
      · exact finishFailed_gentle _
      · exact .done _

theorem cleanupOrphans_gentle (config : ReaperConfig) : Gentle (cleanupOrphans config now) := by
  refine .bind (.attempt (.op rfl)) fun r => ?_
  split
  · split <;> exact .done _
  · refine .bind (.op rfl) fun resources => .forFold fun cleaned resource _ => .bind ?_ fun b => ?_
    · refine .bind (.attempt (.op rfl)) fun r => ?_
      split
      · split <;> exact .done _
      · exact .done _
      · refine .bind (.tryExcept (.bind (.op rfl) fun latest => ?_) fun _ => .done _) fun deleted =>
          .bind (.tryExcept (.op rfl) fun exc => ?_) fun _ => .done _
        · dsimp only
          split
          · exact .done _
          · refine .bind (.op rfl) fun owned => ?_
            split
            · exact .done _
            · split
              · exact .done _
              · split
                · exact .bind (.op rfl) fun _ => .done _
                · exact .bind (.op rfl) fun _ => .done _
        · split <;> exact .done _
    · split <;> exact .done _

end Reaper
end

/-! ### The parts of a sweep -/

namespace Reaper
variable {config : ReaperConfig} {known : History} {sid code : String} {now : Timestamp} {result : SweepResult}

/-- In the course of a sweep that knows the events of `known`. -/
abbrev Sweeps {α : Type} (config : ReaperConfig) (known : History) (p : Control α) : Prop :=
  p.Observes (SweepPermits config) known

theorem sweeps_of_gentle {α : Type} {p : Control α} (hp : Gentle p) : Sweeps config known p :=
  .of_only hp fun _ ho _ _ => .of_gentle ho

theorem failAndCleanup_sweeps {reason : String} {expected : Status} {fields : List Expected}
    (hj : ∀ h, known ⊆ h → Justified config h sid fun r => r.status ∈ [expected] ∧ r.matchesFields fields) :
    Sweeps config known (failAndCleanup sid reason code expected fields now) := by
  refine .op_attempt hj fun x r => sweeps_of_gentle ?_
  split
  · exact .done _
  · exact .done _
  · refine .bind (.attempt (.op rfl)) fun r => ?_
    split
    · exact .done _
    · refine .bind (.op rfl) fun lease => ?_
      split
      · exact .done _
      · refine .bind (.tryFinally (.bind cleanupResources_gentle fun cleaned => ?_) (.op rfl)) fun _ => .done _
        split
        · exact finishFailed_gentle _
        · exact .done _

theorem stopAndCleanupIfCurrent_sweeps {expected : Status} {fields : List Expected}
    (hj : ∀ h, known ⊆ h → Justified config h sid fun r => r.status = expected ∧ r.matchesFields fields) :
    Sweeps config known (stopAndCleanupIfCurrent config sid code expected fields now) := by
  refine .op_attempt hj fun x r => sweeps_of_gentle ?_
  split
  · exact .done _
  · exact .done _
  · exact afterStopRequest_gentle config _ _

theorem stopAndCleanup_sweeps {session : Session} (hl : ∀ h, known ⊆ h → Fetched [stopping] session h) :
    Sweeps config known (stopAndCleanup config session.sessionId code now) := by
  refine .op_bind (fun _ _ => rfl) fun x before =>
    .op_attempt (fun h hknown => ⟨session, hl h fun e he => hknown (List.mem_cons_of_mem _ he), rfl⟩) fun x r => sweeps_of_gentle ?_
  split
  · exact .done _
  · exact afterStopRequest_gentle config _ _

/-- A part of a sweep goes through the records that it was given. -/
theorem sweep_sweeps {states : List Status} {body : SweepResult → Session → Control SweepResult}
    (hbody : ∀ known', known ⊆ known' → ∀ result session, Fetched states session known' → Sweeps config known' (body result session)) :
    Sweeps config known (do sweep (← Call.store (.sessionsInStates states)) result body) := by
  refine .op_bind (fun _ _ => rfl) fun x records => .forFold fun result session hsession => ?_
  exact hbody _ (List.subset_cons_self _ _) _ _ ⟨x, records, List.mem_cons_self, hsession⟩

/-- A record that agrees with the given one in what the timeout reads is overdue with it. -/
theorem justified_of_eq {states : List Status} {session : Session} {h : History} {P : Session → Prop} (ht : Told now h)
    (hl : Fetched states session h)
    (hdue : ∀ r : Session, P r → r.sessionId = session.sessionId → r.createdAt = session.createdAt → session.status ∈ states →
      Overdue config now h r) : Justified config h session.sessionId P :=
  ⟨now, ht, fun r hP hid hcreated => hdue r hP hid (hcreated states session hl rfl).2 (hcreated states session hl rfl).1⟩

theorem sweepProvisioning_sweeps (ht : Told now known) : Sweeps config known (sweepProvisioning config now result) := by
  refine sweep_sweeps fun known' hsub result session hl => ?_
  dsimp only
  split
  · rename_i hdue
    refine .bind (failAndCleanup_sweeps fun h hknown => ?_) fun b => ?_
    · refine justified_of_eq ((ht.mono hsub).mono hknown) (hl.mono hknown) fun r hP _ hcreated hstatus => ?_
      obtain ⟨hst, hm⟩ := hP
      obtain ⟨hstarted, _⟩ : r.provisioningStartedAt = session.provisioningStartedAt ∧
          r.provisioningOperationId = session.provisioningOperationId := by
        simpa [Session.matchesFields, Expected.holds] using hm
      refine .provisioning (List.mem_singleton.mp hst ▸ hstatus) ?_
      rw [provisioningDue, hstarted, hcreated]
      exact decide_eq_true hdue
    · cases b <;> exact .done _
  · exact .done _

theorem sweepDeadlines_sweeps (ht : Told now known) : Sweeps config known (sweepDeadlines config now result) := by
  refine sweep_sweeps fun known' hsub result session hl => ?_
  split
  · exact .done _
  · rename_i deadline hdeadline
    dsimp only
    split
    · rename_i hdue
      refine .bind (stopAndCleanupIfCurrent_sweeps fun h hknown => ?_) fun b => ?_
      · refine justified_of_eq ((ht.mono hsub).mono hknown) (hl.mono hknown) fun r hP _ _ hstatus => ?_
        obtain ⟨hst, hm⟩ := hP
        have hat : r.absoluteDeadlineAt = some deadline := by simpa [Session.matchesFields, Expected.holds] using hm
        refine .deadline (hst ▸ hstatus) ?_
        rw [deadlineDue, hat]
        exact decide_eq_true hdue
      · cases b <;> exact .done _
    · exact .done _

theorem sweepHeartbeats_sweeps (ht : Told now known) : Sweeps config known (sweepHeartbeats config now result) := by
  refine .op_attempt (fun _ _ => rfl) fun x r => ?_
  cases r with
  | error e => exact .done _
  | ok authority =>
    refine sweep_sweeps fun known' hsub result session hl => ?_
    have hread : ⟨.readAuthority, x, .ok authority⟩ ∈ known' := hsub List.mem_cons_self
    split
    · exact .done _
    · rename_i baseline last hbaseline
      split
      · exact .done _
      · rename_i hdue
        refine .bind (.op_attempt (fun h hknown => ?_) fun x' r => sweeps_of_gentle ?_) fun b => ?_
        · refine justified_of_eq ((ht.mono fun _ he => hsub (List.mem_cons_of_mem _ he)).mono hknown) (hl.mono hknown)
            fun r hP hid _ _ => ?_
          obtain ⟨hst, hm⟩ := hP
          obtain ⟨hnode, _, hregistered, hlast⟩ : r.nodeId = session.nodeId ∧ r.nodeBootId = session.nodeBootId ∧
              r.nodeRegisteredAt = session.nodeRegisteredAt ∧ r.nodeLastHeartbeatAt = session.nodeLastHeartbeatAt := by
            simpa [Session.matchesFields, Expected.holds] using hm
          have hsame : heartbeatBaseline r authority = heartbeatBaseline session authority := by
            unfold heartbeatBaseline
            rw [hnode, hregistered, hlast, hid]
          refine .silent hst (hknown hread) ?_
          rw [heartbeatDue, hsame, hbaseline]
          simpa using hdue
        · split
          · exact .done _
          · exact .done _
          · refine .bind (.op rfl) fun _ => .bind (.attempt (.op rfl)) fun r => ?_
            split <;> exact .done _
        · cases b <;> exact .done _

theorem sweepNoIngest_sweeps (ht : Told now known) : Sweeps config known (sweepNoIngest config now result) := by
  refine sweep_sweeps fun known' hsub result session hl => ?_
  dsimp only
  split
  · rename_i hdue
    refine .bind (stopAndCleanupIfCurrent_sweeps fun h hknown => ?_) fun b => ?_
    · refine justified_of_eq ((ht.mono hsub).mono hknown) (hl.mono hknown) fun r hP _ _ _ => ?_
      obtain ⟨hst, hm⟩ := hP
      have hready : r.readyAt = session.readyAt := by simpa [Session.matchesFields, Expected.holds] using hm
      refine .noIngest hst ?_
      rw [noIngestDue, hready]
      exact decide_eq_true hdue
    · cases b <;> exact .done _
  · exact .done _

theorem stopHolding_sweeps {session : Session} {deadline : Timestamp} (ht : Told now known) :
    Sweeps config known (stopHolding config now result session deadline) := by
  unfold stopHolding
  split
  · rename_i hdue
    refine .bind (stopAndCleanupIfCurrent_sweeps fun h hknown => ⟨now, ht.mono hknown, fun r hP _ _ => ?_⟩) fun b => ?_
    · obtain ⟨hst, hm⟩ := hP
      obtain ⟨hat, _⟩ : r.holdDeadlineAt = some deadline ∧ r.lastIngestAt = session.lastIngestAt := by
        simpa [Session.matchesFields, Expected.holds] using hm
      exact .hold hst hat hdue
    · cases b <;> exact .done _
  · exact .done _

theorem sweepHolding_sweeps (ht : Told now known) : Sweeps config known (sweepHolding config now result) := by
  refine sweep_sweeps fun known' hsub result session _ => ?_
  split
  · exact stopHolding_sweeps (ht.mono hsub)
  · refine .bind (sweeps_of_gentle (.bind (.op rfl) fun _ => .done _)) fun recovered => ?_
    split
    · exact .done _
    · exact stopHolding_sweeps (ht.mono hsub)

theorem sweepStopping_sweeps : Sweeps config known (sweepStopping config now result) :=
  sweep_sweeps fun _ _ _ _ hl => .bind (stopAndCleanup_sweeps fun _ hknown => hl.mono hknown) fun _ => .done _

theorem sweepFailedCleanup_sweeps : Sweeps config known (sweepFailedCleanup now result) :=
  sweep_sweeps fun _ _ _ session _ => .bind (sweeps_of_gentle (retryCleanup_gentle session)) fun _ => .done _

theorem now_sweeps {α : Type} {next : Timestamp → Control α} (hnext : ∀ now known', Told now known' → Sweeps config known' (next now)) :
    Sweeps config known (Reaper.now.bind next) := by
  unfold Reaper.now
  rw [Prog.bind_def, Prog.bind_assoc]
  refine .op_bind (fun _ _ => rfl) fun x reading => ?_
  cases hread : requireTimestamp reading (.valueError "reaper clock must be a finite non-negative number") with
  | ok now => exact hnext now _ ⟨x, by rw [← requireTimestamp_eq_ok.mp hread]; exact List.mem_cons_self⟩
  | error e => exact .done _

theorem run_sweeps : Sweeps config known (run config) :=
  now_sweeps fun _ _ ht => (sweepProvisioning_sweeps ht).bind fun _ => (sweepDeadlines_sweeps ht).bind fun _ =>
    (sweepHeartbeats_sweeps ht).bind fun _ => (sweepNoIngest_sweeps ht).bind fun _ => (sweepHolding_sweeps ht).bind fun _ =>
    sweepStopping_sweeps.bind fun _ => sweepFailedCleanup_sweeps.bind fun _ =>
    (sweeps_of_gentle (cleanupOrphans_gentle config)).bind fun _ => .done _

end Reaper

/-! ### Whole runs -/

/-- What the calls of a task must meet. -/
def Request.SweepPermits (config : Reaper.ReaperConfig) : Request → History → Op → Prop
  | .sweep => IRLight.SweepPermits config
  | _ => fun _ _ => True

theorem Request.sweep_abides (config : Config) (q : Request) :
    (q.program config).Abides (q.SweepPermits config.reaper) (fun _ _ => True) [] := by
  cases q with
  | sweep => exact Reaper.run_sweeps.bind (fun _ => .done _) [] (List.Subset.refl [])
  | _ =>
    exact Prog.Abides.of_only (F := fun _ => True) (Prog.Only.any _) trivial fun _ _ _ _ => ⟨trivial, fun _ _ => trivial⟩

/-- A permitted call of a sweep that changes the status of a Session. -/
theorem StoreOp.Rewrites.moved {so : StoreOp} {config : Reaper.ReaperConfig} (hrewrites : so.Rewrites stable sid r r')
    (hp : SweepPermits config h (.store so)) (hid : r.sessionId = sid) (hfinal : 5 ≤ r.status.phase → r'.status = r.status)
    (hremembers : ∀ states session, Fetched states session h → session.sessionId = sid →
      session.status ∈ states ∧ session.Later r ∧ r.createdAt = session.createdAt) (hmoved : r'.status ≠ r.status) :
    r.status ∈ [stopping, failedCleanup] ∨ ∃ now, Told now h ∧ Overdue config now h r := by
  have hjustified : ∀ {P : Session → Prop}, Justified config h sid P → P r → ∃ now, Told now h ∧ Overdue config now h r := by
    rintro P ⟨now, ht, hdue⟩ hP
    refine ⟨now, ht, hdue r hP hid fun states session hl hsid => ?_⟩
    obtain ⟨hstatus, _, hcreated⟩ := hremembers states session hl hsid
    exact ⟨hstatus, hcreated⟩
  cases hrewrites with
  | stop =>
    obtain ⟨session, hl, hsid⟩ := hp
    obtain ⟨hstatus, hlater, _⟩ := hremembers _ session hl hsid
    have hphase : 4 ≤ r.status.phase := by
      have := hlater.phase
      rwa [List.mem_singleton.mp hstatus] at this
    left
    cases hst : r.status with
    | stopping => simp
    | failedCleanup => simp
    | finished => exact absurd (hfinal (by rw [hst]; decide)) hmoved
    | failed => exact absurd (hfinal (by rw [hst]; decide)) hmoved
    | _ => simp [hst, Status.phase] at hphase
  | stopIfCurrent hst hm => exact .inr (hjustified hp ⟨hst, hm⟩)
  | transition hst hu => exact .inl (by simpa using List.all_eq_true.mp hp _ hst)
  | transitionIfCurrent hst hm hu => exact .inr (hjustified hp ⟨hst, hm⟩)
  | update hu => exact absurd (updateOf_status hu r) hmoved
  | @updateIfCurrent _ _ event _ _ _ _ hst hm hu =>
    refine absurd (Eq.trans ?_ (updateOf_status hu r)) hmoved
    cases event <;> rfl
  | append => exact absurd rfl hmoved
  | _ => cases hp

/-- A call of a sweep that changes the status of a Session. -/
theorem World.Sound.moved {config : Reaper.ReaperConfig} {apiOnly : Prop} (hw : w.Sound) (hp : Permits apiOnly i h o w)
    (hsweep : SweepPermits config h o)
    (hremembers : ∀ states session, Fetched states session h → session.status ∈ states ∧ w.Remembers session)
    (hold : w.store.session? sid = some r) (hnew : (World.exec i o x w).2.store.session? sid = some r')
    (hmoved : r'.status ≠ r.status) :
    r.status ∈ [stopping, failedCleanup] ∨ ∃ now, Told now h ∧ Overdue config now h r := by
  have hsame : w.store.session? sid ≠ some r' := by
    intro hsame
    rw [Option.some.inj (hsame.symm.trans hold)] at hmoved
    exact absurd rfl hmoved
  obtain ⟨r'', hr'', hlater⟩ := (hw.exec (x := x) hp).2.1 sid r hold
  obtain rfl := Option.some.inj (hnew.symm.trans hr'')
  by_cases hstore : ∃ so, o = .store so
  · obtain ⟨so, rfl⟩ := hstore
    rcases World.exec_store_cases i so x w with ⟨a, s', _, hrun, hexec⟩ | ⟨e, hexec, _⟩
    · rw [hexec] at hnew
      rcases (StoreOp.writes _ _ hrun).record hnew with hkept | ⟨hnone, _⟩ | ⟨r₀, hr₀, hrewrites⟩
      · exact absurd hkept hsame
      · rw [hold] at hnone
        cases hnone
      · obtain rfl := Option.some.inj (hr₀.symm.trans hold)
        refine hrewrites.moved hsweep (hw.record sid r₀ hold).2 hlater.final (fun states session hl hsid => ?_) hmoved
        obtain ⟨hstatus, r₁, hr₁, hlater₁, hcreated⟩ := hremembers states session hl
        rw [hsid] at hr₁
        obtain rfl := Option.some.inj (hr₁.symm.trans hold)
        exact ⟨hstatus, hlater₁, hcreated⟩
    · rw [hexec] at hnew
      exact absurd hnew hsame
  · rw [World.exec_other fun so hso => hstore ⟨so, hso⟩] at hnew
    exact absurd hnew hsame

/-- **A sweep decides on current data.** When a step of a sweep changes the status of a Session, the Session was stopping or in
cleanup already, or it is overdue at this very step: by the sweep's clock and its record as it is in the store then. That holds in
every run, whatever the other tasks have done since the sweep was given the record. -/
theorem sweep_decides_on_current_data (hr : Plane.Reaches config stable cond c) {p : Control Response}
    (ht : c.tasks[i]? = some ⟨.sweep, p, h⟩) (hold : c.state.store.session? sid = some r)
    (hnew : (c.act World.exec (Request.program config) (.step i x)).state.store.session? sid = some r')
    (hmoved : r'.status ≠ r.status) :
    r.status ∈ [stopping, failedCleanup] ∨ ∃ now, Told now h ∧ Overdue config.reaper now h r := by
  have hs : Pool.Sound (discipline False) (fun _ _ _ _ => True) c := Plane.sound False hr fun _ _ _ h => h.elim
  rcases Pool.act_cases World.exec (Request.program config) c (.step i x) with
    ⟨q, hstart, _⟩ | ⟨j, x', q, o, next, h', hstep, htask, he⟩ | he
  · cases hstart
  · obtain ⟨rfl, rfl⟩ := Action.step.inj hstep
    obtain ⟨rfl, rfl, rfl⟩ := Task.mk.inj (Option.some.inj (htask.symm.trans ht))
    rw [he] at hnew
    have hmem := List.mem_of_getElem? htask
    have hpermitted : SweepPermits config.reaper h' o :=
      (Prog.Abides.call_iff.mp (hr.abides (Request.sweep_abides config) hmem)).1
    exact hs.inv.moved (hs.permitted ⟨_, next, htask, rfl, rfl⟩) hpermitted (Plane.remembers hr _ hmem) hold hnew hmoved
  · rw [he] at hnew
    rw [Option.some.inj (hnew.symm.trans hold)] at hmoved
    exact absurd rfl hmoved

end

/-- The provisioning of a Session hangs, and a sweep has just been given the Session. -/
def Sample.hangs : List (Action Request Input) :=
  .start (.prepare (Sample.call .dev)) :: quietSteps 0 8 1 ++ .start .sweep :: quietSteps 1 2 1000

theorem sweep_decides_on_current_data_sample :
    let c := Plane.after Sample.config 5 Sample.hangs
    ∃ r h, c.state.store.session? Sample.sid = some r ∧
      (r.status ∈ [stopping, failedCleanup] ∨ ∃ now, Told now h ∧ Overdue Sample.config.reaper now h r) := by
  intro c
  have hreach : Plane.Reaches Sample.config 5 (fun _ _ => True) c := Plane.after_reaches _ _ _
  have hnext : c.nextSatisfies 1 fun q _ _ => q matches .sweep := by decide +kernel
  have hmoves : (c.state.store.session? Sample.sid).any fun r =>
      ((c.act World.exec (Request.program Sample.config) (.step 1 (.quiet 1000))).state.store.session? Sample.sid).any
        (·.status ≠ r.status) := by decide +kernel
  obtain ⟨q, o, next, h, ht, hq⟩ := Pool.exists_of_nextSatisfies hnext
  obtain ⟨r, hold, hmoves⟩ := (Option.any_eq_true _ _).mp hmoves
  obtain ⟨r', hnew, hmoved⟩ := (Option.any_eq_true _ _).mp hmoves
  cases q with
  | sweep => exact ⟨r, h, hold, sweep_decides_on_current_data hreach ht hold hnew (by simpa using hmoved)⟩
  | _ => cases hq

end IRLight
