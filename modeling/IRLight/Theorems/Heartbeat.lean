import IRLight.ControlPlane.Failures
import IRLight.Interleaving.Solo

/-! # A healthy Node's heartbeat

The handler reads the registry, the clock and the Session, and refuses a heartbeat only at these. A Node
that the registry knows and whose active Session is bound to it passes all of them but one: a clock that
shows less than at its last heartbeat. -/

namespace IRLight
open Interleaving Status

/-- The exception is an answer with a status from 400 to 499. -/
def Exc.isRefusal : Exc → Bool
  | httpException status _ => 400 ≤ status && status < 500
  | _ => false

/-- The Node's own heartbeats are for an active Session that is bound to it. -/
structure Healthy (w : World) (nodeId : String) (authorization : NodeApi.Authorization) (node : Node) (r : Session) :
    Prop where
  known : w.authority.nodes.lookup nodeId = some node
  own : NodeApi.requireNodeAccess node authorization = .ok ()
  session : w.store.session? node.sessionId = some r
  active : r.status ∈ activeStates
  bound : r.nodeId = some nodeId
  boot : r.nodeBootId = some node.bootId

section
variable {α : Type} {φ : Exc → Prop}

theorem throws_ofExcept {r : Except Exc α} (h : Raises φ r) : (ofExcept r : Control α).Throws φ := by
  rw [Prog.ofExcept_def]
  exact .done h

theorem throws_ite {c : Prop} [Decidable c] {p q : Control α} (hp : p.Throws φ) (hq : q.Throws φ) :
    (if c then p else q).Throws φ := by
  split
  · exact hp
  · exact hq

end

namespace NodeApi
variable {config : NodeConfig} {nodeId : String} {node : Node} {request : HeartbeatRequest} {observedAt : Timestamp}

theorem reporting_throws {p : Control Unit} (hp : p.Throws (·.isHttp = false)) :
    (reporting p).Throws (·.isHttp = false) := by
  unfold reporting
  exact .tryExcept (.bind hp fun _ => .pure _) fun exc hexc => throws_ite (.pure _) (.throw hexc)

theorem applyEgressToSession_throws {sid : String} {types : List String} {current : EgressObservation} :
    (applyEgressToSession sid nodeId types current observedAt).Throws (·.isHttp = false) := by
  unfold applyEgressToSession
  refine .bind (.op _) fun session => ?_
  split
  · refine .bind (throws_ofExcept (.raiseIf fun _ => rfl)) fun _ => ?_
    split
    · exact .pure _
    · exact .bind (.forFold fun _ _ => .op _) fun _ => .bind (.op _) fun _ => .pure _
  · exact .throw rfl

/-- An exception that ended the pipeline part, raised or handed on, is none of the API's. -/
def Quiet (r : Except Exc (Node × Option Exc)) : Prop :=
  ∀ e, r = .error e ∨ (∃ node, r = .ok (node, some e)) → e.isHttp = false

theorem quiet_none (node : Node) : Quiet (.ok (node, none)) := by
  rintro e (h | ⟨_, h⟩) <;> cases h

theorem quiet_some {node : Node} {exc : Exc} (h : exc.isHttp = false) : Quiet (.ok (node, some exc)) := by
  rintro e (he | ⟨_, he⟩) <;> cases he
  exact h

theorem latchPipelineFailure_ends {mediaHealth : String} {since current : Timestamp} :
    (latchPipelineFailure nodeId node mediaHealth since current).Ends (·.isHttp = false) Quiet := by
  unfold latchPipelineFailure
  refine .op_attempt fun r hr => ?_
  cases r with
  | error exc => exact .done (quiet_some (hr exc rfl))
  | ok session =>
    cases session with
    | none => exact .done (quiet_some rfl)
    | some session =>
      dsimp only
      split
      · exact .done (quiet_some rfl)
      · split
        · exact .done (quiet_none _)
        · refine .op_attempt fun r hr => ?_
          cases r with
          | error exc => exact .done (quiet_some (hr exc rfl))
          | ok _ =>
            refine .op_attempt fun r hr => ?_
            cases r with
            | error exc => exact .done (quiet_some (hr exc rfl))
            | ok _ => exact .done (quiet_none _)

theorem applyPipelineHealth_ends {status : NodeStatus} {mediaHealth : String} {current : Timestamp} :
    (applyPipelineHealth config nodeId node status mediaHealth current).Ends (·.isHttp = false) Quiet := by
  unfold applyPipelineHealth
  dsimp only
  split
  · exact .done (quiet_none _)
  · split
    · exact .done (quiet_none _)
    · split
      · exact .done (quiet_none _)
      · exact latchPipelineFailure_ends

theorem reportPipeline_throws : (reportPipeline config nodeId node request observedAt).Throws (·.isHttp = false) := by
  unfold reportPipeline
  refine Prog.Ends.bind applyPipelineHealth_ends (fun e he e' h => ?_) fun p hp => ?_
  · obtain rfl := Except.error.inj h
    exact he e (Or.inl rfl)
  · obtain ⟨node, exc⟩ := p
    cases exc with
    | none => exact Prog.Throws.pure _
    | some exc => exact throws_ite (.pure _) (.throw (hp exc (Or.inr ⟨node, rfl⟩)))

theorem reportIngest_throws {current : SessionStore.IngestObservation} :
    (reportIngest nodeId node current observedAt).Throws (·.isHttp = false) := by
  unfold reportIngest
  refine throws_ite (.pure _) (.bind ?_ fun _ => ?_)
  · exact reporting_throws (.bind (.op _) fun _ => .pure _)
  · exact .pure _

theorem reportEgress_throws {current : EgressObservation} :
    (reportEgress nodeId node current observedAt).Throws (·.isHttp = false) := by
  unfold reportEgress
  refine throws_ite (.pure _) (.bind ?_ fun _ => ?_)
  · exact reporting_throws applyEgressToSession_throws
  · exact .pure _

theorem reportRelayClient_throws {current : SessionStore.RelayClientObservation} :
    (reportRelayClient nodeId node current observedAt).Throws (·.isHttp = false) := by
  unfold reportRelayClient
  refine throws_ite (.pure _) (.bind ?_ fun _ => ?_)
  · exact reporting_throws (.bind (.op _) fun _ => .pure _)
  · exact .pure _

theorem report_throws : (report config nodeId node request observedAt).Throws (·.isHttp = false) := by
  unfold report
  refine .bind ?_ fun node => .bind ?_ fun node => .bind ?_ fun node => throws_ite reportPipeline_throws (.pure _)
  · split
    · exact reportIngest_throws
    · exact .pure _
  · split
    · exact reportEgress_throws
    · exact .pure _
  · split
    · exact reportRelayClient_throws
    · exact .pure _

end NodeApi

/-! ### The handler -/

theorem Exc.not_isRefusal {e : Exc} (h : e.isHttp = false) : ¬e.isRefusal := by
  cases e <;> simp_all [Exc.isHttp, Exc.isRefusal]

/-- The answer has a status from 400 to 499. -/
def Refused {α : Type} (r : Except Exc α) : Prop := ∃ e, r = .error e ∧ e.isRefusal

section
variable {config : NodeApi.NodeConfig} {nodeId : String} {node : Node} {request : NodeApi.HeartbeatRequest}
  {observedAt : Timestamp} {authorization : NodeApi.Authorization} {w : World} {r : Session} {i k : ℕ} {xs : ℕ → Input}

theorem not_refused_of_raises {α : Type} {r : Except Exc α} (h : Raises (·.isHttp = false) r) : ¬Refused r :=
  fun ⟨e, he, href⟩ => Exc.not_isRefusal (h e he) href

theorem not_refused_of_throws {α : Type} {p : Control α} (hp : p.Throws (·.isHttp = false)) :
    ¬Refused (p.eval World.exec i xs k w).result :=
  not_refused_of_raises (Prog.Ends.eval hp fun o x s => World.exec_raises i o x s)

theorem not_refused_error {α : Type} {e : Exc} (h : e.isHttp = false) : ¬Refused (.error e : Except Exc α) :=
  not_refused_of_raises (.error h)

/-- The Session refuses the heartbeat when it is older than the last one, and nothing after that refuses it. -/
theorem refused_recordHeartbeat_iff {α : Type} {f : Unit → Control α} (hf : ∀ u, (f u).Throws (·.isHttp = false))
    (hr : w.store.session? node.sessionId = some r)
    (hactive : r.status ∈ activeStates) (hbound : r.nodeId = some nodeId) (hboot : r.nodeBootId = some node.bootId) :
    Refused (((NodeApi.recordHeartbeat nodeId node request observedAt).bind f).eval World.exec i xs k w).result ↔
      node.sessionAssigned = true ∧ (xs k).fault = none ∧ ∃ last ∈ r.nodeLastHeartbeatAt, observedAt < last := by
  unfold NodeApi.recordHeartbeat
  by_cases hassigned : node.sessionAssigned = true
  swap
  · simp only [hassigned, Bool.false_eq_true, if_false, false_and, iff_false]
    exact not_refused_of_throws (hf ())
  simp only [hassigned, if_true, true_and, Prog.bind_def, Call.store, Call.call, Prog.ofExcept_def, Prog.bind_assoc]
  generalize (decide (request.status = .ready) && decide (request.mediaHealth = "running")) = ready
  rw [Prog.eval_op_bind]
  have hraises := World.exec_raises i (.store (.recordNodeHeartbeat node.sessionId nodeId node.bootId observedAt ready))
    (xs k) w
  rcases World.exec_store_cases i (.recordNodeHeartbeat node.sessionId nodeId node.bootId observedAt ready) (xs k) w with
    ⟨accepted, s', hx, hrun, he⟩ | ⟨e, he, hcause⟩
  · rw [he]
    rcases SessionStore.effect_recordNodeHeartbeat hrun with ⟨rfl, _, hlate⟩ | ⟨rfl, r₀, hr₀, _, _, _, hbefore, _⟩
    · refine iff_of_true ⟨_, rfl, rfl⟩ ⟨hx, hlate r hr hactive hbound hboot⟩
    · obtain rfl := Option.some.inj (hr.symm.trans hr₀)
      refine iff_of_false (not_refused_of_throws (hf ())) ?_
      rintro ⟨_, last, hlast, hlt⟩
      exact absurd (hbefore last hlast) (not_le.mpr hlt)
  · rw [he] at hraises ⊢
    refine iff_of_false (not_refused_error (hraises e rfl)) ?_
    rintro ⟨hx, last, hlast, hlt⟩
    rcases hcause with ⟨m, hm, _⟩ | hrun
    · rw [hx] at hm
      cases hm
    · rw [StoreOp.run, SessionStore.recordNodeHeartbeat, SessionStore.edit, hr] at hrun
      simp [hactive, hbound, hboot, Option.mem_def.mp hlast, hlt] at hrun
      cases hrun

/-- The Node was assigned to the Session, the clock shows less than at the last heartbeat that the Session recorded,
    and neither the registry nor the Session store fails. The handler's first call is call number `k`. -/
def SteppedBack (xs : ℕ → Input) (k : ℕ) (node : Node) (r : Session) : Prop :=
  node.sessionAssigned = true ∧ (xs k).fault = none ∧ (xs (k + 2)).fault = none ∧
    ∃ t : Timestamp, (xs (k + 1)).clock 0 = .finite t ∧ ∃ last ∈ r.nodeLastHeartbeatAt, t < last

/-- **A healthy Node's heartbeat** is answered with a 4xx exactly when the clock has stepped back behind the last
    heartbeat. -/
theorem heartbeat_accepted_iff (h : Healthy w nodeId authorization node r) :
    ¬Refused ((NodeApi.heartbeat config nodeId authorization request).eval World.exec i xs k w).result ↔
      ¬SteppedBack xs k node r := by
  rw [not_iff_not]
  unfold NodeApi.heartbeat
  simp only [Prog.bind_def, Call.call, Call.time]
  rw [Prog.eval_op_bind]
  cases hx : (xs k).fault with
  | some m =>
    have hread : (World.exec i .readAuthority (xs k) w).1 = .error (.nodeStateError m) := by
      simp [World.exec, World.transact, hx]
    rw [hread]
    exact iff_of_false (not_refused_error rfl) fun hs => by simp [hs.2.1] at hx
  | none =>
    have hread : World.exec i .readAuthority (xs k) w =
        (.ok (w.authority.withFuse w.fuse), { w with serial := w.serial + 1 }) := by
      simp [World.exec, World.transact, hx]
    simp only [Exec.state, hread, NodeAuthority.withFuse_nodes, h.known, h.own, Prog.ofExcept_def, Prog.done_bind_ok]
    rw [Prog.eval_op_bind]
    simp only [Exec.state, World.exec]
    have hraises : Raises (·.isHttp = false) (NodeApi.requireFinite ((xs (k + 1)).clock 0) "heartbeat clock") :=
      .requireTimestamp rfl
    cases ht : NodeApi.requireFinite ((xs (k + 1)).clock 0) "heartbeat clock" with
    | error e =>
      refine iff_of_false (not_refused_error (hraises e ht)) ?_
      rintro ⟨_, _, _, t, hclock, _⟩
      rw [NodeApi.requireFinite, requireTimestamp_eq_ok.mpr hclock] at ht
      cases ht
    | ok t =>
      have hclock := requireTimestamp_eq_ok.mp ht
      rw [Prog.done_bind_ok]
      refine (refused_recordHeartbeat_iff ?_ ?_ h.active h.bound ?_).trans ?_
      · exact fun _ => .bind NodeApi.report_throws fun _ => .bind (.op _) fun _ => .pure _
      · exact h.session
      · exact h.boot
      constructor
      · rintro ⟨ha, hx2, hlate⟩
        exact ⟨ha, hx, hx2, t, hclock, hlate⟩
      · rintro ⟨ha, _, hx2, t', hclock', hlate⟩
        obtain rfl : t = t' := NNRat.coe_injective (PyFloat.finite.inj (hclock.symm.trans hclock'))
        exact ⟨ha, hx2, hlate⟩

/-- The Node of a ready Session is healthy. -/
theorem Sample.healthy : ∃ node r, Healthy (Plane.after Sample.config 5 Sample.readyAfter).state "node-0001" (.bearer "t")
    node r ∧ r.nodeLastHeartbeatAt = some 3 := by
  have hnode : ((Plane.after Sample.config 5 Sample.readyAfter).state.authority.nodes.lookup "node-0001").any fun node =>
      node.accessTokenSha256 = "t" && node.sessionId = Sample.sid && node.bootId = "boot" := by
    decide +kernel
  have hsession : ((Plane.after Sample.config 5 Sample.readyAfter).state.store.session? Sample.sid).any fun r =>
      r.status = readyWaitIngest && r.nodeId = some "node-0001" && r.nodeBootId = some "boot" &&
        r.nodeLastHeartbeatAt = some 3 := by
    decide +kernel
  obtain ⟨node, hknown, hnode⟩ := (Option.any_eq_true _ _).mp hnode
  obtain ⟨r, hr, hsession⟩ := (Option.any_eq_true _ _).mp hsession
  simp only [Bool.and_eq_true, decide_eq_true_eq] at hnode hsession
  obtain ⟨⟨htoken, hsid⟩, hboot⟩ := hnode
  obtain ⟨⟨⟨hst, hbound⟩, hbootId⟩, hlast⟩ := hsession
  refine ⟨node, r, ⟨hknown, ?_, hsid ▸ hr, by simp [hst, activeStates], hbound, hboot ▸ hbootId⟩, hlast⟩
  simp [NodeApi.requireNodeAccess, NodeApi.Authorization.digest, htoken, raiseIf]
  rfl

theorem heartbeat_accepted_iff_sample :
    ¬Refused ((NodeApi.heartbeat Sample.config.node "node-0001" (.bearer "t")
      { status := .ready, mediaHealth := "running", ingest := none, egress := none, relayClient := none }).eval World.exec 3
        (fun _ => .quiet 4) 0 (Plane.after Sample.config 5 Sample.readyAfter).state).result := by
  obtain ⟨node, r, h, hlast⟩ := Sample.healthy
  refine (heartbeat_accepted_iff h).mpr fun ⟨_, _, _, t, ht, last, hlast', hlt⟩ => ?_
  obtain rfl := Option.some.inj (hlast.symm.trans hlast')
  obtain rfl : (4 : Timestamp) = t := NNRat.coe_injective (PyFloat.finite.inj ht)
  exact absurd hlt (by decide)

/-- The clock steps back by a second between two heartbeats of a healthy Node, and the second one is refused. -/
theorem clock_step_stops_broadcast :
    (∃ node r, Healthy (Plane.after Sample.config 5 Sample.readyAfter).state "node-0001" (.bearer "t") node r) ∧
    ∃ t ∈ (Plane.after Sample.config 5 (Sample.readyAfter ++ .start Sample.ready :: quietSteps 3 3 2)).tasks,
      t.request matches .heartbeat "node-0001" (.bearer "t") _ ∧
        t.program matches .done (.error (.httpException 409 _)) := by
  obtain ⟨node, r, h, _⟩ := Sample.healthy
  exact ⟨⟨node, r, h⟩, by decide +kernel⟩

end
end IRLight
