import IRLight.ControlPlane.Conduct
import IRLight.Interleaving.Amid
import Mathlib.Tactic.Linarith

/-! # The failure latch of a pipeline

The unhealthy timer is the time of a report, and no later one that could set it was earlier, or said that the pipeline
runs. -/

namespace IRLight
open Interleaving Status

namespace NodeApi

/-- What a heartbeat says about the pipeline. -/
structure HealthReport where
  status : NodeStatus
  mediaHealth : String
  time : Timestamp

namespace HealthReport
variable (p : HealthReport)

def Running : Prop := normalizedHealth p.mediaHealth = "running"
def Fatal : Prop := normalizedHealth p.mediaHealth ∈ ["stopped", "failed", "crashed"]
def Failed : Prop := p.status = .failed ∧ ¬p.Running

/-- The report may start the timer. -/
def Stops : Prop := p.Failed ∨ p.Fatal

instance : Decidable p.Running := inferInstanceAs (Decidable (_ = _))
instance : Decidable p.Fatal := inferInstanceAs (Decidable (_ ∈ _))
instance : Decidable p.Failed := inferInstanceAs (Decidable (_ ∧ _))
instance : Decidable p.Stops := inferInstanceAs (Decidable (_ ∨ _))

/-- What the heartbeat makes of it. -/
def apply (config : NodeConfig) (nodeId : String) (node : Node) : Control (Node × Option Exc) :=
  applyPipelineHealth config nodeId node p.status p.mediaHealth p.time

theorem Fatal.not_running {p : HealthReport} (h : p.Fatal) : ¬p.Running := by
  intro hrunning
  unfold Fatal at h
  rw [hrunning] at h
  exact absurd h (by decide)

theorem Stops.not_running {p : HealthReport} (h : p.Stops) : ¬p.Running := h.elim And.right Fatal.not_running

end HealthReport

abbrev StoreCalls := List (Made Op Input World)

/-- The call moves the Session to cleaning up after a failure. -/
def Latches (i : ℕ) (sid : String) (c : Made Op Input World) : Prop :=
  (∃ changes, c.op = .store (.transition sid failedCleanup activeStates changes)) ∧ (c.result World.exec i).isOk

/-- The failure is latched by one of the calls. -/
def Latched (i : ℕ) (sid : String) (calls : StoreCalls) : Prop := ∃ c ∈ calls, Latches i sid c

/-- A Session that is not active stays as it is, unless the calls have latched the failure themselves. -/
def Spares (i : ℕ) (sid : String) (calls : StoreCalls) : Prop :=
  ∀ before c after, calls = before ++ c :: after →
    ∀ r, c.state.store.session? sid = some r → r.status ∉ activeStates →
      (c.after World.exec i).store.session? sid = some r ∨ Latched i sid before

/-- The reports of a Node so far, among other requests that change its record, but not its timer. -/
inductive Recorded (config : NodeConfig) (nodeId : String) : List HealthReport → Node → Prop
  | start {node : Node} (h : node.mediaUnhealthySince = none) : Recorded config nodeId [] node
  | other {reports : List HealthReport} {node node' : Node} (_ : Recorded config nodeId reports node)
      (h : node'.mediaUnhealthySince = node.mediaUnhealthySince) : Recorded config nodeId reports node'
  | report {reports : List HealthReport} {node node' : Node} {p : HealthReport} {i : ℕ} {calls : StoreCalls}
      {exc : Option Exc} (_ : Recorded config nodeId reports node)
      (h : (p.apply config nodeId node).Amid World.exec i calls (.ok (node', exc))) :
      Recorded config nodeId (reports ++ [p]) node'

/-- The timer is the time of a report, since which none was running, and none that could set the timer was earlier. -/
def Timed (reports : List HealthReport) (since : Timestamp) : Prop :=
  ∃ before s rest, reports = before ++ s :: rest ∧ s.Stops ∧ s.time = since ∧
    ∀ q ∈ rest, ¬q.Running ∧ (q.Stops → since ≤ q.time)

section
variable {config : NodeConfig} {nodeId : String} {node node' : Node} {reports : List HealthReport}
  {p : HealthReport} {i : ℕ} {calls : StoreCalls} {exc : Option Exc} {sid mediaHealth : String} {since now : Timestamp}

/-! ### The calls -/

theorem spares_nil : Spares i sid [] := by
  intro before c after h
  exact absurd h.symm (List.append_ne_nil_of_right_ne_nil before (List.cons_ne_nil c after))

theorem not_latched_nil : ¬Latched i sid [] := by
  rintro ⟨c, hc, -⟩
  cases hc

theorem Latched.cons {c : Made Op Input World} (h : Latched i sid calls) : Latched i sid (c :: calls) := by
  obtain ⟨c', hc', hlatches⟩ := h
  exact ⟨c', List.mem_cons_of_mem c hc', hlatches⟩

/-- The first call spares the Session, and the later ones do unless it latches. -/
theorem Spares.cons {c : Made Op Input World} (hc : ∀ r, c.state.store.session? sid = some r → r.status ∉ activeStates →
    (c.after World.exec i).store.session? sid = some r) (h : Latches i sid c ∨ Spares i sid calls) :
    Spares i sid (c :: calls) := by
  intro before c' after hsplit r hr hstatus
  cases before with
  | nil =>
    obtain ⟨rfl, -⟩ := List.cons.inj hsplit
    exact .inl (hc r hr hstatus)
  | cons b before =>
    obtain ⟨rfl, hrest⟩ := List.cons.inj hsplit
    rcases h with hlatches | hspares
    · exact .inr ⟨c, List.mem_cons_self, hlatches⟩
    · exact (hspares before c' after hrest r hr hstatus).imp_right Latched.cons

/-- Looking at a Session changes nothing. -/
theorem get_spares {x : Input} {w : World} {r : Session} (hr : w.store.session? sid = some r) :
    ((⟨.store (.get sid), x, w⟩ : Made Op Input World).after World.exec i).store.session? sid = some r := by
  unfold Made.after
  rcases World.exec_store_cases i (.get sid) x w with ⟨a, s', -, hrun, hexec⟩ | ⟨e, hexec, -⟩
  · rw [hexec]
    obtain ⟨-, rfl⟩ := Prod.mk.inj (Except.ok.inj hrun)
    exact hr
  · rw [hexec]
    exact hr

/-- A transition changes no Session that is not active. -/
theorem transition_spares {changes : List Change} {x : Input} {w : World} {r : Session}
    (hr : w.store.session? sid = some r) (hstatus : r.status ∉ activeStates) :
    ((⟨.store (.transition sid failedCleanup activeStates changes), x, w⟩ : Made Op Input World).after
      World.exec i).store.session? sid = some r := by
  unfold Made.after
  rcases World.exec_store_cases i (.transition sid failedCleanup activeStates changes) x w with
    ⟨a, s', -, hrun, -⟩ | ⟨e, hexec, -⟩
  · obtain ⟨r₀, -, -, hr₀, hallowed, -⟩ := SessionStore.effect_transition hrun
    obtain rfl := Option.some.inj (hr.symm.trans hr₀)
    exact absurd hallowed hstatus
  · rw [hexec]
    exact hr

/-- What latching does to the Node and the Session. -/
structure LatchEffect (i : ℕ) (node : Node) (calls : StoreCalls) (r : Except Exc (Node × Option Exc)) : Prop where
  spares : Spares i node.sessionId calls
  returns : ∃ node' exc, r = .ok (node', exc) ∧ node'.mediaUnhealthySince = node.mediaUnhealthySince ∧
    (Latched i node.sessionId calls → node'.desiredState = .stopped) ∧
    (¬Latched i node.sessionId calls → node'.desiredState = node.desiredState)

/-- Without a call. -/
theorem LatchEffect.idle {node' : Node} (htimer : node'.mediaUnhealthySince = node.mediaUnhealthySince)
    (hdesired : node'.desiredState = node.desiredState) : LatchEffect i node [] (.ok (node', exc)) where
  spares := spares_nil
  returns := ⟨node', exc, rfl, htimer, fun h => absurd h not_latched_nil, fun _ => hdesired⟩

/-- After a call that latches nothing and spares the Session. -/
theorem LatchEffect.cons {c : Made Op Input World} {r : Except Exc (Node × Option Exc)}
    (hc : ∀ r, c.state.store.session? node.sessionId = some r → r.status ∉ activeStates →
      (c.after World.exec i).store.session? node.sessionId = some r)
    (hlatches : ¬Latches i node.sessionId c) (h : LatchEffect i node calls r) : LatchEffect i node (c :: calls) r := by
  obtain ⟨hspares, node', exc, rfl, htimer, hstopped, hkept⟩ := h
  have hlatched : Latched i node.sessionId (c :: calls) → Latched i node.sessionId calls := by
    rintro ⟨c', hc', h'⟩
    rcases List.mem_cons.mp hc' with rfl | hc'
    · exact absurd h' hlatches
    · exact ⟨c', hc', h'⟩
  exact ⟨.cons hc (.inr hspares), node', exc, rfl, htimer, fun h => hstopped (hlatched h),
    fun h => hkept fun h' => h h'.cons⟩

/-- After the call that latches the failure. -/
theorem LatchEffect.latched {c : Made Op Input World} {node' : Node}
    (hc : ∀ r, c.state.store.session? node.sessionId = some r → r.status ∉ activeStates →
      (c.after World.exec i).store.session? node.sessionId = some r)
    (hlatches : Latches i node.sessionId c) (htimer : node'.mediaUnhealthySince = node.mediaUnhealthySince)
    (hstopped : node'.desiredState = .stopped) : LatchEffect i node (c :: calls) (.ok (node', exc)) where
  spares := .cons hc (.inl hlatches)
  returns := ⟨node', exc, rfl, htimer, fun _ => hstopped, fun h => absurd ⟨c, List.mem_cons_self, hlatches⟩ h⟩

theorem latch_effect {r : Except Exc (Node × Option Exc)}
    (h : (latchPipelineFailure nodeId node mediaHealth since now).Amid World.exec i calls r) :
    LatchEffect i node calls r := by
  obtain ⟨x, w, calls, rfl, hfound⟩ := Prog.Amid.op_attempt h
  have hget : ¬Latches i node.sessionId ⟨.store (.get node.sessionId), x, w⟩ := by
    rintro ⟨⟨changes, hop⟩, -⟩
    cases hop
  refine .cons (fun r hr _ => get_spares hr) hget ?_
  split at hfound
  · obtain ⟨rfl, rfl⟩ := Prog.amid_done.mp hfound
    exact .idle rfl rfl
  · obtain ⟨rfl, rfl⟩ := Prog.amid_done.mp hfound
    exact .idle rfl rfl
  · split at hfound
    · obtain ⟨rfl, rfl⟩ := Prog.amid_done.mp hfound
      exact .idle rfl rfl
    · split at hfound
      · obtain ⟨rfl, rfl⟩ := Prog.amid_done.mp hfound
        exact .idle rfl rfl
      · obtain ⟨x, w, calls, rfl, hmoved⟩ := Prog.Amid.op_attempt hfound
        split at hmoved
        · rename_i e he
          obtain ⟨rfl, rfl⟩ := Prog.amid_done.mp hmoved
          refine .cons (fun r hr hstatus => transition_spares hr hstatus) ?_ (.idle rfl rfl)
          rintro ⟨-, hok⟩
          rw [Made.result, he] at hok
          cases hok
        · rename_i session' hsession'
          have hlatches : Latches i node.sessionId ⟨.store (.transition node.sessionId failedCleanup activeStates
              [.cleanupPending true, .failureReason "media pipeline remained unavailable",
                .failureReasonCode "PIPELINE_CRASHED"]), x, w⟩ := by
            refine ⟨⟨_, rfl⟩, ?_⟩
            rw [Made.result, hsession']
            rfl
          obtain ⟨x', w', calls, rfl, hlogged⟩ := Prog.Amid.op_attempt hmoved
          split at hlogged
          · obtain ⟨rfl, rfl⟩ := Prog.amid_done.mp hlogged
            exact .latched (fun r hr hstatus => transition_spares hr hstatus) hlatches rfl rfl
          · obtain ⟨rfl, rfl⟩ := Prog.amid_done.mp hlogged
            exact .latched (fun r hr hstatus => transition_spares hr hstatus) hlatches rfl rfl

/-! ### The timer -/

theorem Timed.start (hstops : p.Stops) : Timed (reports ++ [p]) p.time :=
  ⟨reports, p, [], rfl, hstops, rfl, fun q hq => by cases hq⟩

theorem Timed.extend (h : Timed reports since) (hrunning : ¬p.Running) (hle : p.Stops → since ≤ p.time) :
    Timed (reports ++ [p]) since := by
  obtain ⟨before, s, rest, rfl, hs, htime, hrest⟩ := h
  refine ⟨before, s, rest ++ [p], by simp, hs, htime, fun q hq => ?_⟩
  rcases List.mem_append.mp hq with hq | hq
  · exact hrest q hq
  · obtain rfl := List.mem_singleton.mp hq
    exact ⟨hrunning, hle⟩

/-- The timer starts again when the clock has gone back behind it. -/
theorem startUnhealthyTimer_timed (h : ∀ t ∈ node.mediaUnhealthySince, Timed reports t) (hstops : p.Stops) :
    Timed (reports ++ [p]) (startUnhealthyTimer node p.time).1 := by
  unfold startUnhealthyTimer
  cases hsince : node.mediaUnhealthySince with
  | none => exact .start hstops
  | some since =>
    dsimp only
    split
    · exact .start hstops
    · rename_i hlt
      exact (h since hsince).extend hstops.not_running fun _ => not_lt.mp hlt

/-! ### One report -/

/-- Whether the timer has run for the grace period. -/
def Overdue (config : NodeConfig) (since now : Timestamp) : Prop :=
  config.mediaHealthFailureGraceSeconds ≤ (now : ℚ) - since

/-- A running report ends the timer, one of unknown health is ignored, and any other one is judged by the timer. -/
theorem apply_cases {r : Except Exc (Node × Option Exc)} (h : (p.apply config nodeId node).Amid World.exec i calls r) :
    (calls = [] ∧ ∃ node', r = .ok (node', none) ∧ node'.desiredState = node.desiredState ∧
      (p.Running ∧ node'.mediaUnhealthySince = none ∨ ¬p.Running ∧ ¬p.Stops ∧ node' = node)) ∨
    ∃ timer, timer = startUnhealthyTimer node p.time ∧ p.Stops ∧
      (calls = [] ∧ r = .ok (timer.2, none) ∨
        (p.Failed ∨ Overdue config timer.1 p.time) ∧
          (latchPipelineFailure nodeId timer.2 p.mediaHealth timer.1 p.time).Amid World.exec i calls r) := by
  unfold HealthReport.apply applyPipelineHealth at h
  dsimp only at h
  split at h
  · rename_i hrunning
    obtain ⟨rfl, rfl⟩ := Prog.amid_done.mp h
    exact .inl ⟨rfl, _, rfl, rfl, .inl ⟨hrunning, rfl⟩⟩
  · rename_i hrunning
    split at h
    · rename_i hignored
      rw [Bool.and_eq_true, decide_eq_true_eq, decide_eq_true_eq] at hignored
      obtain ⟨rfl, rfl⟩ := Prog.amid_done.mp h
      have hstops : ¬p.Stops := not_or.mpr ⟨fun hfailed => hignored.1 hfailed.1, hignored.2⟩
      exact .inl ⟨rfl, node, rfl, rfl, .inr ⟨hrunning, hstops, rfl⟩⟩
    · rename_i hjudged
      have hstops : p.Stops := by
        by_contra hstops
        obtain ⟨hfailed, hfatal⟩ := not_or.mp hstops
        refine hjudged ?_
        rw [Bool.and_eq_true, decide_eq_true_eq, decide_eq_true_eq]
        exact ⟨fun hstatus => hfailed ⟨hstatus, hrunning⟩, hfatal⟩
      refine .inr ⟨_, rfl, hstops, ?_⟩
      split at h
      · obtain ⟨rfl, rfl⟩ := Prog.amid_done.mp h
        exact .inl ⟨rfl, rfl⟩
      · rename_i hwaits
        refine .inr ⟨?_, h⟩
        rw [Bool.and_eq_true, decide_eq_true_eq, decide_eq_true_eq, not_and_or, not_not, not_lt] at hwaits
        exact hwaits.imp (fun hstatus => ⟨hstatus, hrunning⟩) id

/-- What a report does, when the timer rests on those before it. -/
structure ReportEffect (config : NodeConfig) (reports : List HealthReport) (p : HealthReport) (i : ℕ) (node : Node)
    (calls : StoreCalls) (r : Except Exc (Node × Option Exc)) : Prop where
  spares : Spares i node.sessionId calls
  due : Latched i node.sessionId calls →
    p.Failed ∨ p.Fatal ∧ ∃ since, Timed (reports ++ [p]) since ∧ Overdue config since p.time
  returns : ∃ node' exc, r = .ok (node', exc) ∧ (∀ t ∈ node'.mediaUnhealthySince, Timed (reports ++ [p]) t) ∧
    (Latched i node.sessionId calls → node'.desiredState = .stopped) ∧
    (¬Latched i node.sessionId calls → node'.desiredState = node.desiredState)

theorem ReportEffect.idle {node' : Node} (htimed : ∀ t ∈ node'.mediaUnhealthySince, Timed (reports ++ [p]) t)
    (hdesired : node'.desiredState = node.desiredState) : ReportEffect config reports p i node [] (.ok (node', exc)) where
  spares := spares_nil
  due h := absurd h not_latched_nil
  returns := ⟨node', exc, rfl, htimed, fun h => absurd h not_latched_nil, fun _ => hdesired⟩

theorem report_effect {r : Except Exc (Node × Option Exc)} (htimed : ∀ t ∈ node.mediaUnhealthySince, Timed reports t)
    (h : (p.apply config nodeId node).Amid World.exec i calls r) : ReportEffect config reports p i node calls r := by
  rcases apply_cases h with ⟨rfl, node', rfl, hdesired, hquiet⟩ | ⟨timer, rfl, hstops, hjudged⟩
  · refine .idle (fun t ht => ?_) hdesired
    rcases hquiet with ⟨-, hnone⟩ | ⟨hrunning, hstops, rfl⟩
    · rw [hnone] at ht
      cases ht
    · exact (htimed t ht).extend hrunning fun h => absurd h hstops
  · have htimer : ∀ t ∈ (startUnhealthyTimer node p.time).2.mediaUnhealthySince, Timed (reports ++ [p]) t := by
      intro t ht
      obtain rfl : (startUnhealthyTimer node p.time).1 = t := Option.some.inj ht
      exact startUnhealthyTimer_timed htimed hstops
    rcases hjudged with ⟨rfl, rfl⟩ | ⟨hdue, hlatching⟩
    · exact .idle htimer rfl
    · obtain ⟨hspares, node', exc, rfl, hkeeps, hstopped, hkept⟩ := latch_effect hlatching
      refine ⟨hspares, fun _ => ?_, node', exc, rfl, hkeeps ▸ htimer, hstopped, hkept⟩
      rcases hdue with hfailed | hoverdue
      · exact .inl hfailed
      · exact hstops.imp_right fun hfatal => ⟨hfatal, _, startUnhealthyTimer_timed htimed hstops, hoverdue⟩

theorem Recorded.timed (h : Recorded config nodeId reports node) : ∀ t ∈ node.mediaUnhealthySince, Timed reports t := by
  induction h with
  | start hnone =>
    intro t ht
    rw [hnone] at ht
    cases ht
  | other _ hsame ih => exact hsame ▸ ih
  | report _ happlied ih =>
    obtain ⟨node', exc, hr, htimed, -⟩ := (report_effect ih happlied).returns
    obtain ⟨rfl, -⟩ := Prod.mk.inj (Except.ok.inj hr)
    exact htimed

/-- The pipeline part of a heartbeat is one report. -/
theorem Recorded.heartbeat {request : HeartbeatRequest} (hrecorded : Recorded config nodeId reports node)
    (h : (reportPipeline config nodeId node request now).Amid World.exec i calls (.ok node')) :
    Recorded config nodeId (reports ++ [⟨request.status, request.mediaHealth, now⟩]) node' := by
  unfold reportPipeline at h
  rw [Prog.bind_def, Prog.bind] at h
  obtain ⟨first, r, second, rfl, hfirst, hkept⟩ := h.andThen
  have happlied : ((⟨request.status, request.mediaHealth, now⟩ : HealthReport).apply config nodeId node).Amid World.exec i
      first r := hfirst
  obtain ⟨node₁, exc, rfl, -⟩ := (report_effect hrecorded.timed happlied).returns
  have hreport := hrecorded.report happlied
  cases exc with
  | none =>
    obtain ⟨-, hnode⟩ := Prog.amid_done.mp hkept
    obtain rfl := Except.ok.inj hnode
    exact hreport.other rfl
  | some exc =>
    rcases hkept.ite with hkept | hkept
    · obtain ⟨-, hnode⟩ := Prog.amid_done.mp hkept
      obtain rfl := Except.ok.inj hnode
      exact hreport.other rfl
    · obtain ⟨-, hnode⟩ := Prog.amid_done.mp hkept
      cases hnode

/-- **A report latches the failure only if it says that the Node has failed, or if it is fatal and the timer has run for
    the grace period since a report after which none was running, and none that could set the timer was earlier. A Session
    that is not active is left alone, and the Node is to stop exactly when the failure is latched.** -/
theorem pipeline_latch {r : Except Exc (Node × Option Exc)} (hrecorded : Recorded config nodeId reports node)
    (h : (p.apply config nodeId node).Amid World.exec i calls r) :
    (Latched i node.sessionId calls → p.Failed ∨ p.Fatal ∧ ∃ before s rest, reports ++ [p] = before ++ s :: rest ∧
      s.Stops ∧ Overdue config s.time p.time ∧ ∀ q ∈ rest, ¬q.Running ∧ (q.Stops → s.time ≤ q.time)) ∧
    Spares i node.sessionId calls ∧
    ∃ node' exc, r = .ok (node', exc) ∧ (Latched i node.sessionId calls → node'.desiredState = .stopped) ∧
      (¬Latched i node.sessionId calls → node'.desiredState = node.desiredState) := by
  obtain ⟨hspares, hdue, node', exc, rfl, -, hstopped, hkept⟩ := report_effect hrecorded.timed h
  refine ⟨fun hlatched => ?_, hspares, node', exc, rfl, hstopped, hkept⟩
  rcases hdue hlatched with hfailed | ⟨hfatal, since, ⟨before, s, rest, hsplit, hs, rfl, hrest⟩, hoverdue⟩
  · exact .inl hfailed
  · exact .inr ⟨hfatal, before, s, rest, hsplit, hs, hoverdue, hrest⟩

/-! ### Reports that are not judged -/

/-- A report that asks nothing of the store. -/
theorem Recorded.pure (hrecorded : Recorded config nodeId reports node)
    (h : p.apply config nodeId node = .done (.ok (node', exc))) : Recorded config nodeId (reports ++ [p]) node' := by
  refine @Recorded.report config nodeId reports node node' p 0 [] exc hrecorded ?_
  rw [h]
  exact .done _

theorem apply_of_ignored (hrunning : ¬p.Running) (hstops : ¬p.Stops) :
    p.apply config nodeId node = .done (.ok (node, none)) := by
  unfold HealthReport.apply applyPipelineHealth
  have hignored : (p.status ≠ .failed && normalizedHealth p.mediaHealth ∉ ["stopped", "failed", "crashed"]) = true := by
    obtain ⟨hfailed, hfatal⟩ := not_or.mp hstops
    rw [Bool.and_eq_true, decide_eq_true_eq, decide_eq_true_eq]
    exact ⟨fun hstatus => hfailed ⟨hstatus, hrunning⟩, hfatal⟩
  have hhealth : normalizedHealth p.mediaHealth ≠ "running" := hrunning
  dsimp only
  rw [if_neg hhealth, if_pos hignored]
  rfl

theorem apply_of_waits (hfatal : p.Fatal) (hfailed : p.status ≠ .failed)
    (hwaits : ¬Overdue config (startUnhealthyTimer node p.time).1 p.time) :
    p.apply config nodeId node = .done (.ok ((startUnhealthyTimer node p.time).2, none)) := by
  unfold HealthReport.apply applyPipelineHealth
  have hjudged : ¬(p.status ≠ .failed && normalizedHealth p.mediaHealth ∉ ["stopped", "failed", "crashed"]) = true := by
    rw [Bool.and_eq_true, decide_eq_true_eq, decide_eq_true_eq]
    exact fun h => h.2 hfatal
  have hgrace : (p.status ≠ .failed && (p.time : ℚ) - (startUnhealthyTimer node p.time).1 <
      config.mediaHealthFailureGraceSeconds) = true := by
    rw [Bool.and_eq_true, decide_eq_true_eq, decide_eq_true_eq]
    exact ⟨hfailed, not_le.mp hwaits⟩
  have hhealth : normalizedHealth p.mediaHealth ≠ "running" := hfatal.not_running
  dsimp only
  rw [if_neg hhealth, if_neg hjudged, if_pos hgrace]
  rfl

end

/-! A Node whose clock goes back while its media stack is gone. -/

namespace ClockBack
open IRLight.Sample

/-- Its stack is gone, and then, at an earlier time, nothing is known of it. -/
def earlier : List HealthReport := [⟨.ready, "stopped", (10 : ℕ)⟩, ⟨.ready, "unknown", (5 : ℕ)⟩]

def last : HealthReport := ⟨.ready, "stopped", (71 : ℕ)⟩

/-- The Node has made the Session ready. -/
def world : World := (Plane.after config (5 : ℕ) readyAfter).state

def started : Node :=
  newNode "node-0001" sid none
    { providerServerId := "0-12", bootId := "boot", bootstrapRequestId := "1", nodeAccessTokenSha256 := "t" } (43200 : ℕ) (2 : ℕ)

def waiting : Node := (startUnhealthyTimer started (10 : ℕ)).2

theorem recorded : Recorded config.node "node-0001" earlier waiting := by
  have hstart : Recorded config.node "node-0001" [] started := .start rfl
  have hfatal : Recorded config.node "node-0001" [⟨.ready, "stopped", (10 : ℕ)⟩] waiting :=
    hstart.pure (apply_of_waits (by decide +kernel) (by decide) (by unfold Overdue; decide +kernel))
  exact hfatal.pure (apply_of_ignored (by decide +kernel) (by decide +kernel))

/-- The next report latches the failure. -/
theorem latches :
    ∃ calls r, (last.apply config.node "node-0001" waiting).Amid World.exec 9 calls r ∧ Latched 9 sid calls := by
  have hstopped : ((last.apply config.node "node-0001" waiting).eval World.exec 9
      (fun _ => .quiet 71) 0 world).result.toOption.any fun a => a.1.desiredState = .stopped := by
    decide +kernel
  have hcalls := @Prog.amid_eval _ _ _ _ _ _ World.exec 9 0 (last.apply config.node "node-0001" waiting)
    (fun _ => .quiet 71) world
  refine ⟨_, _, hcalls, by_contra fun hlatched => ?_⟩
  obtain ⟨node', exc, hr, -, -, hkept⟩ := (report_effect recorded.timed hcalls).returns
  rw [hr] at hstopped
  have hrunning : node'.desiredState = .running := hkept hlatched
  rw [Except.toOption, Option.any_some, decide_eq_true_eq, hrunning] at hstopped
  cases hstopped

end ClockBack

/-- **The media stack of a Node is reported gone, then unknown at an earlier time, and gone again more than the grace
    period after the first report. The failure is latched, though the clock has gone back in between.** -/
theorem latched_across_clock_back :
    ∃ reports node p i calls r, Recorded IRLight.Sample.config.node "node-0001" reports node ∧
      (HealthReport.apply p IRLight.Sample.config.node "node-0001" node).Amid World.exec i calls r ∧
      Latched i node.sessionId calls ∧
      ¬((∃ q ∈ reports ++ [p], q.Failed) ∨ ∃ before s rest, reports ++ [p] = before ++ s :: rest ∧ s.Fatal ∧
        Overdue IRLight.Sample.config.node s.time p.time ∧ ∀ q ∈ rest, ¬q.Running ∧ s.time ≤ q.time) := by
  obtain ⟨calls, r, hcalls, hlatched⟩ := ClockBack.latches
  refine ⟨ClockBack.earlier, ClockBack.waiting, ClockBack.last, 9, calls, r, ClockBack.recorded, hcalls, hlatched, ?_⟩
  rintro (hfailed | ⟨before, s, rest, hsplit, hfatal, hoverdue, hrest⟩)
  · exact absurd hfailed (by decide +kernel)
  · simp only [ClockBack.earlier, List.cons_append, List.nil_append] at hsplit
    rcases before with _ | ⟨_, _ | ⟨_, _ | ⟨_, before⟩⟩⟩
    -- the first report has the clock go back after it, the second is not fatal, the last has only begun
    · obtain ⟨rfl, rfl⟩ := List.cons.inj hsplit
      exact absurd (hrest _ List.mem_cons_self).2 (by decide +kernel)
    · obtain ⟨-, hsplit⟩ := List.cons.inj hsplit
      obtain ⟨rfl, -⟩ := List.cons.inj hsplit
      exact absurd hfatal (by decide +kernel)
    · obtain ⟨-, hsplit⟩ := List.cons.inj hsplit
      obtain ⟨-, hsplit⟩ := List.cons.inj hsplit
      obtain ⟨rfl, -⟩ := List.cons.inj hsplit
      exact absurd hoverdue (by unfold Overdue; decide +kernel)
    · simp at hsplit

/-- The failure is latched by the last of three reports. -/
theorem pipeline_latch_sample :
    ∃ calls, Latched 9 IRLight.Sample.sid calls ∧ Spares 9 IRLight.Sample.sid calls ∧ ∃ before s rest,
      ClockBack.earlier ++ [ClockBack.last] = before ++ s :: rest ∧ s.Stops ∧
        Overdue IRLight.Sample.config.node s.time ClockBack.last.time ∧
        ∀ q ∈ rest, ¬q.Running ∧ (q.Stops → s.time ≤ q.time) := by
  obtain ⟨calls, r, hcalls, hlatched⟩ := ClockBack.latches
  obtain ⟨hdue, hspares, -⟩ := pipeline_latch ClockBack.recorded hcalls
  refine ⟨calls, hlatched, hspares, ?_⟩
  rcases hdue hlatched with hfailed | ⟨-, hsince⟩
  · exact absurd hfailed (by decide +kernel)
  · exact hsince

end NodeApi
end IRLight
