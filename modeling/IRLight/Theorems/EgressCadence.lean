import IRLight.Egress.Gateway
import Mathlib.Algebra.Order.Ring.NNRat
import Mathlib.Data.List.Induction
import Mathlib.Tactic.IntervalCases

/-! # How fresh the gateway's status is

A connected attempt reports in time, so what may be stale is the status that the gateway leaves behind while it waits for
the next attempt and until that attempt connects or ends. -/

namespace IRLight.Egress

/-- `t'` is not before `t`, and at most `span` later. -/
def Within (span t t' : Timestamp) : Prop := t ≤ t' ∧ t' ≤ t + span

namespace Within
variable {span span' t t' t'' : Timestamp}

theorem refl : Within span t t := ⟨le_rfl, le_self_add⟩

theorem mono (h : Within span t t') (hle : span ≤ span') : Within span' t t' :=
  ⟨h.1, h.2.trans (add_le_add_right hle _)⟩

theorem trans (h : Within span t t') (h' : Within span' t' t'') : Within (span + span') t t'' := by
  refine ⟨h.1.trans h'.1, h'.2.trans ?_⟩
  rw [← add_assoc]
  exact add_le_add_left h.2 _

end Within

/-! ### A connected attempt -/

/-- The readings of the polls. -/
def pollTimes : List AttemptEvent → List Timestamp
  | [] => []
  | .poll p :: events => p.now :: pollTimes events
  | _ :: events => pollTimes events

namespace EgressAttempt
variable {config : AttemptConfig} {a a' : EgressAttempt} {p : Poll} {t now ended slack : Timestamp}
  {r : Option Report} {result : Option AttemptResult} {progressChanged : Bool}

/-- The attempt after a poll at `t`: once connected, its sink made progress at most a heartbeat after the last report,
    and the stall timer has not run out. -/
structure Live (config : AttemptConfig) (a : EgressAttempt) (t : Timestamp) : Prop where
  rendered : a.lastRenderedAt ≤ t
  reported : a.connectedOnce → a.lastProgressAt ≤ t ∧
    a.lastRenderedAt ≤ a.lastProgressAt + config.statusHeartbeatSeconds ∧
    t ≤ a.lastRenderedAt + config.outputStallTimeoutSeconds

theorem Live.new : Live config (.new t) t := ⟨le_rfl, fun h => by cases h⟩

/-- How late a poll of a connected attempt may be after the last report. -/
theorem Live.within (h : a.Live config t) (hc : a.connectedOnce) :
    Within (config.statusHeartbeatSeconds + config.outputStallTimeoutSeconds) a.lastProgressAt t := by
  obtain ⟨hlast, hrendered, hstall⟩ := h.reported hc
  refine ⟨hlast, hstall.trans ?_⟩
  rw [← add_assoc]
  exact add_le_add_left hrendered _

theorem Live.poll (h : a.Live config t) (ht : t ≤ p.now) (hbeat : 0 < config.statusHeartbeatSeconds)
    (hstall : 0 < config.outputStallTimeoutSeconds) (hpoll : a.pollSink config p = (a', r, none)) :
    a'.Live config p.now := by
  rcases pollSink_cases hpoll with ⟨-, -, hresult⟩ | ⟨progressChanged, hreports, hrendered, hlive⟩
  · exact absurd rfl hresult
  have hle : a'.lastRenderedAt ≤ p.now := by
    rw [hrendered]
    split
    · exact le_rfl
    · exact h.rendered.trans ht
  have hsilent := fun hc => (hlive rfl hc hstall).le
  refine ⟨hle, fun hc => ?_⟩
  cases hreports with
  | quiet hconnected hlast hdue =>
    rw [hconnected] at hc
    obtain ⟨hpast, hbeats, -⟩ := h.reported hc
    refine ⟨hlast ▸ hpast.trans ht, ?_, hsilent (hconnected ▸ hc)⟩
    rw [hrendered, hlast]
    split
    · rename_i hchanged
      exact (hdue hc hchanged hbeat).le
    · exact hbeats
  | connected n _ hconnected hlast => exact ⟨hlast.le, hlast ▸ hle.trans le_self_add, hsilent hc⟩
  | progress n _ hconnected hlast => exact ⟨hlast.le, hlast ▸ hle.trans le_self_add, hsilent hc⟩

/-- The time of the last report, once there is one. -/
def lastReport (a : EgressAttempt) : List Timestamp := if a.connectedOnce then [a.lastProgressAt] else []

theorem lastReport_of_connected (h : a.connectedOnce) : a.lastReport = [a.lastProgressAt] := if_pos h

/-- What a poll reports goes between the last report before it and what comes after it. -/
theorem Reports.isChain {span : Timestamp} {rest : List Timestamp} (h : Reports config a now progressChanged a' r)
    (hnow : a.connectedOnce → Within span a.lastProgressAt now) (hrest : (a'.lastReport ++ rest).IsChain (Within span)) :
    (a.lastReport ++ (r.toList.map fun _ => now) ++ rest).IsChain (Within span) := by
  cases h with
  | quiet hconnected hlast _ =>
    have heq : a'.lastReport = a.lastReport := by
      unfold lastReport
      rw [hconnected, hlast]
    simpa [heq] using hrest
  | connected n hbefore hconnected hlast =>
    have hnone : a.lastReport = [] := by simp [lastReport, hbefore]
    rw [lastReport_of_connected hconnected, hlast] at hrest
    simpa [hnone] using hrest
  | progress n hbefore hconnected hlast =>
    rw [lastReport_of_connected hconnected, hlast] at hrest
    rw [lastReport_of_connected hbefore]
    exact hrest.cons_cons (hnow hbefore)

theorem play_cons {e : AttemptEvent} {events : List AttemptEvent} {run : AttemptRun}
    (h : a.play config (e :: events) = some run) : ∃ a' r result, a.dispatch config e = (a', r, result) ∧
      ((result ≠ none ∧ events = [] ∧ run.reports = r.toList.map fun r => (e.now, r)) ∨
        (result = none ∧ ∃ run', a'.play config events = some run' ∧
          run.reports = (r.toList.map fun r => (e.now, r)) ++ run'.reports)) := by
  unfold play at h
  split at h
  · rename_i hdispatch
    obtain rfl := Option.some.inj h
    exact ⟨_, _, _, hdispatch, .inl ⟨Option.some_ne_none _, rfl, rfl⟩⟩
  · cases h
  · rename_i hdispatch
    obtain ⟨run', hrun', rfl⟩ := Option.map_eq_some_iff.mp h
    exact ⟨_, _, _, hdispatch, .inr ⟨rfl, run', hrun', rfl⟩⟩

/-- An event that ends the attempt without a report is the only one. -/
theorem play_of_ends {e : AttemptEvent} {events : List AttemptEvent} {run : AttemptRun} {last : AttemptResult}
    (hends : a.dispatch config e = (a, none, some last)) (h : a.play config (e :: events) = some run) :
    events = [] ∧ run.reports = [] := by
  obtain ⟨a', r, result, hdispatch, hrest⟩ := play_cons h
  obtain ⟨-, hpair⟩ := Prod.mk.inj (hdispatch.symm.trans hends)
  obtain ⟨rfl, rfl⟩ := Prod.mk.inj hpair
  rcases hrest with ⟨-, hevents, hreports⟩ | ⟨hnone, -⟩
  · exact ⟨hevents, hreports⟩
  · exact absurd hnone (Option.some_ne_none _)

/-- The last report, once a poll has made its own, is not long before the poll. -/
theorem Reports.within (h : Reports config a now progressChanged a' r) (hlive : a.Live config t)
    (hnow : Within slack t now) (hc : a'.connectedOnce) :
    Within (config.statusHeartbeatSeconds + config.outputStallTimeoutSeconds + slack) a'.lastProgressAt now := by
  cases h with
  | quiet hconnected hlast _ =>
    rw [hconnected] at hc
    rw [hlast]
    exact (hlive.within hc).trans hnow
  | connected n _ _ hlast =>
    rw [hlast]
    exact .refl
  | progress n _ _ hlast =>
    rw [hlast]
    exact .refl

theorem isChain_lastReport {span : Timestamp} (h : a.connectedOnce → Within span a.lastProgressAt ended) :
    (a.lastReport ++ [ended]).IsChain (Within span) := by
  unfold lastReport
  split
  · rename_i hc
    exact .cons_cons (h hc) (.singleton _)
  · exact .singleton _

/-- The reports of an attempt that is polled in time, and its end, follow each other in time. -/
theorem play_isChain (hbeat : 0 < config.statusHeartbeatSeconds) (hstall : 0 < config.outputStallTimeoutSeconds)
    {events : List AttemptEvent} {run : AttemptRun} (h : a.Live config t)
    (hpolls : (t :: pollTimes events ++ [ended]).IsChain (Within slack)) (hrun : a.play config events = some run) :
    (a.lastReport ++ run.reports.map Prod.fst ++ [ended]).IsChain
      (Within (config.statusHeartbeatSeconds + config.outputStallTimeoutSeconds + slack + slack)) := by
  induction events generalizing a t run with
  | nil => cases hrun
  | cons e events ih =>
    have hother : ∀ {last}, pollTimes (e :: events) = pollTimes events → a.dispatch config e = (a, none, some last) →
        (a.lastReport ++ run.reports.map Prod.fst ++ [ended]).IsChain
          (Within (config.statusHeartbeatSeconds + config.outputStallTimeoutSeconds + slack + slack)) := by
      intro last htimes hends
      obtain ⟨rfl, hreports⟩ := play_of_ends hends hrun
      rw [htimes] at hpolls
      have hended : Within slack t ended := (List.isChain_cons_cons.mp hpolls).1
      rw [hreports, List.map_nil, List.append_nil]
      exact isChain_lastReport fun hc => ((h.within hc).trans hended).mono le_self_add
    cases e with
    | poll p =>
      obtain ⟨a', r, result, hdispatch, hrest⟩ := play_cons hrun
      obtain ⟨hnow, hpolls⟩ := List.isChain_cons_cons.mp hpolls
      rcases hrest with ⟨hresult, rfl, hreports⟩ | ⟨rfl, run', hrun', hreports⟩
      · have hended : Within slack p.now ended := (List.isChain_cons_cons.mp hpolls).1
        rw [hreports, List.map_map]
        rcases pollSink_cases hdispatch with ⟨rfl, rfl, -⟩ | ⟨progressChanged, hr, -, -⟩
        · rw [Option.toList_none, List.map_nil, List.append_nil]
          exact isChain_lastReport fun hc => by
            rw [add_assoc]
            exact (h.within hc).trans (hnow.trans hended)
        · exact hr.isChain (fun hc => ((h.within hc).trans hnow).mono le_self_add)
            (isChain_lastReport fun hc => (hr.within h hnow hc).trans hended)
      · rw [hreports, List.map_append, List.map_map, ← List.append_assoc, List.append_assoc]
        have hlive := h.poll hnow.1 hbeat hstall hdispatch
        rcases pollSink_cases hdispatch with ⟨-, -, hresult⟩ | ⟨progressChanged, hr, -, -⟩
        · exact absurd rfl hresult
        · refine hr.isChain (fun hc => ((h.within hc).trans hnow).mono le_self_add) ?_
          rw [← List.append_assoc]
          exact ih hlive hpolls hrun'
    | error reason domain code => exact hother rfl rfl
    | eos => exact hother rfl rfl
    | padFailure => exact hother rfl rfl

end EgressAttempt

/-! ### A round of the gateway -/

/-- The readings of an attempt's start, of its polls and of its end. -/
def AttemptInput.cadence (started ended : Timestamp) : AttemptInput → List Timestamp
  | .playing events => started :: pollTimes events ++ [ended]
  | _ => []

namespace Round

/-- When an attempt of the round reports. -/
def reportTimes (r : Round) : List Timestamp :=
  match r.stopBefore, r.blocked with
  | none, none => r.attempt.reports.map Prod.fst
  | _, _ => []

/-- When the round first writes a status, unless a stop comes before it: when its attempt connects, or ends without. -/
def firstWrite (r : Round) : Timestamp := r.reportTimes.headD r.ended

/-- The timers of the round run on time. The round begins when the delay is over; its attempt connects or ends within the
    connect timeout; and while it plays, its sink is polled, and it ends, at most `slack` after the poll before. -/
structure Timely (config : AttemptConfig) (slack : Timestamp) (g : EgressGateway) (r : Round) : Prop where
  stop : ∀ waited, r.stopBefore = some waited → waited ≤ g.delay
  connect : r.stopBefore = none → Within config.connectTimeoutSeconds (g.idleSince + g.delay) r.firstWrite
  attempt : r.stopBefore = none → r.blocked = none → ∃ started input,
    EgressAttempt.run config started input = some r.attempt ∧ (input.cadence started r.ended).IsChain (Within slack)

/-- How long the gateway writes nothing around the start of the round: it waits for the delay, or until a stop, and then
    for the attempt to connect or to end. -/
def pause (g : EgressGateway) (r : Round) : Timestamp :=
  match r.stopBefore with
  | some waited => waited
  | none => g.delay + (r.firstWrite - (g.idleSince + g.delay))

end Round

/-- What a status shows of its age: whether it ages at all, and since when. -/
abbrev Mark := Bool × Timestamp

/-- The next status comes before the mark is stale. -/
def Mark.Fresh (maxAge : Timestamp) (m m' : Mark) : Prop := m.1 = false → m'.2 ≤ m.2 + maxAge

/-- The gateway keeps writing in time while it runs. -/
def Punctual (maxAge : Timestamp) (g : EgressGateway) : Prop :=
  g.writes.IsChain fun w w' => w.status.terminal = false → w'.status.terminal = false →
    w'.observedAt ≤ w.observedAt + maxAge

/-- While the gateway runs, no reader ever reports its status as stale. -/
structure NeverStale (str : Json → String) (maxAge : Timestamp) (g : EgressGateway) : Prop where
  between : g.writes.IsChain fun w w' =>
    ∀ now, w.observedAt ≤ now → now ≤ w'.observedAt → ¬w.ReadsStale str now maxAge
  raised : ∀ w time, w ∈ g.writes.getLast? → g.exit = some (.raised time) →
    ∀ now, w.observedAt ≤ now → now ≤ time → ¬w.ReadsStale str now maxAge

namespace EgressGateway
variable {policy : ReconnectPolicy} {config : AttemptConfig} {g : EgressGateway} {r : Round} {now slack maxAge : Timestamp}

/-- The marks of the statuses, and of the end if nothing is written then. -/
def marks (g : EgressGateway) : List Mark :=
  g.writes.map (fun w => (w.status.terminal, w.observedAt)) ++
    match g.exit with
    | some (.raised time) => [(true, time)]
    | _ => []

theorem marks_of_running (hexit : g.exit = none) :
    g.marks = g.writes.map fun w => (w.status.terminal, w.observedAt) := by
  unfold marks
  rw [hexit, List.append_nil]

theorem stop_marks (hexit : g.exit = none) (now : Timestamp) (n : ℕ) :
    (g.stop now n).marks = g.marks ++ [(true, now)] ∧ (g.stop now n).exit ≠ none := by
  refine ⟨?_, Option.some_ne_none _⟩
  rw [marks_of_running hexit]
  simp [marks, stop, writeStatus, EgressStatus.terminal]

theorem retry_marks {random : ℚ} {result : AttemptResult} (hexit : g.exit = none) :
    ∃ terminal, (g.retry policy now random result).marks = g.marks ++ [(terminal, now)] ∧
      ((g.retry policy now random result).exit = none →
        terminal = false ∧ (g.retry policy now random result).idleSince = now) := by
  rw [marks_of_running hexit]
  unfold retry
  simp only
  split
  · exact ⟨_, by simp [marks, writeStatus]; rfl, fun h => absurd h (Option.some_ne_none _)⟩
  · split
    · exact ⟨_, by simp [marks, writeStatus]; rfl, fun h => absurd h (Option.some_ne_none _)⟩
    · split
      · exact ⟨true, by simp [marks], fun h => absurd h (Option.some_ne_none _)⟩
      · exact ⟨false, by simp [marks, writeStatus, hexit, EgressStatus.terminal], fun _ => ⟨rfl, rfl⟩⟩

/-- A round that has reported stops or tries again. -/
theorem end_marks {c : Prop} [Decidable c] {n : ℕ} {random : ℚ} {result : AttemptResult} (hexit : g.exit = none) :
    let g' := if c then g.stop now n else g.retry policy now random result
    ∃ terminal, g'.marks = g.marks ++ [(terminal, now)] ∧ (g'.exit = none → terminal = false ∧ g'.idleSince = now) := by
  intro g'
  by_cases hc : c
  · obtain ⟨hmarks, hstopped⟩ := stop_marks hexit now n
    rw [show g' = g.stop now n from if_pos hc]
    exact ⟨true, hmarks, fun h => absurd h hstopped⟩
  · rw [show g' = g.retry policy now random result from if_neg hc]
    exact retry_marks hexit

/-- Reports write statuses that age, and leave the loop as it is. -/
theorem foldl_takeReport (reports : List (Timestamp × Report)) (g : EgressGateway) :
    (reports.foldl takeReport g).writes.map (fun w => (w.status.terminal, w.observedAt)) =
      g.writes.map (fun w => (w.status.terminal, w.observedAt)) ++ reports.map (fun report => (false, report.1)) ∧
    (reports.foldl takeReport g).exit = g.exit := by
  induction reports generalizing g with
  | nil => simp
  | cons report reports ih =>
    obtain ⟨now, report⟩ := report
    obtain ⟨hwrites, hexit⟩ := ih (g.takeReport (now, report))
    rw [List.foldl_cons, hwrites, hexit]
    cases report with
    | connected rendered => exact ⟨by simp [takeReport, writeStatus, EgressStatus.terminal], rfl⟩
    | progress rendered => exact ⟨by simp [takeReport, writeStatus, EgressStatus.terminal], rfl⟩

/-- A gateway that goes on after a failure waits for the delay of its failure count. -/
theorem retry_delay {random : ℚ} {result : AttemptResult} (hexit : (g.retry policy now random result).exit = none) :
    ∃ value, policy.delayFor (g.retry policy now random result).failureCount value =
      .ok (g.retry policy now random result).delay := by
  revert hexit
  unfold retry
  simp only
  split
  · exact fun h => by cases h
  · split
    · exact fun h => by cases h
    · cases hdelay : policy.delayFor (g.failureCount + 1) random with
      | error e => exact fun h => by cases h
      | ok delay => exact fun _ => ⟨random, hdelay⟩

theorem end_delay {c : Prop} [Decidable c] {n : ℕ} {random : ℚ} {result : AttemptResult} :
    let g' := if c then g.stop now n else g.retry policy now random result
    g'.exit = none → ∃ value, policy.delayFor g'.failureCount value = .ok g'.delay := by
  intro g' hexit
  by_cases hc : c
  · rw [show g' = g.stop now n from if_pos hc] at hexit
    cases hexit
  · rw [show g' = g.retry policy now random result from if_neg hc] at hexit ⊢
    exact retry_delay hexit

theorem round_delay (hexit : (g.round policy r).exit = none) :
    ∃ random, policy.delayFor (g.round policy r).failureCount random = .ok (g.round policy r).delay := by
  have hrunning : ¬g.exit.isSome := by
    intro hended
    rw [round, if_pos hended] at hexit
    rw [hexit] at hended
    cases hended
  revert hexit
  unfold round
  rw [if_neg hrunning]
  cases r.stopBefore with
  | some waited => exact fun h => by cases h
  | none =>
    cases r.blocked with
    | some block => exact end_delay
    | none => exact end_delay

/-- When the round ends. -/
def endTime (g : EgressGateway) (r : Round) : Timestamp :=
  match r.stopBefore with
  | some waited => g.idleSince + waited
  | none => r.ended

/-- A round of a running gateway marks its reports and its end. The gateway goes on from there if it goes on. -/
theorem round_marks (hexit : g.exit = none) (policy : ReconnectPolicy) (r : Round) :
    ∃ terminal, (g.round policy r).marks = g.marks ++ r.reportTimes.map (false, ·) ++ [(terminal, g.endTime r)] ∧
      ((g.round policy r).exit = none → terminal = false ∧ (g.round policy r).idleSince = g.endTime r) := by
  have hrunning : g.exit.isSome = false := by rw [hexit]; rfl
  unfold round Round.reportTimes endTime
  rw [hrunning, if_neg Bool.false_ne_true]
  cases r.stopBefore with
  | some waited =>
    obtain ⟨hmarks, hstopped⟩ := stop_marks hexit (g.idleSince + waited) 0
    exact ⟨true, by simpa using hmarks, fun h => absurd h hstopped⟩
  | none =>
    cases r.blocked with
    | some block =>
      simp only [List.map_nil, List.append_nil]
      exact end_marks hexit
    | none =>
      simp only [List.map_map]
      obtain ⟨hwrites, hexit'⟩ := foldl_takeReport r.attempt.reports g
      rw [hexit] at hexit'
      have hmarks : (r.attempt.reports.foldl takeReport g).marks =
          g.marks ++ r.attempt.reports.map fun report => (false, report.1) := by
        rw [marks_of_running hexit', hwrites, marks_of_running hexit]
      change ∃ terminal, _ = g.marks ++ (r.attempt.reports.map fun report => (false, report.1)) ++ [(terminal, r.ended)] ∧ _
      rw [← hmarks]
      exact end_marks hexit'

end EgressGateway

/-! ### Runs of the gateway -/

section
variable {policy : ReconnectPolicy} {config : AttemptConfig} {g : EgressGateway} {r : Round} {slack maxAge : Timestamp}
  {w : StatusRecord} {str : Json → String}

/-- No reader reports a status as stale until `t` if and only if it does not age, or is young enough at `t`. -/
theorem forall_not_readsStale_iff (hmax : 0 < maxAge) {t : Timestamp} :
    (∀ now, w.observedAt ≤ now → now ≤ t → ¬w.ReadsStale str now maxAge) ↔
      (w.status.terminal = false → t ≤ w.observedAt + maxAge) := by
  constructor
  · intro h hages
    by_contra hlate
    have hlt := not_le.mp hlate
    exact h t (le_self_add.trans hlt.le) le_rfl ((StatusRecord.readsStale_iff hmax).mpr ⟨hages, hlt⟩)
  · intro h now _ hnow hstale
    obtain ⟨hages, hlt⟩ := (StatusRecord.readsStale_iff hmax).mp hstale
    exact absurd (hnow.trans (h hages)) (not_le.mpr hlt)

theorem neverStale_iff (hmax : 0 < maxAge) : NeverStale str maxAge g ↔ g.marks.IsChain (Mark.Fresh maxAge) := by
  have hbetween : (g.writes.IsChain fun w w' => ∀ now, w.observedAt ≤ now → now ≤ w'.observedAt →
      ¬w.ReadsStale str now maxAge) ↔
      (g.writes.map fun w => (w.status.terminal, w.observedAt)).IsChain (Mark.Fresh maxAge) := by
    rw [List.isChain_map]
    simp only [forall_not_readsStale_iff hmax]
    rfl
  unfold EgressGateway.marks
  cases hexit : g.exit with
  | none =>
    rw [List.append_nil, ← hbetween]
    exact ⟨fun h => h.between, fun h => ⟨h, fun w time _ hraised => by rw [hexit] at hraised; cases hraised⟩⟩
  | some exit =>
    cases exit with
    | code n =>
      rw [List.append_nil, ← hbetween]
      exact ⟨fun h => h.between, fun h => ⟨h, fun w time _ hraised => by rw [hexit] at hraised; cases hraised⟩⟩
    | raised time =>
      rw [List.isChain_append, ← hbetween]
      constructor
      · intro h
        refine ⟨h.between, .singleton _, fun m hm m' hm' => ?_⟩
        obtain ⟨w, hw, rfl⟩ := Option.map_eq_some_iff.mp ((List.getLast?_map ..).symm.trans hm)
        obtain rfl := Option.some.inj hm'
        exact (forall_not_readsStale_iff hmax).mp (h.raised w time hw hexit)
      · rintro ⟨hchain, -, hlast⟩
        refine ⟨hchain, fun w time' hw hraised => ?_⟩
        obtain rfl := Exit.raised.inj (Option.some.inj (hraised.symm.trans hexit))
        refine (forall_not_readsStale_iff hmax).mpr (hlast (w.status.terminal, w.observedAt) ?_ _ rfl)
        rw [List.getLast?_map, Option.mem_def.mp hw]
        rfl

/-- Marks that age are fresh when their times follow each other closely enough. -/
theorem isChain_fresh_iff {t e : Timestamp} {terminal : Bool} {times : List Timestamp} :
    ((false, t) :: times.map (false, ·) ++ [(terminal, e)]).IsChain (Mark.Fresh maxAge) ↔
      (t :: times ++ [e]).IsChain fun t t' => t' ≤ t + maxAge := by
  induction times generalizing t with
  | nil => simp [Mark.Fresh]
  | cons t' times ih =>
    have hfirst : Mark.Fresh maxAge (false, t) (false, t') ↔ t' ≤ t + maxAge := ⟨fun h => h rfl, fun h _ => h⟩
    simp only [List.cons_append, List.map_cons, List.isChain_cons_cons, hfirst]
    exact and_congr_right fun _ => ih

/-- The writes of a round whose timers run on time follow each other in time. -/
theorem Round.Timely.isChain (h : r.Timely config slack g) (hbeat : 0 < config.statusHeartbeatSeconds)
    (hstall : 0 < config.outputStallTimeoutSeconds) (hstop : r.stopBefore = none) :
    (r.reportTimes ++ [r.ended]).IsChain
      (Within (config.statusHeartbeatSeconds + config.outputStallTimeoutSeconds + slack + slack)) := by
  unfold Round.reportTimes
  rw [hstop]
  cases hblocked : r.blocked with
  | some block => exact .singleton _
  | none =>
    obtain ⟨started, input, hrun, hcadence⟩ := h.attempt hstop hblocked
    cases input with
    | buildFailure =>
      rw [← Option.some.inj hrun]
      exact .singleton _
    | stateFailure =>
      rw [← Option.some.inj hrun]
      exact .singleton _
    | playing events => exact EgressAttempt.play_isChain hbeat hstall .new hcadence hrun

/-- The gap around the start of a round is its pause. -/
theorem Round.Timely.firstWrite_le_iff (h : r.Timely config slack g) (hstop : r.stopBefore = none) :
    r.firstWrite ≤ g.idleSince + maxAge ↔ r.pause g ≤ maxAge := by
  obtain ⟨silence, hsilence⟩ := exists_add_of_le (h.connect hstop).1
  unfold Round.pause
  rw [hstop, hsilence, add_tsub_cancel_left, add_assoc, add_le_add_iff_left]

/-- **A round keeps the status fresh exactly when its pause is short enough.** -/
theorem round_isChain_iff (hexit : g.exit = none) (hidle : ∃ front, g.marks = front ++ [(false, g.idleSince)])
    (hbeat : 0 < config.statusHeartbeatSeconds) (hstall : 0 < config.outputStallTimeoutSeconds)
    (hmax : config.statusHeartbeatSeconds + config.outputStallTimeoutSeconds + slack + slack ≤ maxAge)
    (h : r.Timely config slack g) :
    (g.round policy r).marks.IsChain (Mark.Fresh maxAge) ↔
      g.marks.IsChain (Mark.Fresh maxAge) ∧ r.pause g ≤ maxAge := by
  obtain ⟨front, hfront⟩ := hidle
  obtain ⟨terminal, hmarks, -⟩ := EgressGateway.round_marks hexit policy r
  rw [hmarks, hfront, List.append_assoc, List.append_assoc, List.singleton_append, List.isChain_split,
    ← List.cons_append, isChain_fresh_iff]
  refine and_congr_right fun _ => ?_
  unfold EgressGateway.endTime
  cases hstop : r.stopBefore with
  | some waited =>
    have htimes : r.reportTimes = [] := by
      unfold Round.reportTimes
      rw [hstop]
    have hpause : r.pause g = waited := by
      unfold Round.pause
      rw [hstop]
    rw [htimes, hpause]
    exact List.isChain_pair.trans (add_le_add_iff_left _)
  | none =>
    have hchain := (h.isChain hbeat hstall hstop).imp fun t t' ht => (ht.mono hmax).2
    rw [← h.firstWrite_le_iff hstop, List.cons_append]
    unfold Round.firstWrite
    cases hreports : r.reportTimes with
    | nil => exact List.isChain_pair
    | cons first reports =>
      rw [hreports] at hchain
      exact List.isChain_cons_cons.trans (and_iff_left hchain)

/-- A gateway that has ended does nothing in a round. -/
theorem round_of_ended (hexit : g.exit ≠ none) : g.round policy r = g :=
  if_pos (Option.isSome_iff_ne_none.mpr hexit)

/-- A gateway that goes on has marked when it went idle. -/
theorem exists_idle_round (hexit : (g.round policy r).exit = none) :
    ∃ front, (g.round policy r).marks = front ++ [(false, (g.round policy r).idleSince)] := by
  have hrunning : g.exit = none := by
    by_contra hended
    rw [round_of_ended hended] at hexit
    exact hended hexit
  obtain ⟨terminal, hmarks, hidle⟩ := EgressGateway.round_marks hrunning policy r
  obtain ⟨rfl, hsince⟩ := hidle hexit
  exact ⟨_, by rw [hmarks, hsince]⟩

variable {startup : EgressGateway.Startup} {startedAt now : Timestamp} {rounds : List Round}

/-- The loop of a gateway that was started at `now`, after some rounds. -/
def gatewayRun (policy : ReconnectPolicy) (startedAt now : Timestamp) (startup : EgressGateway.Startup)
    (rounds : List Round) : EgressGateway :=
  (EgressGateway.start startedAt now startup).run policy rounds

theorem gatewayRun_concat : gatewayRun policy startedAt now startup (rounds ++ [r]) =
    (gatewayRun policy startedAt now startup rounds).round policy r := by
  unfold gatewayRun EgressGateway.run
  rw [List.foldl_append]
  rfl

/-- What holds of every round of a gateway that is still running. -/
def EveryRound (policy : ReconnectPolicy) (startedAt now : Timestamp) (startup : EgressGateway.Startup)
    (rounds : List Round) (φ : EgressGateway → Round → Prop) : Prop :=
  ∀ before r after, rounds = before ++ r :: after → (gatewayRun policy startedAt now startup before).exit = none →
    φ (gatewayRun policy startedAt now startup before) r

theorem everyRound_concat {φ : EgressGateway → Round → Prop} :
    EveryRound policy startedAt now startup (rounds ++ [r]) φ ↔ EveryRound policy startedAt now startup rounds φ ∧
      ((gatewayRun policy startedAt now startup rounds).exit = none →
        φ (gatewayRun policy startedAt now startup rounds) r) := by
  constructor
  · intro h
    refine ⟨fun before r' after heq => h before r' (after ++ [r]) ?_, h rounds r [] rfl⟩
    rw [heq, List.append_assoc, List.cons_append]
  · rintro ⟨hrounds, hlast⟩ before r' after heq
    rcases List.eq_nil_or_concat after with rfl | ⟨after, r'', rfl⟩
    · obtain ⟨rfl, hr⟩ := List.append_inj' heq rfl
      obtain rfl := List.singleton_inj.mp hr
      exact hlast
    · rw [List.concat_eq_append, ← List.cons_append, ← List.append_assoc] at heq
      exact hrounds before r' after (List.append_inj' heq rfl).1

theorem exists_idle (hexit : (gatewayRun policy startedAt now startup rounds).exit = none) :
    ∃ front, (gatewayRun policy startedAt now startup rounds).marks =
      front ++ [(false, (gatewayRun policy startedAt now startup rounds).idleSince)] := by
  rcases List.eq_nil_or_concat rounds with rfl | ⟨rounds, r, rfl⟩
  · cases startup with
    | badSinkFactory => cases hexit
    | secretUnavailable => cases hexit
    | ready scheme host => exact ⟨[], rfl⟩
  · rw [List.concat_eq_append, gatewayRun_concat] at hexit ⊢
    exact exists_idle_round hexit

/-- A run keeps the status fresh exactly when the pauses of all its rounds are short enough. -/
theorem gatewayRun_isChain_iff (hbeat : 0 < config.statusHeartbeatSeconds) (hstall : 0 < config.outputStallTimeoutSeconds)
    (hmax : config.statusHeartbeatSeconds + config.outputStallTimeoutSeconds + slack + slack ≤ maxAge)
    (htimely : EveryRound policy startedAt now startup rounds fun g r => r.Timely config slack g) :
    (gatewayRun policy startedAt now startup rounds).marks.IsChain (Mark.Fresh maxAge) ↔
      EveryRound policy startedAt now startup rounds fun g r => r.pause g ≤ maxAge := by
  induction rounds using List.reverseRecOn with
  | nil =>
    refine iff_of_true ?_ fun before r after h => by simp at h
    cases startup with
    | badSinkFactory => exact .singleton _
    | secretUnavailable => exact .singleton _
    | ready scheme host => exact .singleton _
  | append_singleton rounds r ih =>
    obtain ⟨hbefore, hlast⟩ := everyRound_concat.mp htimely
    rw [gatewayRun_concat, everyRound_concat, ← ih hbefore]
    by_cases hexit : (gatewayRun policy startedAt now startup rounds).exit = none
    · rw [round_isChain_iff hexit (exists_idle hexit) hbeat hstall hmax (hlast hexit)]
      exact and_congr_right fun _ => ⟨fun h _ => h, fun h => h hexit⟩
    · rw [round_of_ended hexit]
      exact ⟨fun h => ⟨h, fun hrunning => absurd hrunning hexit⟩, fun h => h.1⟩

/-- With the shipped timers and at most four failures in a row, the delay and an attempt are over in time. -/
theorem pause_le_of_failureCount_le (hexit : (gatewayRun .shipped startedAt now startup rounds).exit = none)
    (hfew : (gatewayRun .shipped startedAt now startup rounds).failureCount ≤ 4)
    (h : r.Timely .shipped slack (gatewayRun .shipped startedAt now startup rounds)) :
    r.pause (gatewayRun .shipped startedAt now startup rounds) ≤ 30 := by
  have hdelay : (gatewayRun .shipped startedAt now startup rounds).delay ≤ 48 / 5 := by
    rcases List.eq_nil_or_concat rounds with rfl | ⟨rounds, r, rfl⟩
    · cases startup with
      | badSinkFactory => cases hexit
      | secretUnavailable => cases hexit
      | ready scheme host => exact zero_le
    · rw [List.concat_eq_append, gatewayRun_concat] at hexit hfew ⊢
      obtain ⟨random, hok⟩ := EgressGateway.round_delay hexit
      refine (ReconnectPolicy.delayFor_le_base hok).trans ?_
      generalize (EgressGateway.round .shipped (gatewayRun .shipped startedAt now startup rounds) r).failureCount = n at hfew
      interval_cases n <;> decide +kernel
  unfold Round.pause
  cases hstop : r.stopBefore with
  | some waited => exact ((h.stop waited hstop).trans hdelay).trans (by decide +kernel)
  | none =>
    have hsilence := tsub_le_iff_left.mpr (h.connect hstop).2
    exact (add_le_add hdelay hsilence).trans (by decide +kernel)

theorem NeverStale.punctual (hmax : 0 < maxAge) (h : NeverStale str maxAge g) : Punctual maxAge g :=
  h.between.imp fun _ _ hfresh hages _ => (forall_not_readsStale_iff hmax).mp hfresh hages

/-- The greatest age that the reader allows by default. -/
def defaultMaxAgeSeconds : Timestamp := (30 : ℕ)

/-- The shipped timers let a connected attempt report in time. -/
theorem timers_le (hslack : slack ≤ 10) : AttemptConfig.shipped.statusHeartbeatSeconds +
    AttemptConfig.shipped.outputStallTimeoutSeconds + slack + slack ≤ defaultMaxAgeSeconds := by
  refine (add_le_add (add_le_add_right hslack _) hslack).trans ?_
  decide +kernel

/-- A gateway of which no more than four attempts in a row fail never has a stale status. -/
theorem status_fresh_of_few_failures (hslack : slack ≤ 10)
    (htimely : EveryRound .shipped startedAt now startup rounds fun g r => r.Timely .shipped slack g)
    (hfew : EveryRound .shipped startedAt now startup rounds fun g _ => g.failureCount ≤ 4) :
    NeverStale str defaultMaxAgeSeconds (gatewayRun .shipped startedAt now startup rounds) :=
  (neverStale_iff (by decide +kernel)).mpr
    ((gatewayRun_isChain_iff (by decide +kernel) (by decide +kernel) (timers_le hslack) htimely).mpr
      fun before r after heq hexit => pause_le_of_failureCount_le hexit (hfew before r after heq hexit)
        (htimely before r after heq hexit))

end

/-! ### Sample -/

namespace Sample

/-- An attempt that is refused at once. -/
def refused (t : Timestamp) : Round :=
  { stopBefore := none
    blocked := none
    attempt := ⟨[], ⟨"UNREACHABLE", false, 0, false, some "gst-resource-error-quark", some 5⟩⟩
    stopped := false
    ended := t
    random := 1 }

/-- The destination refuses every attempt, and the random numbers are all at their greatest. -/
def outage : List Timestamp := [0, 6, 18, 42, 90, 186, 366].map fun tick : ℕ => tick / (5 : ℕ)

end Sample

end IRLight.Egress
