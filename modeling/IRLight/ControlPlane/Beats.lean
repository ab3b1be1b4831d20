import IRLight.ControlPlane.Conduct
import IRLight.Interleaving.Amid

/-! # The calls of a heartbeat

What a heartbeat does to the Session of its Node: the events that it appends to the Session's log, and what the Session
shows of the Node's egress and relay. -/

namespace IRLight
open Interleaving Status SessionStore

/-! ### The log -/

/-- Events of these types, appended one after the other, make the second log of the first. -/
inductive EventLog.Grows : EventLog → List String → EventLog → Prop
  | nil {log : EventLog} : Grows log [] log
  | append {log log' : EventLog} {types : List String} {type origin : String} {reason : Option String} {payload : Json}
      {t : Timestamp} (grown : Grows log types log') :
      Grows log (types ++ [type]) (log'.append type reason payload origin t)

theorem EventLog.Grows.trans {log log' log'' : EventLog} {types types' : List String} (h : log.Grows types log')
    (h' : log'.Grows types' log'') : log.Grows (types ++ types') log'' := by
  induction h' with
  | nil =>
    rw [List.append_nil]
    exact h
  | append _ ih =>
    rw [← List.append_assoc]
    exact ih.append

/-- The types of the events that a heartbeat derives from two observations. -/
def transitionTypes : List String :=
  ["ingest.connected", "ingest.reconnected", "ingest.disconnected", "ingest.format_detected", "ingest.rejected",
    "ingest.degraded", "ingest.recovered", "ingest.policy_changed", "egress.starting", "egress.connected",
    "egress.recovered", "egress.disconnected", "egress.reconnecting", "egress.auth_failed", "egress.failed",
    "egress.stopped", "relay.client.connected", "relay.client.reconnected", "relay.client.disconnected"]

/-- The record's log has grown by these derived events, and by others. -/
def Session.Grew (r r' : Session) (types : List String) : Prop :=
  ∃ all, r.log.Grows all r'.log ∧ all.filter (· ∈ transitionTypes) = types

namespace Session
variable {r r' r'' : Session} {types types' : List String}

theorem grew_of_log (h : r'.log = r.log) : r.Grew r' [] := ⟨[], h ▸ .nil, rfl⟩

theorem Grew.trans (h : r.Grew r' types) (h' : r'.Grew r'' types') : r.Grew r'' (types ++ types') := by
  obtain ⟨all, hgrows, rfl⟩ := h
  obtain ⟨all', hgrows', rfl⟩ := h'
  exact ⟨all ++ all', hgrows.trans hgrows', List.filter_append ..⟩

/-! ### What the Session shows of its Node -/

/-- The status, the connection and the last reason of the egress. -/
def egressView (r : Session) : Option String × Bool × Option String := (r.egressStatus, r.egressConnected, r.egressLastReason)

/-- The status, the number of readers and the last reason of the relay. -/
def relayView (r : Session) : Option String × ℕ × Option String :=
  (r.relayClientStatus, r.relayClientReaderCount, r.relayClientLastReason)

def views (r : Session) : (Option String × Bool × Option String) × (Option String × ℕ × Option String) :=
  (r.egressView, r.relayView)

end Session

def EgressObservation.view (o : EgressObservation) : Option String × Bool × Option String := (some o.status, o.connected, o.reasonCode)

def SessionStore.RelayClientObservation.view (o : RelayClientObservation) : Option String × ℕ × Option String :=
  (some o.status, o.readerCount, o.reasonCode)

section
variable {r r' : Session} {types : List String} {node type origin : String} {reason : Option String} {payload : Json}
  {stable current now observedAt : Timestamp}

theorem Session.grew_append : r.Grew (r.appendEventLocked type reason payload origin now) ([type].filter (· ∈ transitionTypes)) :=
  ⟨[type], EventLog.Grows.nil.append, rfl⟩

theorem Session.grew_quiet (h : type ∉ transitionTypes) : r.Grew (r.appendEventLocked type reason payload origin now) [] := by
  have hgrew : r.Grew (r.appendEventLocked type reason payload origin now) ([type].filter (· ∈ transitionTypes)) := grew_append
  rw [List.filter_singleton, decide_eq_false h] at hgrew
  exact hgrew

/-- One event of each type is appended. -/
theorem foldl_grew {f : Session → String → Session}
    (hf : ∀ r type, r.Grew (f r type) ([type].filter (· ∈ transitionTypes)) ∧ (f r type).views = r.views) (types : List String)
    (r : Session) : r.Grew (types.foldl f r) (types.filter (· ∈ transitionTypes)) ∧ (types.foldl f r).views = r.views := by
  induction types generalizing r with
  | nil => exact ⟨Session.grew_of_log rfl, rfl⟩
  | cons type types ih =>
    obtain ⟨hgrew, hviews⟩ := ih (f r type)
    refine ⟨?_, hviews.trans (hf r type).2⟩
    rw [← List.singleton_append, List.filter_append]
    exact (hf r type).1.trans hgrew

namespace SessionStore.IngestObservation
variable (o : IngestObservation)

/-- An observation's own moves are no transitions of the ingest. -/
theorem decide_event {new : Status} {event : String} (h : (o.decide r stable current).1 = some (new, event, reason)) :
    event ∉ transitionTypes := by
  have hnames : event ∈ ["session.recovered", "session.holding", "session.degraded", "session.live"] → event ∉ transitionTypes := by
    simp only [List.mem_cons, List.not_mem_nil, or_false]
    rintro (rfl | rfl | rfl | rfl) <;> decide
  refine hnames ?_
  unfold decide at h
  split at h
  · split at h
    · cases h
    · dsimp only at h
      split at h
      · obtain ⟨-, h⟩ := Prod.mk.inj (Option.some.inj h)
        obtain ⟨rfl, -⟩ := Prod.mk.inj h
        simp
      · cases h
  · unfold target at h
    dsimp only at h
    split at h
    · split at h
      · split at h
        · obtain ⟨-, h⟩ := Prod.mk.inj (Option.some.inj h)
          obtain ⟨rfl, -⟩ := Prod.mk.inj h
          simp
        · cases h
      · obtain ⟨-, h⟩ := Prod.mk.inj (Option.some.inj h)
        obtain ⟨rfl, -⟩ := Prod.mk.inj h
        simp
    · split at h
      · obtain ⟨-, h⟩ := Prod.mk.inj (Option.some.inj h)
        obtain ⟨rfl, -⟩ := Prod.mk.inj h
        simp
      · split at h
        · obtain ⟨-, h⟩ := Prod.mk.inj (Option.some.inj h)
          obtain ⟨rfl, -⟩ := Prod.mk.inj h
          split <;> simp
        · split at h
          · obtain ⟨-, h⟩ := Prod.mk.inj (Option.some.inj h)
            obtain ⟨rfl, -⟩ := Prod.mk.inj h
            simp
          · cases h

theorem advance_grew (r : Session) (node : String) (stable current : Timestamp) :
    r.Grew (o.advance r node stable current) [] ∧ (o.advance r node stable current).views = r.views := by
  have hdecide : (o.decide r stable current).2.log = r.log ∧ (o.decide r stable current).2.views = r.views := by
    unfold decide
    split
    · split
      · exact ⟨rfl, rfl⟩
      · dsimp only
        unfold Session.recoveryCandidateReady
        split
        · split <;> exact ⟨rfl, rfl⟩
        · exact ⟨rfl, rfl⟩
    · exact ⟨rfl, rfl⟩
  have hstamp : ∀ (r : Session) new, (o.stamp r new current).log = r.log ∧ (o.stamp r new current).views = r.views := by
    intro r new
    unfold stamp
    split
    · exact ⟨rfl, rfl⟩
    · split <;> exact ⟨rfl, rfl⟩
  unfold advance
  dsimp only
  split
  · rename_i new event reason hmove
    split
    · refine ⟨?_, (hstamp _ _).2.trans hdecide.2⟩
      have hlog : (o.stamp ({ (o.decide r stable current).2 with status := new } : Session).clearRecoveryCandidate new
          current).log = r.log := (hstamp _ _).1.trans hdecide.1
      exact (Session.grew_of_log hlog).trans (Session.grew_quiet (o.decide_event hmove))
    · split <;> exact ⟨Session.grew_of_log hdecide.1, hdecide.2⟩
  · split <;> exact ⟨Session.grew_of_log hdecide.1, hdecide.2⟩

/-- The record that an ingest observation commits. -/
theorem committed_grew (r : Session) (node : String) (types : List String) (stable current : Timestamp) :
    r.Grew { o.advance (o.appendEvents r node types current) node stable current with
        nodeId := some node, updatedAt := current } (types.filter (· ∈ transitionTypes)) ∧
      ({ o.advance (o.appendEvents r node types current) node stable current with
        nodeId := some node, updatedAt := current } : Session).views = r.views := by
  obtain ⟨happended, hviews⟩ := foldl_grew (f := fun r eventType => r.appendEventLocked eventType
    (if eventType ∈ ["ingest.rejected", "ingest.degraded"] then o.reasons.head?.map (clip 100) else none)
    (.obj (o.payload node)) "node-agent" current) (fun _ _ => ⟨Session.grew_append, rfl⟩) types r
  obtain ⟨hadvanced, hviews'⟩ := o.advance_grew (o.appendEvents r node types current) node stable current
  have hgrew := happended.trans hadvanced
  rw [List.append_nil] at hgrew
  exact ⟨hgrew, hviews'.trans hviews⟩

end SessionStore.IngestObservation

/-- The record that a relay observation commits. -/
theorem relay_grew (o : RelayClientObservation) (r : Session) (node : String) (types : List String)
    (observedAt now : Timestamp) : r.Grew (o.record r node types observedAt now) (types.filter (· ∈ transitionTypes)) ∧
      (o.record r node types observedAt now).views = (r.egressView, o.view) := by
  obtain ⟨happended, hviews⟩ := foldl_grew (f := fun r eventType =>
    r.appendEventLocked eventType o.reasonCode (o.payload node) "node-agent" now)
    (fun _ _ => ⟨Session.grew_append, rfl⟩) types r
  exact ⟨happended, congrArg (fun v => (v.1, o.view)) hviews⟩

end

/-! ### One call -/

/-- A heartbeat's call, of the Node and for the Session. -/
def Op.OfBeat (nodeId sid : String) : Op → Prop
  | .readAuthority | .time | .writeAuthority _ | .store (.get _) => True
  | .store (.recordNodeHeartbeat sid' _ _ _ _) | .store (.appendEvent sid' _ _ _ _ _) => sid' = sid
  | .store (.applyIngestObservation sid' nodeId' _ _ _) | .store (.applyRelayClientObservation sid' nodeId' _ _) =>
    sid' = sid ∧ nodeId' = nodeId
  | .store (.update sid' changes) => sid' = sid ∧ ∃ status connected reason t, changes = [.egress status connected reason t]
  | .store (.transition sid' new _ changes) => sid' = sid ∧ new = failedCleanup ∧
    ∃ reason code, changes = [.cleanupPending true, .failureReason reason, .failureReasonCode code]
  | _ => False

/-- The Session takes what its Node reports. -/
def Session.Bound (nodeId : String) (r : Session) : Prop := r.status ∈ activeStates ∧ r.nodeId = some nodeId

section
variable (i : ℕ) (sid : String) (c : Made Op Input World)

/-- Whether the call found the Session active. -/
def foundActive : Bool := (c.state.store.session? sid).any (·.status ∈ activeStates)

/-- The derived events that the call appends to the Session's log. -/
def posts : List String :=
  if (c.result World.exec i).isOk then
    match c.op with
    | .store (.appendEvent _ type _ _ _ _) => [type].filter (· ∈ transitionTypes)
    | .store (.applyIngestObservation _ _ types _ _) | .store (.applyRelayClientObservation _ _ types _) =>
      if foundActive sid c then types.filter (· ∈ transitionTypes) else []
    | _ => []
  else []

/-- What the Session shows of the Node after the call, when it showed `views` before. -/
def shows (views : (Option String × Bool × Option String) × (Option String × ℕ × Option String)) :
    (Option String × Bool × Option String) × (Option String × ℕ × Option String) :=
  if (c.result World.exec i).isOk then
    match c.op with
    | .store (.update _ [.egress status connected reason _]) => ((some status, connected, reason), views.2)
    | .store (.applyRelayClientObservation _ _ _ o) => if foundActive sid c then (views.1, o.view) else views
    | _ => views
  else views

end

/-- What a heartbeat's call does to the record of the Session. -/
structure CallEffect (i : ℕ) (nodeId sid : String) (c : Made Op Input World) (r r' : Session) : Prop where
  grew : r.Grew r' (posts i sid c)
  views : r'.views = shows i sid c r.views
  bound : (∀ new allowed changes, c.op ≠ .store (.transition sid new allowed changes)) → r.Bound nodeId → r'.Bound nodeId

section
variable {i : ℕ} {nodeId sid : String} {c : Made Op Input World} {r : Session}

theorem CallEffect.of {types : List String} {r' : Session}
    {views : (Option String × Bool × Option String) × (Option String × ℕ × Option String)} (hposts : posts i sid c = types)
    (hshows : shows i sid c r.views = views) (hgrew : r.Grew r' types) (hviews : r'.views = views)
    (hbound : (∀ new allowed changes, c.op ≠ .store (.transition sid new allowed changes)) → r.Bound nodeId → r'.Bound nodeId) :
    CallEffect i nodeId sid c r r' where
  grew := hposts ▸ hgrew
  views := hviews.trans hshows.symm
  bound := hbound

/-- A call that was refused, or only looked. -/
theorem CallEffect.same (hposts : posts i sid c = []) (hshows : shows i sid c r.views = r.views) : CallEffect i nodeId sid c r r where
  grew := hposts ▸ Session.grew_of_log rfl
  views := hshows.symm
  bound _ h := h

/-- A call that raised changes nothing. -/
theorem after_of_error (h : ¬(c.result World.exec i).isOk) : (c.after World.exec i).store = c.state.store := by
  obtain ⟨o, x, w⟩ := c
  by_cases hstore : ∃ so, o = .store so
  · obtain ⟨so, rfl⟩ := hstore
    rcases World.exec_store_cases i so x w with ⟨a, s', -, -, hexec⟩ | ⟨e, hexec, -⟩
    · refine absurd ?_ h
      rw [Made.result, hexec]
      rfl
    · rw [Made.after, hexec]
  · exact World.exec_other fun so he => hstore ⟨so, he⟩

theorem foundActive_eq (hr : c.state.store.session? sid = some r) : foundActive sid c = decide (r.status ∈ activeStates) := by
  unfold foundActive
  rw [hr]
  rfl

theorem heard_effect {observed : Timestamp} {ready : Bool} :
    (heard r observed ready).log = r.log ∧ (heard r observed ready).views = r.views ∧
      (r.Bound nodeId → (heard r observed ready).Bound nodeId) := by
  unfold heard
  dsimp only
  have hready : readyWaitIngest ∈ activeStates := by decide
  split
  · exact ⟨rfl, rfl, fun h => ⟨hready, h.2⟩⟩
  · exact ⟨rfl, rfl, id⟩

theorem transitioned_effect {new : Status} {now : Timestamp} {context : String} {reason code : String} {update : Session → Session}
    (hu : updateOf context [.cleanupPending true, .failureReason reason, .failureReasonCode code] = .ok update) :
    (transitioned r update new now).log = r.log ∧ (transitioned r update new now).views = r.views := by
  obtain rfl := Except.ok.inj hu
  unfold transitioned
  dsimp only
  split <;> exact ⟨rfl, rfl⟩

theorem active_of_running {s : Status} (h : s.phase = 3) : s ∈ activeStates := by
  cases s <;> first | decide | exact absurd h (by decide)

/-- An observation of the ingest leaves an active Session active. -/
theorem committed_bound {o : IngestObservation} {types : List String} {stable current : Timestamp} (h : r.Bound nodeId) :
    ({ o.advance (o.appendEvents r nodeId types current) nodeId stable current with
      nodeId := some nodeId, updatedAt := current } : Session).Bound nodeId := by
  refine ⟨?_, rfl⟩
  rcases o.committed_spec r nodeId types stable current with hsame | ⟨new, -, hphase, hsame⟩
  · rw [hsame.status]
    exact h.1
  · rw [hsame.status]
    exact active_of_running hphase

theorem call_effect (hop : c.op.OfBeat nodeId sid) (hr : c.state.store.session? sid = some r) :
    ∃ r', (c.after World.exec i).store.session? sid = some r' ∧ CallEffect i nodeId sid c r r' := by
  by_cases hok : (c.result World.exec i).isOk
  · obtain ⟨a, ha⟩ : ∃ a, c.result World.exec i = .ok a := by
      cases hres : c.result World.exec i with
      | ok a => exact ⟨a, rfl⟩
      | error e =>
        rw [hres] at hok
        cases hok
    obtain ⟨o, x, w⟩ := c
    have hsame (hposts : posts i sid ⟨o, x, w⟩ = []) (hshows : shows i sid ⟨o, x, w⟩ r.views = r.views)
        (hafter : ((⟨o, x, w⟩ : Made Op Input World).after World.exec i).store = w.store) :
        ∃ r', ((⟨o, x, w⟩ : Made Op Input World).after World.exec i).store.session? sid = some r' ∧
          CallEffect i nodeId sid ⟨o, x, w⟩ r r' := by
      rw [hafter]
      exact ⟨r, hr, .same hposts hshows⟩
    have hput {r' : Session} (hafter : ((⟨o, x, w⟩ : Made Op Input World).after World.exec i).store = w.store.put sid r')
        (heffect : CallEffect i nodeId sid ⟨o, x, w⟩ r r') :
        ∃ r', ((⟨o, x, w⟩ : Made Op Input World).after World.exec i).store.session? sid = some r' ∧
          CallEffect i nodeId sid ⟨o, x, w⟩ r r' := by
      rw [hafter]
      exact ⟨r', session?_put_self, heffect⟩
    cases o with
    | readAuthority => exact hsame (if_pos hok) (if_pos hok) (World.exec_other fun so he => by cases he)
    | time => exact hsame (if_pos hok) (if_pos hok) (World.exec_other fun so he => by cases he)
    | writeAuthority => exact hsame (if_pos hok) (if_pos hok) (World.exec_other fun so he => by cases he)
    | store so =>
      have hrun := World.exec_store_ok ha
      cases so with
      | get sid' => exact hsame (if_pos hok) (if_pos hok) (Prod.mk.inj (Except.ok.inj hrun)).2.symm
      | recordNodeHeartbeat sid' node boot observed ready =>
        obtain rfl := hop
        rcases effect_recordNodeHeartbeat hrun with ⟨-, hafter, -⟩ | ⟨-, r₀, hr₀, -, -, -, -, hafter⟩
        · exact hsame (if_pos hok) (if_pos hok) hafter
        · obtain rfl := Option.some.inj (hr₀.symm.trans hr)
          obtain ⟨hlog, hviews, hbound⟩ := @heard_effect nodeId r₀ observed ready
          exact hput hafter (.of (if_pos hok) (if_pos hok) (Session.grew_of_log hlog) hviews fun _ => hbound)
      | appendEvent sid' type reason payload origin occurred =>
        obtain rfl := hop
        obtain ⟨r₀, now, hr₀, hafter⟩ := effect_appendEvent hrun
        obtain rfl := Option.some.inj (hr₀.symm.trans hr)
        exact hput hafter (.of (if_pos hok) (if_pos hok) Session.grew_append rfl fun _ => id)
      | applyIngestObservation sid' node types observation occurred =>
        obtain ⟨rfl, rfl⟩ := hop
        obtain ⟨r₀, hr₀, ⟨hst, hafter⟩ | ⟨hst, hafter⟩⟩ := effect_applyIngestObservation hrun
        · obtain rfl := Option.some.inj (hr₀.symm.trans hr)
          have hfound := (foundActive_eq hr₀).trans (decide_eq_false hst)
          exact hsame ((if_pos hok).trans (if_neg (Bool.not_eq_true _ ▸ hfound))) (if_pos hok) hafter
        · obtain rfl := Option.some.inj (hr₀.symm.trans hr)
          have hfound := (foundActive_eq hr₀).trans (decide_eq_true hst)
          obtain ⟨hgrew, hviews⟩ := observation.committed_grew r₀ node types w.store.recoveryStableSeconds occurred
          exact hput hafter (.of ((if_pos hok).trans (if_pos hfound)) (if_pos hok) hgrew hviews fun _ => committed_bound)
      | applyRelayClientObservation sid' node types observation =>
        obtain ⟨rfl, rfl⟩ := hop
        obtain ⟨r₀, hr₀, ⟨hst, hafter⟩ | ⟨hst, observedAt, now, hafter⟩⟩ := effect_applyRelayClientObservation hrun
        · obtain rfl := Option.some.inj (hr₀.symm.trans hr)
          have hfound := (foundActive_eq hr₀).trans (decide_eq_false hst)
          have hfound := Bool.not_eq_true _ ▸ hfound
          exact hsame ((if_pos hok).trans (if_neg hfound)) ((if_pos hok).trans (if_neg hfound)) hafter
        · obtain rfl := Option.some.inj (hr₀.symm.trans hr)
          have hfound := (foundActive_eq hr₀).trans (decide_eq_true hst)
          obtain ⟨hgrew, hviews⟩ := relay_grew observation r₀ node types observedAt now
          refine hput hafter (.of ((if_pos hok).trans (if_pos hfound)) ((if_pos hok).trans (if_pos hfound)) hgrew hviews
            fun _ hbound => ⟨?_, rfl⟩)
          rw [(relay_same observation r₀ node types observedAt now).status]
          exact hst
      | update sid' changes =>
        obtain ⟨rfl, status, connected, reason, t, rfl⟩ := hop
        obtain ⟨r₀, update, now, hr₀, hu, rfl, hafter⟩ := effect_update hrun
        obtain rfl := Option.some.inj (hr₀.symm.trans hr)
        obtain rfl := Except.ok.inj hu
        exact hput hafter (.of (if_pos hok) (if_pos hok) (Session.grew_of_log rfl) rfl fun _ => id)
      | transition sid' new allowed changes =>
        obtain ⟨rfl, rfl, reason, code, rfl⟩ := hop
        obtain ⟨r₀, update, now, hr₀, -, hu, rfl, hafter⟩ := effect_transition hrun
        obtain rfl := Option.some.inj (hr₀.symm.trans hr)
        obtain ⟨hlog, hviews⟩ := @transitioned_effect r₀ failedCleanup now _ _ _ _ hu
        exact hput hafter (.of (if_pos hok) (if_pos hok) (Session.grew_of_log hlog) hviews fun hne => absurd rfl (hne _ _ _))
      | _ => cases hop
    | _ => cases hop
  · rw [after_of_error hok]
    exact ⟨r, hr, .same (if_neg hok) (if_neg hok)⟩

end
end IRLight
