import IRLight.ControlPlane.Operations
import IRLight.Session.Leases

/-! # The records that calls commit

A call of the store commits at most one record: a new one, or a version of one that it found. `Makes` and
`Rewrites` list these records, so that what holds of every call is a case analysis of them. -/

namespace IRLight
open Status SessionStore

/-- The new record of the Session `sid` that a call may commit. -/
inductive StoreOp.Makes (sid : String) : StoreOp → Session → Prop
  | create {user : String} {env : Environment} {now : Timestamp} :
      Makes sid (.create sid user env) (newSession sid user env .directPush now)
  | reserve {user ent : String} {env : Environment} {max : ℤ} {t now : Timestamp} :
      Makes sid (.reservePrepareSlot sid user env ent max) (reserved (newSession sid user env .directPush t) ent now)
  | begin {user ent key : String} {request : PrepareRequest} {max : ℤ} {t now : Timestamp} :
      Makes sid (.beginPrepare sid user request ent max key)
        (bound (newSession sid user request.environment request.egressMode t) request ent key now)

/-- What a call may make of the record `r` of the Session `sid`, with the guards that it passed. -/
inductive StoreOp.Rewrites (stable : Timestamp) (sid : String) (r : Session) : StoreOp → Session → Prop
  | reserve {user ent : String} {env : Environment} {max : ℤ} {now : Timestamp} :
      Rewrites stable sid r (.reservePrepareSlot sid user env ent max) (reserved r ent now)
  | begin {user ent key : String} {request : PrepareRequest} {max : ℤ} {now : Timestamp} (hu : r.userId = user)
      (hst : r.status ∉ [finished, failed]) (hkey : r.idempotencyKey = none) :
      Rewrites stable sid r (.beginPrepare sid user request ent max key) (bound r request ent key now)
  | claim {op : Uuid} {started : PyFloat} {t now : Timestamp} (hst : r.status ∈ [stopped, provisioning, bootstrapping]) :
      Rewrites stable sid r (.claimProvisioning sid op started) (claimed r op t now)
  | cancelled {op : Uuid} {next : Option Status} {complete : Bool} {changes : List Change} {context : String}
      {update : Session → Session} {now : Timestamp} (hu : updateOf context changes = .ok update) :
      Rewrites stable sid r (.provisioningCheckpoint sid op next complete changes) { update r with updatedAt := now }
  | checkpoint {op : Uuid} {next : Option Status} {complete : Bool} {changes : List Change} {context : String}
      {update : Session → Session} {r₁ : Session} {now : Timestamp} (hu : updateOf context changes = .ok update)
      (hadv : advanced (update r) next = .ok r₁) :
      Rewrites stable sid r (.provisioningCheckpoint sid op next complete changes)
        { (if complete then completed r₁ else r₁) with updatedAt := now }
  | stop {now : Timestamp} : Rewrites stable sid r (.requestStop sid) (stopRequested r now)
  | stopIfCurrent {expected : Status} {fields : List Expected} {now : Timestamp} (hst : r.status = expected)
      (hm : r.matchesFields fields) :
      Rewrites stable sid r (.requestStopIfCurrent sid expected fields) (stopRequested r now)
  | transition {new : Status} {allowed : List Status} {changes : List Change} {context : String}
      {update : Session → Session} {now : Timestamp} (hst : r.status ∈ allowed)
      (hu : updateOf context changes = .ok update) :
      Rewrites stable sid r (.transition sid new allowed changes) (transitioned r update new now)
  | transitionIfCurrent {new : Status} {allowed : List Status} {fields : List Expected} {changes : List Change}
      {context : String} {update : Session → Session} {now : Timestamp} (hst : r.status ∈ allowed)
      (hm : r.matchesFields fields) (hu : updateOf context changes = .ok update) :
      Rewrites stable sid r (.transitionIfCurrent sid new allowed fields changes) (transitioned r update new now)
  | update {changes : List Change} {context : String} {update : Session → Session} {now : Timestamp}
      (hu : updateOf context changes = .ok update) :
      Rewrites stable sid r (.update sid changes) { update r with updatedAt := now }
  | updateIfCurrent {expected : Status} {fields : List Expected} {event : Option EventDraft} {changes : List Change}
      {context : String} {update : Session → Session} {now : Timestamp} (hst : r.status = expected)
      (hm : r.matchesFields fields) (hu : updateOf context changes = .ok update) :
      Rewrites stable sid r (.updateIfCurrent sid expected fields event changes) (audited (update r) event now)
  | append {type origin : String} {reason : Option String} {payload : Json} {occurred : Option Timestamp} {now : Timestamp} :
      Rewrites stable sid r (.appendEvent sid type reason payload origin occurred)
        { r.appendEventLocked type reason payload origin now with updatedAt := now }
  | command {mode : AudioMode} {version : ℕ} {key operator : String} {fresh : Uuid} {now : Timestamp} :
      Rewrites stable sid r (.setAudioDesired sid mode version key operator) (commanded r mode key operator fresh now)
  | bind {node boot server : String} {now : Timestamp} (hst : r.status ∈ activeStates) :
      Rewrites stable sid r (.bindNode sid node boot server) (nodeBound r node boot now)
  | hear {node boot : String} {observed : Timestamp} {ready : Bool} (hst : r.status ∈ activeStates)
      (hnode : r.nodeId = some node) (hboot : r.nodeBootId = some boot) (hlast : ∀ t ∈ r.nodeLastHeartbeatAt, t ≤ observed) :
      Rewrites stable sid r (.recordNodeHeartbeat sid node boot observed ready) (heard r observed ready)
  | ingest {node : String} {types : List String} {o : IngestObservation} {current : Timestamp} (hst : r.status ∈ activeStates) :
      Rewrites stable sid r (.applyIngestObservation sid node types o current)
        { o.advance (o.appendEvents r node types current) node stable current with
          nodeId := some node, updatedAt := current }
  | relay {node : String} {types : List String} {o : RelayClientObservation} {observedAt now : Timestamp}
      (hst : r.status ∈ activeStates) :
      Rewrites stable sid r (.applyRelayClientObservation sid node types o) (o.record r node types observedAt now)

/-- What a call leaves of the records. -/
inductive StoreOp.Writes (o : StoreOp) (s : SessionStore) : SessionStore → Prop
  | same {s' : SessionStore} (sessions : s'.sessions = s.sessions)
      (stable : s'.recoveryStableSeconds = s.recoveryStableSeconds) : Writes o s s'
  | fresh {sid : String} {r' : Session} (new : s.session? sid = none) (makes : o.Makes sid r') : Writes o s (s.put sid r')
  | step {sid : String} {r r' : Session} (old : s.session? sid = some r)
      (rewrites : o.Rewrites s.recoveryStableSeconds sid r r') : Writes o s (s.put sid r')

/-- Every call commits one of these records, or none. -/
theorem StoreOp.writes {o : StoreOp} (clock : ℕ → PyFloat) (fresh : Uuid) {s s' : SessionStore} {a : o.Res}
    (hrun : o.run clock fresh s = .ok (a, s')) : o.Writes s s' := by
  cases o with
  | get sid =>
    obtain ⟨_, rfl⟩ := Prod.mk.inj (Except.ok.inj hrun)
    exact .same rfl rfl
  | create sid user env =>
    rcases effect_create hrun with ⟨_, rfl⟩ | ⟨hr, now, rfl, rfl⟩
    · exact .same rfl rfl
    · exact .fresh hr .create
  | reservePrepareSlot sid user env ent max =>
    rcases effect_reservePrepareSlot hrun with
      ⟨r₀, hr, _, ⟨_, _, rfl⟩ | ⟨_, _, now, rfl, rfl⟩⟩ | ⟨hr, _, t, now, rfl, rfl⟩
    · exact .same rfl rfl
    · exact .step hr .reserve
    · exact .fresh hr .reserve
  | beginPrepare sid user request ent max key =>
    obtain ⟨r, replay⟩ := a
    rcases effect_beginPrepare hrun with ⟨_, _, _, _, rfl⟩ | ⟨_, _, r₀, now, rfl, rfl, ⟨hr, hu, hst, hkey⟩ | ⟨hr, t, rfl⟩⟩
    · exact .same rfl rfl
    · exact .step hr (.begin hu hst hkey)
    · exact .fresh hr .begin
  | getPrepareReplay sid user request key =>
    obtain ⟨_, _, h⟩ := map_eq_ok.mp hrun
    obtain ⟨_, rfl⟩ := Prod.mk.inj h
    exact .same rfl rfl
  | authoritativeSnapshot =>
    obtain ⟨_, _, h⟩ := map_eq_ok.mp hrun
    obtain ⟨_, rfl⟩ := Prod.mk.inj h
    exact .same rfl rfl
  | findByProviderServerId server states =>
    obtain ⟨_, rfl⟩ := Prod.mk.inj (Except.ok.inj hrun)
    exact .same rfl rfl
  | sessionsInStates states =>
    obtain ⟨_, rfl⟩ := Prod.mk.inj (Except.ok.inj hrun)
    exact .same rfl rfl
  | claimProvisioning sid op started =>
    obtain ⟨r₀, t, now, hr, hst, _, rfl, rfl⟩ := effect_claimProvisioning hrun
    exact .step hr (.claim hst)
  | provisioningCheckpoint sid op next complete changes =>
    obtain ⟨r₀, update, now, hr, _, hu, rfl, ⟨_, rfl⟩ | ⟨_, r₁, hadv, rfl⟩⟩ := effect_provisioningCheckpoint hrun
    · exact .step hr (.cancelled hu)
    · exact .step hr (.checkpoint hu hadv)
  | requestStop sid =>
    obtain ⟨r₀, hr, ⟨_, _, rfl⟩ | ⟨_, now, rfl, rfl⟩⟩ := effect_requestStop hrun
    · exact .same rfl rfl
    · exact .step hr .stop
  | requestStopIfCurrent sid expected fields =>
    rcases effect_requestStopIfCurrent hrun with ⟨_, rfl⟩ | ⟨r₀, now, hr, hst, hm, _, rfl⟩
    · exact .same rfl rfl
    · exact .step hr (.stopIfCurrent hst hm)
  | transition sid new allowed changes =>
    obtain ⟨r₀, update, now, hr, hst, hu, rfl, rfl⟩ := effect_transition hrun
    exact .step hr (.transition hst hu)
  | transitionIfCurrent sid new allowed fields changes =>
    rcases effect_transitionIfCurrent hrun with ⟨_, rfl⟩ | ⟨r₀, update, now, hr, hst, hm, hu, _, rfl⟩
    · exact .same rfl rfl
    · exact .step hr (.transitionIfCurrent hst hm hu)
  | update sid changes =>
    obtain ⟨r₀, update, now, hr, hu, rfl, rfl⟩ := effect_update hrun
    exact .step hr (.update hu)
  | updateIfCurrent sid expected fields event changes =>
    rcases effect_updateIfCurrent hrun with ⟨_, rfl⟩ | ⟨r₀, update, now, hr, hst, hm, hu, _, rfl⟩
    · exact .same rfl rfl
    · exact .step hr (.updateIfCurrent hst hm hu)
  | appendEvent sid type reason payload origin occurred =>
    obtain ⟨r₀, now, hr, rfl⟩ := effect_appendEvent hrun
    exact .step hr .append
  | setAudioDesired sid mode version key operator =>
    rcases effect_setAudioDesired hrun with rfl | ⟨r₀, now, hr, rfl⟩
    · exact .same rfl rfl
    · exact .step hr .command
  | bindNode sid node boot server =>
    obtain ⟨r₀, now, hr, hst, _, rfl, rfl⟩ := effect_bindNode hrun
    exact .step hr (.bind hst)
  | recordNodeHeartbeat sid node boot observed ready =>
    rcases effect_recordNodeHeartbeat hrun with ⟨_, rfl, _⟩ | ⟨_, r₀, hr, hst, hnode, hboot, hlast, rfl⟩
    · exact .same rfl rfl
    · exact .step hr (.hear hst hnode hboot hlast)
  | applyIngestObservation sid node types observation occurred =>
    obtain ⟨r₀, hr, ⟨_, rfl⟩ | ⟨hst, rfl⟩⟩ := effect_applyIngestObservation hrun
    · exact .same rfl rfl
    · exact .step hr (.ingest hst)
  | applyRelayClientObservation sid node types observation =>
    obtain ⟨r₀, hr, ⟨_, rfl⟩ | ⟨hst, observedAt, now, rfl⟩⟩ := effect_applyRelayClientObservation hrun
    · exact .same rfl rfl
    · exact .step hr (.relay hst)
  | claimOrphanCleanup sid resource kind =>
    rcases effect_claimOrphanCleanup hrun with ⟨_, rfl⟩ | ⟨_, ⟨_, now, scope, _, rfl⟩, _⟩ <;> exact .same rfl rfl
  | claimSessionCleanup sid =>
    rcases effect_claimSessionCleanup hrun with ⟨_, rfl⟩ | ⟨_, ⟨_, now, scope, _, rfl⟩, _⟩ <;> exact .same rfl rfl
  | orphanCleanupStillOwned sid lease =>
    obtain ⟨_, _, h⟩ := map_eq_ok.mp hrun
    obtain ⟨_, rfl⟩ := Prod.mk.inj h
    exact .same rfl rfl
  | sessionCleanupStillOwned sid lease =>
    obtain ⟨_, _, h⟩ := map_eq_ok.mp hrun
    obtain ⟨_, rfl⟩ := Prod.mk.inj h
    exact .same rfl rfl
  | releaseOrphanCleanup sid lease =>
    obtain ⟨_, hr, h⟩ := map_eq_ok.mp hrun
    obtain ⟨_, rfl⟩ := Prod.mk.inj h
    rcases effect_releaseOrphanCleanup hr with rfl | ⟨_, rfl⟩ <;> exact .same rfl rfl
  | releaseSessionCleanup sid lease =>
    obtain ⟨_, hr, h⟩ := map_eq_ok.mp hrun
    obtain ⟨_, rfl⟩ := Prod.mk.inj h
    rcases effect_releaseSessionCleanup hr with rfl | ⟨_, rfl⟩ <;> exact .same rfl rfl

section
variable {o : StoreOp} {s s' : SessionStore} {sid : String} {r' : Session}

/-- Where the record of a Session comes from. -/
theorem StoreOp.Writes.record (h : o.Writes s s') (hr' : s'.session? sid = some r') :
    s.session? sid = some r' ∨ s.session? sid = none ∧ o.Makes sid r' ∨
      ∃ r, s.session? sid = some r ∧ o.Rewrites s.recoveryStableSeconds sid r r' := by
  cases h with
  | same sessions =>
    rw [session?, sessions] at hr'
    exact Or.inl hr'
  | fresh new makes =>
    rcases session?_put hr' with ⟨rfl, rfl⟩ | hold
    · exact Or.inr (Or.inl ⟨new, makes⟩)
    · exact Or.inl hold
  | step old rewrites =>
    rcases session?_put hr' with ⟨rfl, rfl⟩ | hold
    · exact Or.inr (Or.inr ⟨_, old, rewrites⟩)
    · exact Or.inl hold

theorem StoreOp.Writes.recoveryStableSeconds (h : o.Writes s s') : s'.recoveryStableSeconds = s.recoveryStableSeconds := by
  cases h with
  | same _ stable => exact stable
  | fresh => rfl
  | step => rfl

end

/-- The store that a call leaves. An exception changes nothing. -/
def SessionStore.after {α : Type} (s : SessionStore) : Except Exc (α × SessionStore) → SessionStore
  | .ok (_, s') => s'
  | .error _ => s

theorem SessionStore.after_eq {α : Type} {s : SessionStore} {x : Except Exc (α × SessionStore)} (h : x.isOk) :
    ∃ a, x = .ok (a, s.after x) := by
  cases x with
  | error e => cases h
  | ok p => exact ⟨p.1, rfl⟩

/-- A field that no single change touches is kept by the whole update. -/
theorem updateOf_keeps {α : Type} {field : Session → α} {context : String} {changes : List Change}
    {update : Session → Session}
    (hfield : ∀ c ∈ changes, ∀ g, c.update context = .ok g → ∀ r, field (g r) = field r)
    (h : updateOf context changes = .ok update) (r : Session) : field (update r) = field r := by
  induction changes generalizing update r with
  | nil =>
    obtain rfl := Except.ok.inj h
    rfl
  | cons c changes ih =>
    obtain ⟨f, hf, h⟩ := bind_eq_ok.mp h
    obtain ⟨g, hg, h⟩ := bind_eq_ok.mp h
    obtain rfl := pure_eq_ok.mp h
    have hrest := ih (fun c hc => hfield c (List.mem_cons_of_mem _ hc)) hg (f r)
    exact hrest.trans (hfield c List.mem_cons_self f hf r)

/-! ### What most calls keep -/

namespace Session

/-- The Node that the Session is bound to, and the Node's boot. -/
def binding (r : Session) : Option String × Option String := (r.nodeId, r.nodeBootId)

/-- The prepare request that the Session is bound to, its idempotency key, and the fields that repeat it. -/
def prepared (r : Session) : Option String × Option PrepareRequest × PrepareRequest :=
  (r.idempotencyKey, r.prepareRequest,
    { environment := r.environment, destinationId := r.destinationId, egressMode := r.egressMode })

/-- What has its own calls to change it. -/
def terms (r : Session) : MediaControlAudio × (Option String × Option PrepareRequest × PrepareRequest) ×
    (Option String × Option String) :=
  (r.audio, r.prepared, r.binding)

variable {r r' : Session}

theorem audio_of_terms (h : r'.terms = r.terms) : r'.audio = r.audio := congrArg Prod.fst h
theorem prepared_of_terms (h : r'.terms = r.terms) : r'.prepared = r.prepared := congrArg (·.2.1) h
theorem binding_of_terms (h : r'.terms = r.terms) : r'.binding = r.binding := congrArg (·.2.2) h

end Session

theorem updateOf_terms {context : String} {changes : List Change} {update : Session → Session}
    (h : updateOf context changes = .ok update) (r : Session) : (update r).terms = r.terms := by
  refine updateOf_keeps (fun c _ g hg r => ?_) h r
  cases c with
  | readyAt v =>
    obtain ⟨t, _, hg⟩ := bind_eq_ok.mp hg
    obtain rfl := pure_eq_ok.mp hg
    rfl
  | _ =>
    obtain rfl := Except.ok.inj hg
    rfl

namespace SessionStore

theorem advanced_terms {r r' : Session} {next : Option Status} (h : advanced r next = .ok r') : r'.terms = r.terms := by
  cases next with
  | none =>
    obtain rfl := Except.ok.inj h
    rfl
  | some next =>
    obtain ⟨_, _, h⟩ := bind_eq_ok.mp h
    obtain rfl := pure_eq_ok.mp h
    rfl

theorem transitioned_terms {context : String} {changes : List Change} {update : Session → Session}
    (h : updateOf context changes = .ok update) (r : Session) (new : Status) (now : Timestamp) :
    (transitioned r update new now).terms = r.terms := by
  unfold transitioned
  split <;> exact updateOf_terms h r

theorem audited_terms (r : Session) (event : Option EventDraft) (now : Timestamp) : (audited r event now).terms = r.terms := by
  cases event <;> rfl

theorem heard_terms (r : Session) (observed : Timestamp) (ready : Bool) : (heard r observed ready).terms = r.terms := by
  unfold heard
  dsimp only
  split <;> rfl

theorem foldl_terms {f : Session → String → Session} (hf : ∀ (r : Session) (e : String), (f r e).terms = r.terms)
    (types : List String) (r : Session) : (types.foldl f r).terms = r.terms := by
  induction types generalizing r with
  | nil => rfl
  | cons e types ih => exact (ih (f r e)).trans (hf r e)

theorem relay_terms (o : RelayClientObservation) (r : Session) (node : String) (types : List String)
    (observedAt now : Timestamp) :
    (o.record r node types observedAt now).terms = (r.audio, r.prepared, (some node, r.nodeBootId)) := by
  have h := foldl_terms (f := fun r eventType =>
    r.appendEventLocked eventType o.reasonCode (o.payload node) "node-agent" now) (fun _ _ => rfl) types r
  exact congrArg (fun t => (t.1, t.2.1, (some node, t.2.2.2))) h

namespace IngestObservation

theorem appendEvents_terms (o : IngestObservation) (r : Session) (node : String) (types : List String)
    (current : Timestamp) : (o.appendEvents r node types current).terms = r.terms := by
  unfold appendEvents
  apply foldl_terms
  intro r e
  rfl

theorem advance_terms (o : IngestObservation) (r : Session) (node : String) (stable current : Timestamp) :
    (o.advance r node stable current).terms = r.terms := by
  have hdecide : (o.decide r stable current).2.terms = r.terms := by
    unfold decide
    split
    · split
      · rfl
      · dsimp only
        unfold Session.recoveryCandidateReady
        split
        · split <;> rfl
        · rfl
    · rfl
  have hstamp : ∀ (r : Session) target, (o.stamp r target current).terms = r.terms := by
    intro r target
    unfold stamp
    split
    · rfl
    · split <;> rfl
  unfold advance
  dsimp only
  split
  · split
    · exact (hstamp _ _).trans hdecide
    · split <;> exact hdecide
  · split <;> exact hdecide

/-- The record that an ingest observation commits names the observation's Node. -/
theorem committed_terms (o : IngestObservation) (r : Session) (node : String) (types : List String)
    (stable current : Timestamp) :
    ({ o.advance (o.appendEvents r node types current) node stable current with
      nodeId := some node, updatedAt := current } : Session).terms = (r.audio, r.prepared, (some node, r.nodeBootId)) := by
  have h := (o.advance_terms (o.appendEvents r node types current) node stable current).trans
    (o.appendEvents_terms r node types current)
  exact congrArg (fun t => (t.1, t.2.1, (some node, t.2.2.2))) h

end IngestObservation
end SessionStore

/-- The call is an audio command for the Session. -/
def StoreOp.commands (sid : String) : StoreOp → Bool
  | setAudioDesired sid' _ _ _ _ => sid' = sid
  | _ => false

/-- The call may bind the Session to a prepare request. -/
def StoreOp.prepares (sid : String) : StoreOp → Bool
  | beginPrepare sid' _ _ _ _ _ => sid' = sid
  | _ => false

section
variable {o : StoreOp} {stable : Timestamp} {sid : String} {r r' : Session}

/-- What a call keeps of the audio command, of the prepare request and of the Node. -/
theorem StoreOp.Rewrites.terms (hw : o.Rewrites stable sid r r') :
    (o.commands sid = false → r'.audio = r.audio) ∧ (o.prepares sid = false → r'.prepared = r.prepared) := by
  have hkept : r'.terms = r.terms → (o.commands sid = false → r'.audio = r.audio) ∧
      (o.prepares sid = false → r'.prepared = r.prepared) := fun h =>
    ⟨fun _ => Session.audio_of_terms h, fun _ => Session.prepared_of_terms h⟩
  cases hw with
  | cancelled hu => exact hkept (updateOf_terms hu r)
  | @checkpoint _ _ complete _ _ _ _ _ hu hadv =>
    refine hkept (Eq.trans ?_ ((advanced_terms hadv).trans (updateOf_terms hu r)))
    cases complete <;> rfl
  | transition _ hu => exact hkept (transitioned_terms hu r _ _)
  | transitionIfCurrent _ _ hu => exact hkept (transitioned_terms hu r _ _)
  | update hu => exact hkept (updateOf_terms hu r)
  | updateIfCurrent _ _ hu => exact hkept ((audited_terms _ _ _).trans (updateOf_terms hu r))
  | hear => exact hkept (heard_terms r _ _)
  | @ingest node types o current =>
    have h := o.committed_terms r node types stable current
    exact ⟨fun _ => congrArg Prod.fst h, fun _ => congrArg (·.2.1) h⟩
  | @relay node types o observedAt now =>
    have h := relay_terms o r node types observedAt now
    exact ⟨fun _ => congrArg Prod.fst h, fun _ => congrArg (·.2.1) h⟩
  | begin => exact ⟨fun _ => rfl, fun h => by simp [prepares] at h⟩
  | command => exact ⟨fun h => by simp [commands] at h, fun _ => rfl⟩
  | _ => exact ⟨fun _ => rfl, fun _ => rfl⟩

/-- No call removes a record. -/
theorem StoreOp.Writes.isSome {s s' : SessionStore} (h : o.Writes s s') (hs : (s.session? sid).isSome) :
    (s'.session? sid).isSome := by
  have hput : ∀ sid' (r' : Session), ((s.put sid' r').session? sid).isSome := by
    intro sid' r'
    by_cases he : sid = sid'
    · rw [he, session?_put_self]
      rfl
    · rw [session?_put_ne he]
      exact hs
  cases h with
  | same sessions =>
    rw [session?, sessions]
    exact hs
  | fresh => exact hput _ _
  | step => exact hput _ _

end

end IRLight
