import IRLight.ControlPlane.Writes
import IRLight.ControlPlane.Conduct
import IRLight.ControlPlane.System

/-! # Which Node a Session is bound to

A bootstrap binds a Session to its Node, and no other operation changes the binding of a record, unless it
reports for a Node that the record is not yet bound to. Records are never deleted. -/

namespace IRLight
open Status SessionStore

/-- The binding of the Session `sid`, when there is one. -/
def SessionStore.binding? (s : SessionStore) (sid : String) : Option (Option String × Option String) :=
  (s.session? sid).map Session.binding

/-- The Session is bound to that boot of the Node. -/
def SessionStore.BoundTo (s : SessionStore) (sid nodeId bootId : String) : Prop :=
  s.binding? sid = some (some nodeId, some bootId)

theorem SessionStore.heard_binding (r : Session) (observed : Timestamp) (ready : Bool) :
    (heard r observed ready).binding = r.binding :=
  Session.binding_of_terms (heard_terms r observed ready)

/-- What a call does to the binding of the Session `sid`: it keeps it, binds the Session, or reports for a Node. -/
inductive StoreOp.Rebinds (sid : String) : StoreOp → Session → Session → Prop
  | keep {o : StoreOp} {r r' : Session} (same : r'.binding = r.binding) : Rebinds sid o r r'
  | bind {nodeId bootId server : String} {r r' : Session} (binding : r'.binding = (some nodeId, some bootId)) :
      Rebinds sid (.bindNode sid nodeId bootId server) r r'
  | ingest {nodeId : String} {types : List String} {o : IngestObservation} {t : Timestamp} {r r' : Session}
      (binding : r'.binding = (some nodeId, r.nodeBootId)) : Rebinds sid (.applyIngestObservation sid nodeId types o t) r r'
  | relay {nodeId : String} {types : List String} {o : RelayClientObservation} {r r' : Session}
      (binding : r'.binding = (some nodeId, r.nodeBootId)) : Rebinds sid (.applyRelayClientObservation sid nodeId types o) r r'

/-- A transaction commits at most one record: a new one that is bound to no Node, or a version of one. -/
inductive StoreOp.Puts (o : StoreOp) (s : SessionStore) : SessionStore → Prop
  | same {s' : SessionStore} (sessions : s'.sessions = s.sessions) : Puts o s s'
  | fresh {sid : String} {r' : Session} (new : s.session? sid = none) (unbound : r'.binding = (none, none)) :
      Puts o s (s.put sid r')
  | step {sid : String} {r r' : Session} (old : s.session? sid = some r) (rebinds : o.Rebinds sid r r') :
      Puts o s (s.put sid r')

theorem StoreOp.Rewrites.rebinds {o : StoreOp} {stable : Timestamp} {sid : String} {r r' : Session}
    (h : o.Rewrites stable sid r r') : o.Rebinds sid r r' := by
  have hkeep : r'.terms = r.terms → o.Rebinds sid r r' := fun h => .keep (Session.binding_of_terms h)
  cases h with
  | cancelled hu => exact hkeep (updateOf_terms hu r)
  | @checkpoint _ _ complete _ _ _ _ _ hu hadv =>
    refine hkeep (Eq.trans ?_ ((advanced_terms hadv).trans (updateOf_terms hu r)))
    cases complete <;> rfl
  | transition _ hu => exact hkeep (transitioned_terms hu r _ _)
  | transitionIfCurrent _ _ hu => exact hkeep (transitioned_terms hu r _ _)
  | update hu => exact hkeep (updateOf_terms hu r)
  | updateIfCurrent _ _ hu => exact hkeep ((audited_terms _ _ _).trans (updateOf_terms hu r))
  | bind => exact .bind rfl
  | hear => exact hkeep (heard_terms r _ _)
  | @ingest node types o current => exact .ingest (congrArg (·.2.2) (o.committed_terms r node types stable current))
  | @relay node types o observedAt now => exact .relay (congrArg (·.2.2) (relay_terms o r node types observedAt now))
  | _ => exact .keep rfl

theorem StoreOp.Makes.unbound {o : StoreOp} {sid : String} {r' : Session} (h : o.Makes sid r') :
    r'.binding = (none, none) := by
  cases h <;> rfl

theorem StoreOp.puts {o : StoreOp} {clock : ℕ → PyFloat} {fresh : Uuid} {s s' : SessionStore} {a : o.Res}
    (hrun : o.run clock fresh s = .ok (a, s')) : o.Puts s s' := by
  cases StoreOp.writes _ _ hrun with
  | same sessions => exact .same sessions
  | fresh new makes => exact .fresh new makes.unbound
  | step old rewrites => exact .step old rewrites.rebinds

end IRLight
