import IRLight.Collections.Dict
import IRLight.Persistence.Registers
import IRLight.Python
import Mathlib.Data.String.Basic

/-! # Entitlements

`EntitlementStore`: how many sessions a user may run at a time. A user without a record has the default limit. -/

namespace IRLight
open Persistence

namespace EntitlementStore

inductive EntitlementError where
  | stateError (message : String)
  | valueError (message : String)
  deriving DecidableEq

structure EntitlementRecord where
  id : String
  userId : String
  plan : String
  maxConcurrentSessions : ℕ
  updatedAt : Timestamp
  deriving DecidableEq

abbrev Entitlements := Dict String EntitlementRecord

def path : String := "/state/entitlements.json"

/-- `_require_nonempty_string`. -/
def requireNonempty (value field : String) : Except EntitlementError Unit :=
  if value = "" then .error (.stateError s!"entitlement record has invalid {field}") else .ok ()

def refuse (bad : Prop) [Decidable bad] (message : String) : Except EntitlementError Unit :=
  if bad then .error (.stateError message) else .ok ()

/-- What `_validate_entitlements` asks of the record under a user's identifier. -/
def validateRecord (userId : String) (record : EntitlementRecord) : Except EntitlementError Unit := do
  refuse (userId = "") "invalid entitlement state record"
  requireNonempty record.id "id"
  requireNonempty record.userId "user_id"
  requireNonempty record.plan "plan"
  refuse (strip record.plan = "") "entitlement record has invalid plan"
  refuse (record.userId ≠ userId) "entitlement record user_id does not match its key"
  refuse (record.id ≠ "user:" ++ userId) "entitlement record id does not match its user_id"

/-- The file of the entitlements. -/
def document : Document Entitlements EntitlementError where
  initial := .empty
  validate entitlements := entitlements.items.forM fun i => validateRecord i.1 i.2
  unlocked := .stateError s!"cannot lock entitlement state {path}"
  unread := .stateError s!"cannot read entitlement state {path}"
  invalid := .stateError s!"cannot read entitlement state {path}"
  disappeared := .stateError s!"entitlement state {path} disappeared after initialization"

/-- The arguments of a `set` that has checked them. -/
structure Grant where
  userId : String
  maxConcurrentSessions : ℕ
  plan : String
  reading : PyFloat
  user_ne : userId ≠ ""
  plan_ne : strip plan ≠ ""

/-- The part of `set` before the lock. -/
def grant (userId : String) (maxConcurrentSessions : ℤ) (plan : String) (reading : PyFloat) : Except EntitlementError Grant :=
  if hu : userId = "" then .error (.valueError "user_id must not be empty")
  else if maxConcurrentSessions < 0 then .error (.valueError "max_concurrent_sessions must be a non-negative integer")
  else if hp : strip plan = "" then .error (.valueError "plan must not be empty")
  else .ok ⟨userId, maxConcurrentSessions.toNat, plan, reading, hu, hp⟩

/-- The calls under the lock. The constructor only loads the file. -/
inductive EntitlementCall where
  | load
  | get (userId : String)
  | set (grant : Grant)

/-- What `get` answers. -/
structure Entitlement where
  id : String
  userId : String
  plan : String
  maxConcurrentSessions : ℕ
  updatedAt : Option Timestamp
  deriving DecidableEq

inductive EntitlementAnswer where
  | loaded
  | entitlement (e : Entitlement)
  | granted (e : Entitlement)
  deriving DecidableEq

def EntitlementRecord.entitlement (r : EntitlementRecord) : Entitlement :=
  ⟨r.id, r.userId, r.plan, r.maxConcurrentSessions, some r.updatedAt⟩

/-- `_normalize_timestamp` of the clock's reading. -/
def updatedAt : PyFloat → Except EntitlementError Timestamp
  | .finite q => if h : 0 ≤ q then .ok ⟨q, h⟩ else .error (.stateError "entitlement record has invalid updated_at")
  | _ => .error (.stateError "entitlement record has invalid updated_at")

/-- The record that a `set` stores. -/
def Grant.record (g : Grant) (now : Timestamp) : EntitlementRecord :=
  ⟨"user:" ++ g.userId, g.userId, g.plan, g.maxConcurrentSessions, now⟩

section
variable (defaultLimit : Except EntitlementError ℕ)

/-- What `get` answers for a user without a record. `defaultLimit` is `_default_limit`, which reads the environment. -/
def defaultEntitlement (userId : String) : Except EntitlementError Entitlement :=
  defaultLimit.map fun limit => ⟨"default:" ++ userId, userId, "default", limit, none⟩

/-- What a call does with the document. The file is written with sorted keys, after another validation. -/
def body (q : EntitlementCall) (entitlements : Entitlements) : Except EntitlementError EntitlementAnswer × Option Entitlements :=
  match q with
  | .load => (.ok .loaded, none)
  | .get userId =>
    match entitlements.get? userId with
    | none => ((defaultEntitlement defaultLimit userId).map .entitlement, none)
    | some record => (.ok (.entitlement record.entitlement), none)
  | .set g =>
    match updatedAt g.reading with
    | .error e => (.error e, none)
    | .ok now =>
      let written := (entitlements.set g.userId (g.record now)).sort fun i j => i.1 ≤ j.1
      match document.validate written with
      | .error e => (.error e, none)
      | .ok () => (.ok (.granted (g.record now).entitlement), some written)

/-- The answer says that the call has written. -/
def EntitlementAnswer.done : EntitlementAnswer → Bool
  | .granted _ => true
  | _ => false

/-- The plan and the limit of a user's record. -/
abbrev Terms := String × ℕ

/-- What a call sets a user's terms to. -/
def EntitlementCall.sets (userId : String) : EntitlementCall → Option (Option Terms)
  | .set g => if userId = g.userId then some (some (g.plan, g.maxConcurrentSessions)) else none
  | _ => none

/-- The store as registers: one for each user. -/
def registers : Registers Entitlements EntitlementError EntitlementCall EntitlementAnswer String (Option Terms) where
  document := document
  body := body defaultLimit
  done := EntitlementAnswer.done
  cell entitlements userId := (entitlements.get? userId).map fun r => (r.plan, r.maxConcurrentSessions)
  sets q userId := q.sets userId

abbrev Action := Registers.Action EntitlementCall

/-- The file after some calls, and these calls. -/
def after (actions : List Action) : Registers.Store Entitlements EntitlementCall := (registers defaultLimit).after actions

end
end EntitlementStore
end IRLight
