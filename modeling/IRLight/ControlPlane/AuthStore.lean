import IRLight.Collections.Dict
import IRLight.Persistence.Disk
import IRLight.Python
import Mathlib.Data.String.Basic

/-! # Users and their sessions

`auth_store`: accounts with hashed passwords in one file, and the sessions of their logins in another. A session is found by
the digest of its token. `auth_session_gc` deletes sessions that have expired. -/

namespace IRLight
open Persistence

/-- What the code takes from the standard library. `pbkdf2` is the hash of a password with a salt. -/
structure AuthLib where
  lower : String → String
  pbkdf2 : String → String → String
  sha256 : String → String

namespace AuthStore

inductive AuthError where
  | authError (message : String)
  | emailAlreadyRegistered (email : String)
  | invalidCredentials (message : String)
  | stateError (message : String)
  | valueError (message : String)
  deriving DecidableEq

def unlocked : AuthError := .stateError "authentication state cannot be locked"

/-- What a validator refuses. -/
def refuse (bad : Prop) [Decidable bad] (message : String) : Except AuthError Unit :=
  if bad then .error (.stateError message) else .ok ()

/-- `_require_nonempty_string`. -/
def requireNonempty (value field context : String) : Except AuthError Unit :=
  refuse (value = "") s!"{context} has invalid {field}"

/-- `_validated_clock_now`. -/
def clockNow (reading : PyFloat) : Except AuthError Timestamp :=
  match reading with
  | .finite q => if h : 0 ≤ q then .ok ⟨q, h⟩ else .error (.stateError "authentication clock is invalid")
  | _ => .error (.stateError "authentication clock is invalid")

/-! ### The two files -/

/-- One of the two files: its path, what it holds at first, and its validator. Contents that are not acceptable JSON, or not of
    the right shape, are `none`. -/
structure Authority (α : Type) where
  path : String
  initial : α
  validate : α → Except AuthError Unit
  disappeared : String

/-- What a function does under the lock. -/
abbrev Body (α β : Type) := Option (Option α) → Bool → Except AuthError (Decision (Option α) β)

namespace Authority
variable {α β : Type} (authority : Authority α)

def unread : AuthError := .stateError s!"authentication state {authority.path} cannot be read"

/-- `read_json`, and the validator. -/
def read (file : Option (Option α)) (initialized : Bool) : Except AuthError α :=
  match file with
  | some (some value) => (authority.validate value).map fun () => value
  | some none => .error authority.unread
  | none =>
    if initialized then
      .error (.stateError s!"authentication state {authority.path} disappeared after initialization")
    else .ok authority.initial

/-- A function that reads the file, and writes it if it has changed the value. -/
def transact (f : α → Except AuthError (β × Option α)) : Body α β := fun file initialized => do
  let value ← authority.read file initialized
  match ← f value with
  | (b, none) => return .answer b
  | (b, some value) => return .write (some value) b

/-- The part of `ensure_auth_state` for this file. -/
def ensure : Body α Unit := fun file initialized =>
  match file with
  | some _ => do
    let _ ← authority.read file initialized
    return .mark ()
  | none =>
    if initialized then .error (.stateError authority.disappeared) else .ok (.write (some authority.initial) ())

/-- The disk after a call, and its answer. -/
def perform (disk : Disk (Option α)) (fault : Option Fault) (body : Body α β) : Except AuthError β × Disk (Option α) :=
  disk.perform fault unlocked authority.unread body

end Authority

/-! ### Accounts -/

structure PasswordHash where
  salt : String
  digest : String
  deriving DecidableEq

structure UserRecord where
  id : String
  email : String
  passwordHash : PasswordHash
  displayName : Option String
  role : String
  status : String
  createdAt : Timestamp
  updatedAt : Timestamp
  deriving DecidableEq

/-- `_public_user`: a record without its password. -/
structure PublicUser where
  id : String
  email : String
  displayName : Option String
  role : String
  status : String
  createdAt : Timestamp
  updatedAt : Timestamp
  deriving DecidableEq

def UserRecord.publicUser (u : UserRecord) : PublicUser :=
  ⟨u.id, u.email, u.displayName, u.role, u.status, u.createdAt, u.updatedAt⟩

structure Users where
  users : Dict String UserRecord
  emailIndex : Dict String String

/-- No account has this address. -/
def malformedEmail (email : String) : Bool :=
  '@' ∉ email.toList || email.toList.head? = some '@' || email.toList.getLast? = some '@'

section
variable (lib : AuthLib)

/-- `_normalize_email`. -/
def normalizeEmail (email : String) : String := lib.lower (strip email)

/-- What `_validate_users` asks of the record under a key. -/
def validateUser (state : Users) (userId : String) (user : UserRecord) : Except AuthError Unit := do
  refuse (userId = "") "user state has an invalid record"
  requireNonempty user.id "id" "user state record"
  requireNonempty user.email "email" "user state record"
  requireNonempty user.role "role" "user state record"
  refuse (user.role ≠ strip user.role) "user state record has invalid role"
  requireNonempty user.status "status" "user state record"
  refuse (user.status ≠ "active") "user state record has invalid status"
  refuse (user.updatedAt < user.createdAt) "user state record has invalid updated_at"
  refuse (user.id ≠ userId) "user state record id does not match its key"
  refuse (normalizeEmail lib user.email ≠ user.email ∨ malformedEmail user.email) "user state record has invalid email"
  refuse (state.emailIndex.get? user.email ≠ some userId) "user email index is inconsistent"

/-- `_validate_users`. -/
def validateUsers (state : Users) : Except AuthError Unit := do
  state.users.items.forM fun i => validateUser lib state i.1 i.2
  state.emailIndex.items.forM fun i =>
    refuse ((state.users.get? i.2).map (·.email) ≠ some i.1) "user email index is inconsistent"

/-- The file of the accounts. -/
def accounts : Authority Users where
  path := "/state/users.json"
  initial := ⟨.empty, .empty⟩
  validate := validateUsers lib
  disappeared := "user state disappeared after initialization"

/-- `_hash_password`. -/
def hashPassword (password salt : String) : PasswordHash := ⟨salt, lib.pbkdf2 password salt⟩

/-- `_verify_password`. -/
def verifyPassword (password : String) (stored : PasswordHash) : Bool := lib.pbkdf2 password stored.salt = stored.digest

/-- What a registration brings. The identifier and the salt are drawn at random. -/
structure Registration where
  email : String
  password : String
  displayName : Option String
  reading : PyFloat
  userId : String
  salt : String

/-- The record that `register_user` makes before it takes the lock. -/
def Registration.record (r : Registration) : Except AuthError UserRecord := do
  let normalized := normalizeEmail lib r.email
  if malformedEmail normalized then throw (.authError "invalid email address")
  if r.password.length < 8 then throw (.authError "password must be at least 8 characters")
  let now ← clockNow r.reading
  return { id := r.userId, email := normalized, passwordHash := hashPassword lib r.password r.salt
           displayName := r.displayName, role := "user", status := "active", createdAt := now, updatedAt := now }

/-- The accounts with one more. -/
def Users.add (state : Users) (user : UserRecord) : Users :=
  ⟨(state.users.set user.id user).sort fun i j => i.1 ≤ j.1, (state.emailIndex.set user.email user.id).sort fun i j => i.1 ≤ j.1⟩

/-- `register_user` under the lock. -/
def registerBody (user : UserRecord) (state : Users) : Except AuthError (PublicUser × Option Users) :=
  if (state.emailIndex.get? user.email).isSome then .error (.emailAlreadyRegistered user.email)
  else .ok (user.publicUser, some (state.add user))

/-- The account of an address. -/
def Users.byEmail (state : Users) (email : String) : Option UserRecord :=
  (state.emailIndex.get? email).bind fun userId => if userId = "" then none else state.users.get? userId

/-- `authenticate_user`. An address without an account has the password verified against a dummy hash, to no effect. -/
def authenticateBody (email password : String) (state : Users) : Except AuthError (PublicUser × Option Users) :=
  match state.byEmail (normalizeEmail lib email) with
  | some user =>
    if verifyPassword lib password user.passwordHash && user.status = "active" then .ok (user.publicUser, none)
    else .error (.invalidCredentials "invalid email or password")
  | none => .error (.invalidCredentials "invalid email or password")

/-- `get_user`. -/
def getUserBody (userId : String) (state : Users) : Except AuthError (Option PublicUser × Option Users) :=
  .ok ((state.users.get? userId).map UserRecord.publicUser, none)

end

/-! ### Sessions -/

structure AuthSession where
  userId : String
  csrfToken : String
  createdAt : Timestamp
  expiresAt : Timestamp
  deriving DecidableEq

abbrev Sessions := Dict String AuthSession

/-- The digest of a token: 64 lower-case hexadecimal digits. -/
def isTokenHash (hash : String) : Bool := hash.length = 64 && hash.toList.all (· ∈ "0123456789abcdef".toList)

def tokenUrlsafeChars : List Char := "ABCDEFGHIJKLMNOPQRSTUVWXYZabcdefghijklmnopqrstuvwxyz0123456789-_".toList

def csrfTokenLength : ℕ := (24 * 4 + 2) / 3

def isCsrfToken (token : String) : Bool := token.length = csrfTokenLength && token.toList.all (· ∈ tokenUrlsafeChars)

/-- What `_validate_sessions` asks of the record under a digest. -/
def validateSession (hash : String) (session : AuthSession) : Except AuthError Unit := do
  refuse (isTokenHash hash = false) "authentication session state has an invalid token hash"
  requireNonempty session.userId "user_id" "authentication session record"
  requireNonempty session.csrfToken "csrf_token" "authentication session record"
  refuse (isCsrfToken session.csrfToken = false) "authentication session record has invalid csrf_token"
  refuse (session.expiresAt < session.createdAt) "authentication session record has invalid expires_at"

/-- `_validate_sessions`. -/
def validateSessions (state : Sessions) : Except AuthError Unit := state.items.forM fun i => validateSession i.1 i.2

/-- The file of the sessions. -/
def logins : Authority Sessions where
  path := "/state/auth_sessions.json"
  initial := .empty
  validate := validateSessions
  disappeared := "authentication session state disappeared after initialization"

/-- `SESSION_TTL_SECONDS` of a login. -/
def sessionTtlSeconds : ℕ := 7 * 24 * 3600

/-- What `create_session` draws. -/
structure Draw where
  token : String
  csrfToken : String

/-- The session that `create_session` makes. -/
def newSession (userId : String) (draw : Draw) (now : Timestamp) : AuthSession :=
  ⟨userId, draw.csrfToken, now, now + sessionTtlSeconds⟩

section
variable (lib : AuthLib)

/-- `create_session` under the lock. -/
def createBody (hash : String) (session : AuthSession) (state : Sessions) : Except AuthError (AuthSession × Option Sessions) :=
  .ok (session, some ((state.set hash session).sort fun i j => i.1 ≤ j.1))

/-- `get_session_user` under the first lock. -/
def resolveBody (hash : String) (current : Timestamp) (state : Sessions) :
    Except AuthError (Option AuthSession × Option Sessions) :=
  .ok ((state.get? hash).filter (current < ·.expiresAt), none)

/-- `revoke_session` under the lock. -/
def revokeBody (hash : String) (state : Sessions) : Except AuthError (Unit × Option Sessions) :=
  .ok ((), if (state.get? hash).isSome then some ((state.erase hash).sort fun i j => i.1 ≤ j.1) else none)

end

/-! ### The deletion of expired sessions -/

structure PruneResult where
  scanned : ℕ
  deleted : ℕ
  expiredRemaining : ℕ
  dryRun : Bool
  deriving DecidableEq

def maxDeletionsPerRun : ℤ := 10000

/-- `_validated_now` of a time that was given, or shown by the clock. -/
def validatedNow (now : PyFloat) : Except AuthError Timestamp :=
  match now with
  | .finite q => if h : 0 ≤ q then .ok ⟨q, h⟩ else .error (.valueError "now must be a finite non-negative number")
  | _ => .error (.valueError "now must be a finite non-negative number")

/-- `_validated_max_deletions`. -/
def validatedMaxDeletions (value : ℤ) : Except AuthError ℕ :=
  if value ≤ 0 || maxDeletionsPerRun < value then .error (.valueError "max deletions must be between 1 and 10000")
  else .ok value.toNat

/-- Oldest first. -/
def OlderEq (i j : String × AuthSession) : Prop :=
  i.2.expiresAt < j.2.expiresAt ∨ i.2.expiresAt = j.2.expiresAt ∧ i.1 ≤ j.1

instance : DecidableRel OlderEq := fun _ _ => inferInstanceAs (Decidable (_ ∨ _))

/-- The sessions that have expired. -/
def expired (state : Sessions) (now : Timestamp) : Sessions := state.filter fun _ session => session.expiresAt ≤ now

/-- `_expired_token_hashes`: the oldest of them. -/
def expiredTokenHashes (state : Sessions) (now : Timestamp) (maxDeletions : ℕ) : List String :=
  (((expired state now).sort OlderEq).items.take maxDeletions).map Prod.fst

/-- `prune_expired_sessions` under the lock. -/
def pruneBody (now : Timestamp) (maxDeletions : ℕ) (dryRun : Bool) (state : Sessions) :
    Except AuthError (PruneResult × Option Sessions) :=
  let selected := expiredTokenHashes state now maxDeletions
  let expiredCount := (expired state now).size
  let result : PruneResult :=
    { scanned := state.size
      deleted := if dryRun then 0 else selected.length
      expiredRemaining := if dryRun then expiredCount else expiredCount - selected.length
      dryRun := dryRun }
  .ok (result,
    if selected = [] || dryRun then none
    else some ((state.filter fun hash _ => hash ∉ selected).sort fun i j => i.1 ≤ j.1))

/-! ### The Control API's users -/

/-- The two files, and the users that logins have verified but not given a session yet. -/
structure AuthSystem where
  users : Disk (Option Users)
  sessions : Disk (Option Sessions)
  authenticated : List PublicUser

/-- What happens to the files. A login is an `authenticate` and then the `issue` of a session for the user it has verified. A
    process that dies in a call is a fault of the call. -/
inductive Action where
  | ensure (usersFault sessionsFault : Option Fault)
  | register (registration : Registration) (fault : Option Fault)
  | authenticate (email password : String) (fault : Option Fault)
  | issue (login : ℕ) (reading : PyFloat) (draw : Draw) (fault : Option Fault)
  | logout (token : String) (fault : Option Fault)
  | prune (now : PyFloat) (maxDeletions : ℤ) (dryRun : Bool) (fault : Option Fault)
  | loss (usersBack sessionsBack : ℕ) (usersMarker sessionsMarker : Bool)
  | removeUsers
  | garbleUsers
  | removeSessions
  | garbleSessions

namespace AuthSystem
variable (lib : AuthLib)

def initial : AuthSystem := ⟨.initial, .initial, []⟩

/-- The answer of `register_user`, and the file after it. -/
def register (s : AuthSystem) (r : Registration) (fault : Option Fault) :
    Except AuthError PublicUser × Disk (Option Users) :=
  match r.record lib with
  | .error e => (.error e, s.users)
  | .ok user => (accounts lib).perform s.users fault ((accounts lib).transact (registerBody user))

/-- The answer of `authenticate_user`. -/
def authenticate (s : AuthSystem) (email password : String) (fault : Option Fault) : Except AuthError PublicUser :=
  ((accounts lib).perform s.users fault ((accounts lib).transact (authenticateBody lib email password))).1

/-- The answer of `get_user`. -/
def getUser (s : AuthSystem) (userId : String) (fault : Option Fault) : Except AuthError (Option PublicUser) :=
  ((accounts lib).perform s.users fault ((accounts lib).transact (getUserBody userId))).1

/-- The answer of `create_session`, and the file after it. -/
def issue (s : AuthSystem) (userId : String) (reading : PyFloat) (draw : Draw) (fault : Option Fault) :
    Except AuthError AuthSession × Disk (Option Sessions) :=
  match clockNow reading with
  | .error e => (.error e, s.sessions)
  | .ok now =>
    logins.perform s.sessions fault (logins.transact (createBody (lib.sha256 draw.token) (newSession userId draw now)))

/-- The answer of the part of `get_session_user` that reads the session. -/
def resolve (s : AuthSystem) (token : String) (reading : PyFloat) (fault : Option Fault) :
    Except AuthError (Option AuthSession) :=
  match clockNow reading with
  | .error e => .error e
  | .ok current => (logins.perform s.sessions fault (logins.transact (resolveBody (lib.sha256 token) current))).1

/-- The answer of `revoke_session`, and the file after it. -/
def logout (s : AuthSystem) (token : String) (fault : Option Fault) : Except AuthError Unit × Disk (Option Sessions) :=
  logins.perform s.sessions fault (logins.transact (revokeBody (lib.sha256 token)))

/-- The answer of `prune_expired_sessions`, and the file after it. -/
def prune (s : AuthSystem) (now : PyFloat) (maxDeletions : ℤ) (dryRun : Bool) (fault : Option Fault) :
    Except AuthError PruneResult × Disk (Option Sessions) :=
  match validatedNow now, validatedMaxDeletions maxDeletions with
  | .error e, _ | _, .error e => (.error e, s.sessions)
  | .ok now, .ok limit => logins.perform s.sessions fault (logins.transact (pruneBody now limit dryRun))

/-- `ensure_auth_state`: the sessions follow unless the accounts raise. -/
def ensure (s : AuthSystem) (usersFault sessionsFault : Option Fault) : AuthSystem :=
  let users := (accounts lib).perform s.users usersFault (accounts lib).ensure
  { s with
    users := users.2
    sessions := match users.1 with
      | .error _ => s.sessions
      | .ok () => (logins.perform s.sessions sessionsFault logins.ensure).2 }

def step (s : AuthSystem) : Action → AuthSystem
  | .ensure usersFault sessionsFault => s.ensure lib usersFault sessionsFault
  | .register r fault => { s with users := (s.register lib r fault).2 }
  | .authenticate email password fault =>
    { s with authenticated := s.authenticated ++ (s.authenticate lib email password fault).toOption.toList }
  | .issue login reading draw fault =>
    { s with sessions := match s.authenticated[login]? with
      | none => s.sessions
      | some user => (s.issue lib user.id reading draw fault).2 }
  | .logout token fault => { s with sessions := (s.logout lib token fault).2 }
  | .prune now maxDeletions dryRun fault => { s with sessions := (s.prune now maxDeletions dryRun fault).2 }
  | .loss usersBack sessionsBack usersMarker sessionsMarker =>
    ⟨s.users.loss usersBack usersMarker, s.sessions.loss sessionsBack sessionsMarker, []⟩
  | .removeUsers => { s with users := s.users.disturb none }
  | .garbleUsers => { s with users := s.users.disturb (some none) }
  | .removeSessions => { s with sessions := s.sessions.disturb none }
  | .garbleSessions => { s with sessions := s.sessions.disturb (some none) }

def run (s : AuthSystem) (actions : List Action) : AuthSystem := actions.foldl (step lib) s

/-- The state after some actions. -/
def after (actions : List Action) : AuthSystem := run lib .initial actions

/-- `get_session_user`: it reads the session in one state, and the account in a later one. -/
def getSessionUser (s s' : AuthSystem) (token : String) (reading : PyFloat) (fault fault' : Option Fault) :
    Except AuthError (Option (PublicUser × String)) := do
  match ← s.resolve lib token reading fault with
  | none => return none
  | some record =>
    match ← s'.getUser lib record.userId fault' with
    | none => return none
    | some user => return if user.status = "active" then some (user, record.csrfToken) else none

end AuthSystem
end AuthStore
end IRLight
