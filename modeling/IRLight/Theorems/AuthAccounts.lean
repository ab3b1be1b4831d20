import IRLight.ControlPlane.AuthTransactions
import IRLight.Persistence.Registers
import Mathlib.Data.List.Nodup

/-! # Accounts

In every run an address has one account. An account that was acknowledged stays as it is, and its password lets its owner in:
through faults in any call, processes that die and losses of power. -/

namespace IRLight.AuthStore
open Persistence

@[simp] theorem refuse_eq_ok {bad : Prop} [Decidable bad] {message : String} {u : Unit} :
    refuse bad message = .ok u ↔ ¬bad := by
  unfold refuse
  split <;> simp_all

section
variable {lib : AuthLib} {state state' : Users} {user user' : UserRecord} {userId : String} {r : Registration}
  {d d' : Disk (Option Users)} {fault : Option Fault}

/-! ### Valid accounts -/

/-- What a record must be, whatever else is in the file. -/
structure UserRecord.Sound (lib : AuthLib) (user : UserRecord) : Prop where
  id : user.id ≠ ""
  email : user.email ≠ ""
  role : user.role ≠ ""
  stripped : user.role = strip user.role
  active : user.status = "active"
  times : user.createdAt ≤ user.updatedAt
  normal : normalizeEmail lib user.email = user.email
  wellFormed : malformedEmail user.email = false

theorem validateUser_iff : validateUser lib state userId user = .ok () ↔
    user.Sound lib ∧ user.id = userId ∧ state.emailIndex.get? user.email = some userId := by
  simp only [validateUser, bind_eq_ok, requireNonempty, refuse_eq_ok, exists_const]
  constructor
  · rintro ⟨-, hid, hemail, hrole, hstripped, -, hactive, htimes, hkey, hvalid, hindex⟩
    rw [not_or, not_not] at hvalid
    refine ⟨⟨hid, hemail, hrole, not_not.mp hstripped, not_not.mp hactive, not_lt.mp htimes, hvalid.1, ?_⟩, not_not.mp hkey,
      not_not.mp hindex⟩
    exact Bool.eq_false_iff.mpr hvalid.2
  · rintro ⟨hsound, rfl, hindex⟩
    refine ⟨hsound.id, hsound.id, hsound.email, hsound.role, not_not.mpr hsound.stripped, ?_, not_not.mpr hsound.active,
      not_lt.mpr hsound.times, not_not.mpr rfl, ?_, not_not.mpr hindex⟩
    · rw [hsound.active]
      decide
    · rintro (h | h)
      · exact h hsound.normal
      · rw [hsound.wellFormed] at h
        cases h

/-- Keys and addresses belong together. -/
structure Users.Valid (lib : AuthLib) (state : Users) : Prop where
  records : ∀ userId user, state.users.get? userId = some user →
    user.Sound lib ∧ user.id = userId ∧ state.emailIndex.get? user.email = some userId
  index : ∀ email userId, state.emailIndex.get? email = some userId →
    ∃ user, state.users.get? userId = some user ∧ user.email = email

theorem validateUsers_iff : validateUsers lib state = .ok () ↔ state.Valid lib := by
  unfold validateUsers
  rw [bind_eq_ok]
  constructor
  · rintro ⟨_, hrecords, hindex⟩
    rw [forM_ok] at hrecords hindex
    refine ⟨fun userId user huser => ?_, fun email userId hemail => ?_⟩
    · exact validateUser_iff.mp (hrecords (userId, user) (Dict.get?_eq_some.mp huser))
    · have h := refuse_eq_ok.mp (hindex (email, userId) (Dict.get?_eq_some.mp hemail))
      exact Option.map_eq_some_iff.mp (not_not.mp h)
  · rintro ⟨hrecords, hindex⟩
    refine ⟨(), forM_ok.mpr ?_, forM_ok.mpr ?_⟩
    · rintro ⟨userId, user⟩ huser
      exact validateUser_iff.mpr (hrecords userId user (Dict.get?_eq_some.mpr huser))
    · rintro ⟨email, userId⟩ hemail
      exact refuse_eq_ok.mpr (not_not.mpr (Option.map_eq_some_iff.mpr (hindex email userId (Dict.get?_eq_some.mpr hemail))))

/-- The account is in the file, and its address leads to it. -/
structure Users.Has (state : Users) (user : UserRecord) : Prop where
  record : state.users.get? user.id = some user
  email : state.emailIndex.get? user.email = some user.id

/-! ### A registration -/

@[simp] theorem Users.get?_add (state : Users) (user : UserRecord) (userId : String) :
    (state.add user).users.get? userId = if userId = user.id then some user else state.users.get? userId := by
  unfold Users.add
  rw [Dict.get?_sort]
  split
  · rename_i h
    rw [h, Dict.get?_set_self]
  · rename_i h
    rw [Dict.get?_set_ne h]

@[simp] theorem Users.emailIndex_add (state : Users) (user : UserRecord) (email : String) :
    (state.add user).emailIndex.get? email = if email = user.email then some user.id else state.emailIndex.get? email := by
  unfold Users.add
  rw [Dict.get?_sort]
  split
  · rename_i h
    rw [h, Dict.get?_set_self]
  · rename_i h
    rw [Dict.get?_set_ne h]

/-- A new account with a new identifier and a new address leaves the file valid. -/
theorem Users.Valid.add (h : state.Valid lib) (hsound : user.Sound lib) (hid : state.users.get? user.id = none)
    (hemail : state.emailIndex.get? user.email = none) : (state.add user).Valid lib := by
  refine ⟨fun userId user' huser' => ?_, fun email userId hindex => ?_⟩
  · rw [Users.get?_add] at huser'
    rw [Users.emailIndex_add]
    split at huser'
    · rename_i hsame
      obtain rfl := Option.some.inj huser'
      exact ⟨hsound, hsame.symm, by rw [if_pos rfl, hsame]⟩
    · obtain ⟨hsound', hid', hindex'⟩ := h.records userId user' huser'
      refine ⟨hsound', hid', ?_⟩
      rw [if_neg fun hsame => ?_]
      · exact hindex'
      · rw [hsame, hemail] at hindex'
        cases hindex'
  · rw [Users.emailIndex_add] at hindex
    rw [Users.get?_add]
    split at hindex
    · rename_i hsame
      obtain rfl := Option.some.inj hindex
      exact ⟨user, if_pos rfl, hsame.symm⟩
    · obtain ⟨user', huser', hemail'⟩ := h.index email userId hindex
      refine ⟨user', ?_, hemail'⟩
      rw [if_neg fun hsame => ?_]
      · exact huser'
      · rw [hsame, hid] at huser'
        cases huser'

theorem Users.Has.add (h : state.Has user') (hid : user.id ≠ user'.id) (hemail : state.emailIndex.get? user.email = none) :
    (state.add user).Has user' := by
  constructor
  · rw [Users.get?_add, if_neg fun hsame => hid hsame.symm]
    exact h.record
  · rw [Users.emailIndex_add, if_neg fun hsame => ?_]
    · exact h.email
    · rw [← hsame, h.email] at hemail
      cases hemail

theorem Users.has_add (state : Users) (user : UserRecord) : (state.add user).Has user :=
  ⟨by rw [Users.get?_add, if_pos rfl], by rw [Users.emailIndex_add, if_pos rfl]⟩

theorem record_ok (h : r.record lib = .ok user) :
    user.id = r.userId ∧ user.email = normalizeEmail lib r.email ∧ user.passwordHash = hashPassword lib r.password r.salt ∧
      (r.userId ≠ "" → normalizeEmail lib user.email = user.email → user.Sound lib) := by
  unfold Registration.record at h
  by_cases hemail : malformedEmail (normalizeEmail lib r.email) = true
  · rw [if_pos hemail] at h
    cases h
  · rw [if_neg hemail] at h
    by_cases hpassword : r.password.length < 8
    · rw [if_pos hpassword] at h
      cases h
    · rw [if_neg hpassword] at h
      obtain ⟨now, _, h⟩ := bind_eq_ok.mp h
      obtain rfl := Except.ok.inj h
      refine ⟨rfl, rfl, rfl, fun hid hnormal => ?_⟩
      have hwellFormed : malformedEmail (normalizeEmail lib r.email) = false := Bool.eq_false_iff.mpr hemail
      refine ⟨hid, fun hempty => ?_, ?_, ?_, rfl, le_rfl, hnormal, hwellFormed⟩
      · change normalizeEmail lib r.email = "" at hempty
        rw [hempty] at hwellFormed
        revert hwellFormed
        decide
      · change "user" ≠ ""
        decide
      · change "user" = strip "user"
        decide

theorem registerBody_ok {b : PublicUser} {written : Option Users} (h : registerBody user state = .ok (b, written)) :
    state.emailIndex.get? user.email = none ∧ b = user.publicUser ∧ written = some (state.add user) := by
  unfold registerBody at h
  split at h
  · cases h
  · rename_i hemail
    obtain ⟨rfl, rfl⟩ := Prod.mk.inj (Except.ok.inj h)
    exact ⟨Option.not_isSome_iff_eq_none.mp hemail, rfl, rfl⟩

theorem byEmail_of_has (hhas : state.Has user) (hid : user.id ≠ "") : state.byEmail user.email = some user := by
  unfold Users.byEmail
  rw [hhas.email]
  change (if user.id = "" then none else state.users.get? user.id) = some user
  rw [if_neg hid]
  exact hhas.record

end

/-! ### What an action does to the file -/

namespace Action

/-- The identifier that a registration draws. -/
def userId? : Action → Option String
  | .register r _ => some r.userId
  | _ => none

/-- The action is not one of somebody else on the accounts. -/
def keepsUsers : Action → Bool
  | .removeUsers | .garbleUsers => false
  | _ => true

end Action

/-- The identifiers that a run draws. -/
def userIds (actions : List Action) : List String := actions.filterMap Action.userId?

namespace AuthSystem
variable {lib : AuthLib} {s : AuthSystem} {a : Action} {actions before between : List Action} {user user' : UserRecord}
  {r : Registration} {d d' : Disk (Option Users)} {fault : Option Fault} {ids : List String}

/-- What an action does to the file of the accounts. -/
inductive UsersChange (lib : AuthLib) (a : Action) (d : Disk (Option Users)) : Disk (Option Users) → Prop
  | ensured {d' : Disk (Option Users)} (ensures : (accounts lib).Ensures d d') : UsersChange lib a d d'
  | registered {r : Registration} {fault : Option Fault} {user : UserRecord} {d' : Disk (Option Users)}
      (registers : a = .register r fault) (record : r.record lib = .ok user)
      (effect : (accounts lib).Effect d (registerBody user) d') : UsersChange lib a d d'
  | lost (back : ℕ) (marker : Bool) : UsersChange lib a d (d.loss back marker)
  | disturbed {x : Option (Option Users)} (by_other : a.keepsUsers = false) (nothing : (accounts lib).shown x = none) :
      UsersChange lib a d (d.disturb x)

theorem UsersChange.same : UsersChange lib a d d := .ensured (.marked (some false))

theorem step_users (s : AuthSystem) (a : Action) : UsersChange lib a s.users (step lib s a).users := by
  cases a with
  | ensure usersFault sessionsFault => exact .ensured ((accounts lib).ensure_ensures s.users usersFault)
  | register r fault =>
    change UsersChange lib _ s.users (s.register lib r fault).2
    unfold register
    cases hrecord : r.record lib with
    | error e => exact .same
    | ok user => exact .registered rfl hrecord ((accounts lib).transact_effect s.users fault _)
  | authenticate email password fault => exact .same
  | issue login reading draw fault => exact .same
  | logout token fault => exact .same
  | prune now maxDeletions dryRun fault => exact .same
  | loss usersBack sessionsBack usersMarker sessionsMarker => exact .lost usersBack usersMarker
  | removeUsers => exact .disturbed rfl rfl
  | garbleUsers => exact .disturbed rfl rfl
  | removeSessions => exact .same
  | garbleSessions => exact .same

theorem UsersChange.armed (h : UsersChange lib a d d') (hd : d.Armed) : d'.Armed := by
  cases h with
  | ensured ensures =>
    cases ensures with
    | marked fault => exact hd.markUntil fault
    | created _ _ fault => exact hd.write _ fault
  | registered _ _ effect => exact effect.armed hd
  | lost back marker => exact hd.loss back marker
  | disturbed => exact hd.disturb _

/-! ### Where accounts come from -/

/-- The accounts of the file have identifiers that were drawn. -/
def Drawn (lib : AuthLib) (ids : List String) (d : Disk (Option Users)) : Prop :=
  d.Shows fun x => ∀ state, (accounts lib).shown x = some state → ∀ userId user, state.users.get? userId = some user → userId ∈ ids

theorem Drawn.mono {ids' : List String} (h : Drawn lib ids d) (hsub : ids ⊆ ids') : Drawn lib ids' d :=
  Disk.Shows.mono h fun _ hx state hstate userId user huser => hsub (hx state hstate userId user huser)

/-- What a function reads from a file shows no account of another identifier. -/
theorem Drawn.read {state : Users} (h : Drawn lib ids d) (hread : (accounts lib).read d.file d.marker = .ok state) {userId : String}
    (huser : state.users.get? userId = some user) : userId ∈ ids := by
  rcases Authority.read_ok hread with hshown | ⟨_, _, hinitial⟩
  · exact h.file state hshown userId user huser
  · rw [hinitial] at huser
    cases huser

theorem Drawn.change (h : Drawn lib ids d) (hchange : UsersChange lib a d d') : Drawn lib (ids ++ a.userId?.toList) d' := by
  have hmono := h.mono (List.subset_append_left ids a.userId?.toList)
  cases hchange with
  | ensured ensures =>
    cases ensures with
    | marked fault => exact Disk.Shows.markUntil hmono fault
    | created _ _ fault =>
      refine Disk.Shows.write hmono ?_ fault
      intro state hstate userId user huser
      obtain ⟨-, rfl⟩ := Authority.shown_some.mp hstate
      cases huser
  | @registered r _ user _ registers record effect =>
    refine effect.shows hmono fun state b state' hread hbody => ?_
    intro state'' hstate userId user' huser'
    obtain ⟨-, rfl⟩ := Authority.shown_some.mp hstate
    obtain ⟨-, -, hwritten⟩ := registerBody_ok hbody
    obtain rfl := Option.some.inj hwritten
    rw [Users.get?_add] at huser'
    split at huser'
    · rename_i hsame
      refine List.mem_append_right ids ?_
      rw [registers, hsame, (record_ok record).1]
      exact List.mem_singleton_self r.userId
    · exact List.mem_append_left _ (h.read hread huser')
  | lost back marker => exact Disk.Shows.loss hmono back marker
  | disturbed _ nothing =>
    refine Disk.Shows.disturb hmono ?_
    intro state hstate
    rw [nothing] at hstate
    cases hstate

theorem after_append_cons (before : List Action) (a : Action) (between : List Action) :
    after lib (before ++ a :: between) = run lib (step lib (after lib before) a) between := List.foldl_append

theorem userIds_cons (a : Action) (actions : List Action) : userIds (a :: actions) = a.userId?.toList ++ userIds actions := by
  unfold userIds
  cases h : a.userId? with
  | none => rw [List.filterMap_cons_none h]; rfl
  | some userId => rw [List.filterMap_cons_some h]; rfl

theorem run_drawn (h : Drawn lib ids s.users) (actions : List Action) :
    Drawn lib (ids ++ userIds actions) (run lib s actions).users := by
  induction actions generalizing s ids with
  | nil => exact h.mono (List.subset_append_left ids _)
  | cons a actions ih =>
    rw [userIds_cons, ← List.append_assoc]
    exact ih (h.change (step_users s a))

theorem after_drawn (actions : List Action) : Drawn lib (userIds actions) (after lib actions).users := by
  have hinitial : Drawn lib [] AuthSystem.initial.users := by
    refine Disk.Shows.initial ?_
    intro state hstate
    cases hstate
  exact run_drawn hinitial actions

/-! ### An account stays -/

/-- What a run draws and is given from a state whose identifiers are `ids`: new identifiers that are not empty, and addresses whose
    normal form is normal. -/
structure Orderly (lib : AuthLib) (ids : List String) (actions : List Action) : Prop where
  fresh : (ids ++ userIds actions).Nodup
  named : "" ∉ userIds actions
  normal : ∀ r fault, Action.register r fault ∈ actions →
    normalizeEmail lib (normalizeEmail lib r.email) = normalizeEmail lib r.email

theorem Orderly.tail (h : Orderly lib ids (a :: actions)) : Orderly lib (ids ++ a.userId?.toList) actions := by
  obtain ⟨hfresh, hnamed, hnormal⟩ := h
  rw [userIds_cons] at hfresh hnamed
  refine ⟨by rwa [List.append_assoc], fun hmem => hnamed (List.mem_append_right _ hmem), fun r fault hr => ?_⟩
  exact hnormal r fault (List.mem_cons_of_mem a hr)

theorem Orderly.append {actions' : List Action} (h : Orderly lib ids (actions ++ actions')) :
    Orderly lib ids actions ∧ Orderly lib (ids ++ userIds actions) actions' := by
  obtain ⟨hfresh, hnamed, hnormal⟩ := h
  have hids : userIds (actions ++ actions') = userIds actions ++ userIds actions' := List.filterMap_append
  rw [hids] at hfresh hnamed
  rw [← List.append_assoc] at hfresh
  refine ⟨⟨(List.nodup_append.mp hfresh).1, fun hmem => hnamed (List.mem_append_left _ hmem), fun r fault hr => ?_⟩,
    ⟨hfresh, fun hmem => hnamed (List.mem_append_right _ hmem), fun r fault hr => ?_⟩⟩
  · exact hnormal r fault (List.mem_append_left _ hr)
  · exact hnormal r fault (List.mem_append_right _ hr)

/-- The identifier of a registration is new. -/
theorem Orderly.register (h : Orderly lib ids (.register r fault :: actions)) (hrecord : r.record lib = .ok user) :
    user.id ∉ ids ∧ user.Sound lib := by
  obtain ⟨hid, hemail, -, hsound⟩ := record_ok hrecord
  have hfresh := h.fresh
  have hnamed := h.named
  rw [userIds_cons] at hfresh hnamed
  refine ⟨fun hmem => ?_, hsound (fun hempty => hnamed ?_) ?_⟩
  · rw [hid] at hmem
    exact (List.nodup_append.mp hfresh).2.2 _ hmem _ (List.mem_append_left _ (List.mem_singleton_self r.userId)) rfl
  · rw [← hempty]
    exact List.mem_append_left _ (List.mem_singleton_self r.userId)
  · rw [hemail]
    exact h.normal r fault List.mem_cons_self

/-- The file shows the account, whatever is lost. -/
structure Keeps (lib : AuthLib) (user : UserRecord) (d : Disk (Option Users)) : Prop where
  armed : d.Armed
  shows : d.Shows fun x => ∃ state, (accounts lib).shown x = some state ∧ state.Has user

/-- What a function reads has the account. -/
theorem Keeps.read {state : Users} (h : Keeps lib user d) (hread : (accounts lib).read d.file d.marker = .ok state) :
    (accounts lib).shown d.file = some state ∧ state.Has user := by
  rcases Authority.read_ok hread with hshown | ⟨_, hmarker, _⟩
  · obtain ⟨state', hstate', hhas⟩ := h.shows.file
    rw [hshown] at hstate'
    obtain rfl := Option.some.inj hstate'
    exact ⟨hshown, hhas⟩
  · rw [h.armed.1] at hmarker
    cases hmarker

theorem shown_valid {x : Option (Option Users)} {state : Users} (h : (accounts lib).shown x = some state) : state.Valid lib := by
  rcases x with _ | _ | contents
  · cases h
  · cases h
  · obtain ⟨hvalid, rfl⟩ := Authority.shown_some.mp h
    exact validateUsers_iff.mp hvalid

theorem Keeps.change (h : Keeps lib user d) (hdrawn : Drawn lib ids d) (horderly : Orderly lib ids (a :: actions))
    (ha : a.keepsUsers = true) (hchange : UsersChange lib a d d') : Keeps lib user d' := by
  refine ⟨hchange.armed h.armed, ?_⟩
  cases hchange with
  | ensured ensures =>
    cases ensures with
    | marked fault => exact h.shows.markUntil fault
    | created _ unmarked _ =>
      rw [h.armed.1] at unmarked
      cases unmarked
  | @registered r _ user' _ registers record effect =>
    subst registers
    obtain ⟨hnew, hsound⟩ := horderly.register record
    refine effect.shows h.shows fun state b state' hread hbody => ?_
    obtain ⟨hshown, hhas⟩ := h.read hread
    obtain ⟨hemail, -, hwritten⟩ := registerBody_ok hbody
    obtain rfl := Option.some.inj hwritten
    have hid : state.users.get? user'.id = none := by
      rw [Option.eq_none_iff_forall_ne_some]
      intro user'' huser''
      exact hnew (hdrawn.read hread huser'')
    have hne : user'.id ≠ user.id := by
      intro hsame
      rw [hsame, hhas.record] at hid
      cases hid
    refine ⟨state.add user', Authority.shown_some.mpr ⟨?_, rfl⟩, hhas.add hne hemail⟩
    exact validateUsers_iff.mpr ((shown_valid hshown).add hsound hid hemail)
  | lost back marker => exact h.shows.loss back marker
  | disturbed by_other _ =>
    rw [ha] at by_other
    cases by_other

theorem run_keeps (h : Keeps lib user s.users) (hdrawn : Drawn lib ids s.users) (horderly : Orderly lib ids actions)
    (hkeeps : ∀ a ∈ actions, a.keepsUsers = true) : Keeps lib user (run lib s actions).users := by
  induction actions generalizing s ids with
  | nil => exact h
  | cons a actions ih =>
    have hchange : UsersChange lib a s.users (step lib s a).users := step_users s a
    refine ih (h.change hdrawn horderly (hkeeps a List.mem_cons_self) hchange) (hdrawn.change hchange) horderly.tail ?_
    exact fun b hb => hkeeps b (List.mem_cons_of_mem a hb)

theorem read_valid {state : Users} (hread : (accounts lib).read d.file d.marker = .ok state) : state.Valid lib := by
  rcases Authority.read_ok hread with hshown | ⟨_, _, rfl⟩
  · exact shown_valid hshown
  · constructor
    · intro userId user huser
      cases huser
    · intro email userId hindex
      cases hindex

/-- A registration that is acknowledged leaves its account in the file. -/
theorem register_keeps {answer : PublicUser} (hdrawn : Drawn lib ids s.users)
    (horderly : Orderly lib ids (.register r fault :: actions)) (hack : (s.register lib r fault).1 = .ok answer) :
    ∃ user, r.record lib = .ok user ∧ answer = user.publicUser ∧ user.Sound lib ∧ Keeps lib user (s.register lib r fault).2 := by
  unfold register at hack ⊢
  cases hrecord : r.record lib with
  | error e =>
    rw [hrecord] at hack
    cases hack
  | ok user =>
    rw [hrecord] at hack
    obtain ⟨hnew, hsound⟩ := horderly.register hrecord
    have hanswers := Authority.transact_answers hack
    change (accounts lib).Answers s.users _ _ ((accounts lib).perform s.users fault _).2 at hanswers
    change ∃ user', _ ∧ _ ∧ _ ∧ Keeps lib user' ((accounts lib).perform s.users fault ((accounts lib).transact (registerBody user))).2
    generalize ((accounts lib).perform s.users fault ((accounts lib).transact (registerBody user))).2 = d' at hanswers ⊢
    cases hanswers with
    | same reads decides =>
      obtain ⟨_, _, hwritten⟩ := registerBody_ok decides
      cases hwritten
    | @written state _ reads decides =>
      obtain ⟨hemail, hanswer, hwritten⟩ := registerBody_ok decides
      obtain rfl := Option.some.inj hwritten
      have hid : state.users.get? user.id = none := by
        rw [Option.eq_none_iff_forall_ne_some]
        intro user'' huser''
        exact hnew (hdrawn.read reads huser'')
      refine ⟨user, rfl, hanswer, hsound, ⟨rfl, rfl⟩, Disk.Shows.of_settled rfl ⟨state.add user, ?_, state.has_add user⟩⟩
      exact Authority.shown_some.mpr ⟨validateUsers_iff.mpr ((read_valid reads).add hsound hid hemail), rfl⟩

/-! ### What the account is good for -/

theorem getUser_of_keeps (h : Keeps lib user s.users) : s.getUser lib user.id none = .ok (some user.publicUser) := by
  obtain ⟨state, hshown, hhas⟩ := h.shows.file
  unfold getUser
  rw [Authority.transact_none (Authority.read_of_shown hshown), getUserBody, hhas.record]
  rfl

theorem authenticate_of_keeps (h : Keeps lib user s.users) (hsound : user.Sound lib) {email : String} (password : String)
    (hemail : normalizeEmail lib email = user.email) : s.authenticate lib email password none =
      if verifyPassword lib password user.passwordHash then .ok user.publicUser
      else .error (.invalidCredentials "invalid email or password") := by
  obtain ⟨state, hshown, hhas⟩ := h.shows.file
  unfold authenticate
  rw [Authority.transact_none (Authority.read_of_shown hshown), authenticateBody, hemail, byEmail_of_has hhas hsound.id]
  cases hverify : verifyPassword lib password user.passwordHash with
  | true =>
    simp only [hsound.active, hverify]
    rfl
  | false =>
    simp only [hverify]
    rfl

theorem register_of_keeps (h : Keeps lib user s.users) (hemail : normalizeEmail lib r.email = user.email) (fault : Option Fault)
    (answer : PublicUser) : (s.register lib r fault).1 ≠ .ok answer := by
  intro hack
  unfold register at hack
  cases hrecord : r.record lib with
  | error e =>
    rw [hrecord] at hack
    cases hack
  | ok user' =>
    rw [hrecord] at hack
    have hnone : ∀ state, (accounts lib).read s.users.file s.users.marker = .ok state →
        ∀ b written, registerBody user' state = .ok (b, written) → False := by
      intro state hread b written hbody
      obtain ⟨_, hhas⟩ := h.read hread
      have hindex := (registerBody_ok hbody).1
      rw [(record_ok hrecord).2.1, hemail, hhas.email] at hindex
      cases hindex
    have hanswers := Authority.transact_answers hack
    generalize (Authority.perform _ _ _ _).2 = d' at hanswers
    cases hanswers with
    | same reads decides => exact hnone _ reads _ _ decides
    | written reads decides => exact hnone _ reads _ _ decides

namespace Sample

def authLib : AuthLib where
  lower text := text
  pbkdf2 password salt := salt ++ password
  sha256 token := String.ofList (List.replicate (64 - token.length) '0') ++ token

def ann : Registration := ⟨"ann@example.org", "correct horse", none, .finite 1, "f81d4fae", "00"⟩

def bob : Registration := ⟨"bob@example.org", "battery staple", some "Bob", .finite 2, "7dec11d0", "01"⟩

def annUser : PublicUser := ⟨"f81d4fae", "ann@example.org", none, "user", "active", 1, 1⟩

/-- Another registration is renamed over the file, and lost. -/
def lostRegistration : List Action := [.register bob (some (.writing .unsynced)), .loss 1 0 false false]

theorem orderly : Orderly authLib [] ([.ensure none none] ++ .register ann none :: lostRegistration) := by
  refine ⟨by decide, by decide, fun r fault hr => ?_⟩
  simp only [lostRegistration, List.cons_append, List.nil_append, List.mem_cons, reduceCtorEq, List.not_mem_nil, or_false,
    false_or, Action.register.injEq] at hr
  rcases hr with ⟨rfl, -⟩ | ⟨rfl, -⟩
  · decide +kernel
  · decide +kernel

end Sample

/-- **One account for an address, and it stays.** Once a registration is acknowledged, in every run that goes on from there, with
faults in any call, processes that die and losses of power, as long as nobody else touches the accounts: the account is found as it
was acknowledged, a password lets its owner in exactly if it has the hash of the password of the registration, and no registration of
an address with the same normal form succeeds. -/
theorem account_stays {answer : PublicUser} (horderly : Orderly lib [] (before ++ .register r fault :: between))
    (hack : ((after lib before).register lib r fault).1 = .ok answer) (hkeeps : ∀ a ∈ between, a.keepsUsers = true) :
    let s := after lib (before ++ .register r fault :: between)
    s.getUser lib answer.id none = .ok (some answer) ∧
      (∀ email password, normalizeEmail lib email = answer.email → s.authenticate lib email password none =
        if lib.pbkdf2 password r.salt = lib.pbkdf2 r.password r.salt then .ok answer
        else .error (.invalidCredentials "invalid email or password")) ∧
      ∀ r' fault' answer', normalizeEmail lib r'.email = answer.email → (s.register lib r' fault').1 ≠ .ok answer' := by
  intro s
  have hdrawn : Drawn lib (userIds before) (after lib before).users := after_drawn before
  have horderly' : Orderly lib (userIds before) (.register r fault :: between) := horderly.append.2
  obtain ⟨user, hrecord, rfl, hsound, hkept⟩ := register_keeps hdrawn horderly' hack
  have hs : Keeps lib user s.users := by
    change Keeps lib user (after lib (before ++ .register r fault :: between)).users
    rw [after_append_cons]
    exact run_keeps hkept (hdrawn.change (step_users _ (.register r fault))) horderly'.tail hkeeps
  refine ⟨getUser_of_keeps hs, fun email password hemail => ?_, fun r' fault' answer' hemail => ?_⟩
  · rw [authenticate_of_keeps hs hsound password hemail, verifyPassword, (record_ok hrecord).2.2.1]
    exact if_congr decide_eq_true_iff rfl rfl
  · exact register_of_keeps hs hemail fault' answer'

theorem account_stays_lostRegistration :
    let s := after Sample.authLib ([.ensure none none] ++ .register Sample.ann none :: Sample.lostRegistration)
    s.getUser Sample.authLib Sample.annUser.id none = .ok (some Sample.annUser) ∧
      (∀ email password, normalizeEmail Sample.authLib email = Sample.annUser.email →
        s.authenticate Sample.authLib email password none =
          if Sample.authLib.pbkdf2 password Sample.ann.salt = Sample.authLib.pbkdf2 Sample.ann.password Sample.ann.salt then
            .ok Sample.annUser
          else .error (.invalidCredentials "invalid email or password")) ∧
      ∀ r' fault' answer', normalizeEmail Sample.authLib r'.email = Sample.annUser.email →
        (s.register Sample.authLib r' fault').1 ≠ .ok answer' :=
  account_stays Sample.orderly (by decide +kernel) (by decide)

end AuthSystem
end IRLight.AuthStore
