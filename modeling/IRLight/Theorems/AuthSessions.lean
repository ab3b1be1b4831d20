import IRLight.Theorems.AuthAccounts
import Mathlib.Algebra.Order.Ring.NNRat
import Mathlib.Data.List.Induction

/-! # Sessions of users

A token lets in the user whose login it was drawn for, from the login to its logout or its expiry, and nobody else. -/

namespace IRLight.AuthStore
open Persistence

/-! ### The functions on the sessions -/

section
variable {state : Sessions} {hash hash' : String} {session : AuthSession} {now : Timestamp} {limit : ℕ} {dryRun : Bool}

/-- What a session must be. -/
structure AuthSession.Sound (session : AuthSession) (hash : String) : Prop where
  hash : isTokenHash hash = true
  userId : session.userId ≠ ""
  csrfToken : isCsrfToken session.csrfToken = true
  times : session.createdAt ≤ session.expiresAt

theorem validateSession_iff : validateSession hash session = .ok () ↔ session.Sound hash := by
  simp only [validateSession, bind_eq_ok, requireNonempty, refuse_eq_ok, exists_const, Bool.not_eq_false, not_lt]
  constructor
  · rintro ⟨hhash, huser, -, hcsrf, htimes⟩
    exact ⟨hhash, huser, hcsrf, htimes⟩
  · rintro ⟨hhash, huser, hcsrf, htimes⟩
    refine ⟨hhash, huser, fun hempty => ?_, hcsrf, htimes⟩
    rw [hempty] at hcsrf
    revert hcsrf
    decide

theorem validateSessions_iff :
    validateSessions state = .ok () ↔ ∀ hash session, state.get? hash = some session → session.Sound hash := by
  unfold validateSessions
  rw [forM_ok]
  constructor
  · intro h hash session hsession
    exact validateSession_iff.mp (h (hash, session) (Dict.get?_eq_some.mp hsession))
  · rintro h ⟨hash, session⟩ hsession
    exact validateSession_iff.mpr (h hash session (Dict.get?_eq_some.mpr hsession))

theorem createBody_ok {b : AuthSession} {written : Option Sessions} (h : createBody hash session state = .ok (b, written)) :
    b = session ∧ ∃ state', written = some state' ∧
      ∀ hash', state'.get? hash' = if hash' = hash then some session else state.get? hash' := by
  obtain ⟨rfl, rfl⟩ := Prod.mk.inj (Except.ok.inj h)
  refine ⟨rfl, _, rfl, fun hash' => ?_⟩
  rw [Dict.get?_sort]
  split
  · rename_i hsame
    rw [hsame, Dict.get?_set_self]
  · rename_i hne
    rw [Dict.get?_set_ne hne]

theorem revokeBody_ok {written : Option Sessions} (h : revokeBody hash state = .ok ((), written)) :
    written = none ∧ state.get? hash = none ∨ ∃ state', written = some state' ∧
      ∀ hash', state'.get? hash' = if hash' = hash then none else state.get? hash' := by
  have hwritten := (Prod.mk.inj (Except.ok.inj h)).2
  split at hwritten
  · refine .inr ⟨_, hwritten.symm, fun hash' => ?_⟩
    rw [Dict.get?_sort]
    split
    · rename_i hsame
      rw [hsame, Dict.get?_erase_self]
    · rename_i hne
      rw [Dict.get?_erase_ne hne]
  · rename_i hnone
    exact .inl ⟨hwritten.symm, Option.not_isSome_iff_eq_none.mp hnone⟩

/-- A digest that is selected is one of a session that has expired. -/
theorem expiredTokenHashes_expired (h : hash ∈ expiredTokenHashes state now limit) :
    ∃ session, state.get? hash = some session ∧ session.expiresAt ≤ now := by
  obtain ⟨⟨hash, session⟩, hmem, rfl⟩ := List.mem_map.mp h
  have hsorted := (List.mem_insertionSort OlderEq).mp (List.mem_of_mem_take hmem)
  obtain ⟨hitem, hexpired⟩ := List.mem_filter.mp hsorted
  exact ⟨session, Dict.get?_eq_some.mpr hitem, of_decide_eq_true hexpired⟩

theorem pruneBody_ok {b : PruneResult} {state' : Sessions} (h : pruneBody now limit dryRun state = .ok (b, some state'))
    (hash : String) : state'.get? hash = if hash ∈ expiredTokenHashes state now limit then none else state.get? hash := by
  have hwritten := (Prod.mk.inj (Except.ok.inj h)).2
  split at hwritten
  · cases hwritten
  · obtain rfl := Option.some.inj hwritten
    rw [Dict.get?_sort, Dict.get?_filter]
    cases hget : state.get? hash with
    | none => split <;> rfl
    | some session =>
      split
      · rename_i hmem
        rw [Option.filter_some, if_neg (by simpa using hmem)]
      · rename_i hmem
        rw [Option.filter_some, if_pos (by simpa using hmem)]

theorem get?_revoked {u : Unit} {written : Option Sessions} (h : revokeBody hash state = .ok (u, written)) (hash' : String) :
    (written.getD state).get? hash' = if hash' = hash then none else state.get? hash' := by
  rcases revokeBody_ok h with ⟨rfl, hnone⟩ | ⟨state', rfl, hget⟩
  · split
    · rename_i hsame
      rw [hsame]
      exact hnone
    · rfl
  · exact hget hash'

theorem revoked_fewer {u : Unit} {written : Option Sessions} (h : revokeBody hash state = .ok (u, written)) (hash' : String) :
    (written.getD state).get? hash' = none ∨ (written.getD state).get? hash' = state.get? hash' := by
  rw [get?_revoked h]
  split
  · exact .inl rfl
  · exact .inr rfl

theorem pruned_fewer {b : PruneResult} {state' : Sessions} (h : pruneBody now limit dryRun state = .ok (b, some state'))
    (hash : String) : state'.get? hash = none ∨ state'.get? hash = state.get? hash := by
  rw [pruneBody_ok h]
  split
  · exact .inl rfl
  · exact .inr rfl

theorem newSession_sound {user : PublicUser} {draw : Draw} (hid : user.id ≠ "") (hhash : isTokenHash hash = true)
    (hcsrf : isCsrfToken draw.csrfToken = true) : (newSession user.id draw now).Sound hash := by
  refine ⟨hhash, hid, hcsrf, ?_⟩
  change now ≤ now + (sessionTtlSeconds : Timestamp)
  exact le_self_add

end

/-! ### What an action does to the file -/

namespace Action

/-- The action is not one of somebody else on the sessions. -/
def keepsSessions : Action → Bool
  | .removeSessions | .garbleSessions => false
  | _ => true

/-- The action is not a loss of power. -/
def keepsPower : Action → Bool
  | .loss .. => false
  | _ => true

/-- The action draws no token of the digest. -/
def drawsOther (lib : AuthLib) (hash : String) : Action → Bool
  | .issue _ _ draw _ => lib.sha256 draw.token ≠ hash
  | _ => true

/-- The action does nothing to a session before it expires: it does not draw its digest again, log it out or delete it. New
    tokens have the form that the code gives them. -/
def spares (lib : AuthLib) (hash : String) (expiresAt : Timestamp) : Action → Bool
  | .issue _ _ draw _ =>
    lib.sha256 draw.token ≠ hash && isTokenHash (lib.sha256 draw.token) && isCsrfToken draw.csrfToken
  | .logout token _ => lib.sha256 token ≠ hash
  | .prune now _ _ _ => (validatedNow now).toOption.all (· < expiresAt)
  | .removeSessions | .garbleSessions => false
  | _ => true

end Action

namespace AuthSystem
variable {lib : AuthLib} {s s' : AuthSystem} {a : Action} {actions before between : List Action} {hash token : String}
  {session : AuthSession} {d d' : Disk (Option Sessions)} {fault fault' : Option Fault} {reading : PyFloat} {current : Timestamp}

/-- What an action does to the file of the sessions. -/
inductive SessionsChange (lib : AuthLib) (s : AuthSystem) (a : Action) : Disk (Option Sessions) → Prop
  | ensured {d' : Disk (Option Sessions)} (ensures : logins.Ensures s.sessions d') : SessionsChange lib s a d'
  | issued {login : ℕ} {reading : PyFloat} {draw : Draw} {fault : Option Fault} {user : PublicUser} {now : Timestamp}
      {d' : Disk (Option Sessions)} (issues : a = .issue login reading draw fault)
      (waiting : s.authenticated[login]? = some user) (time : clockNow reading = .ok now)
      (effect : logins.Effect s.sessions (createBody (lib.sha256 draw.token) (newSession user.id draw now)) d') :
      SessionsChange lib s a d'
  | revoked {token : String} {fault : Option Fault} {d' : Disk (Option Sessions)} (revokes : a = .logout token fault)
      (effect : logins.Effect s.sessions (revokeBody (lib.sha256 token)) d') : SessionsChange lib s a d'
  | pruned {reading : PyFloat} {maxDeletions : ℤ} {dryRun : Bool} {fault : Option Fault} {now : Timestamp} {limit : ℕ}
      {d' : Disk (Option Sessions)} (prunes : a = .prune reading maxDeletions dryRun fault)
      (time : validatedNow reading = .ok now)
      (effect : logins.Effect s.sessions (pruneBody now limit dryRun) d') : SessionsChange lib s a d'
  | lost (power : a.keepsPower = false) (back : ℕ) (marker : Bool) : SessionsChange lib s a (s.sessions.loss back marker)
  | disturbed {x : Option (Option Sessions)} (by_other : a.keepsSessions = false) (nothing : logins.shown x = none) :
      SessionsChange lib s a (s.sessions.disturb x)

theorem SessionsChange.same : SessionsChange lib s a s.sessions := .ensured (.marked (some false))

theorem step_sessions (s : AuthSystem) (a : Action) : SessionsChange lib s a (step lib s a).sessions := by
  cases a with
  | ensure usersFault sessionsFault =>
    simp only [step, ensure]
    cases ((accounts lib).perform s.users usersFault (accounts lib).ensure).1 with
    | error e => exact .same
    | ok u => exact .ensured (logins.ensure_ensures s.sessions sessionsFault)
  | register r fault => exact .same
  | authenticate email password fault => exact .same
  | issue login reading draw fault =>
    simp only [step]
    cases hwaiting : s.authenticated[login]? with
    | none => exact .same
    | some user =>
      simp only [issue]
      cases htime : clockNow reading with
      | error e => exact .same
      | ok now => exact .issued rfl hwaiting htime (logins.transact_effect s.sessions fault _)
  | logout token fault => exact .revoked rfl (logins.transact_effect s.sessions fault _)
  | prune now maxDeletions dryRun fault =>
    simp only [step, prune]
    cases htime : validatedNow now with
    | error e => exact .same
    | ok now =>
      cases validatedMaxDeletions maxDeletions with
      | error e => exact .same
      | ok limit => exact .pruned rfl htime (logins.transact_effect s.sessions fault _)
  | loss usersBack sessionsBack usersMarker sessionsMarker => exact .lost rfl sessionsBack sessionsMarker
  | removeUsers => exact .same
  | garbleUsers => exact .same
  | removeSessions => exact .disturbed rfl rfl
  | garbleSessions => exact .disturbed rfl rfl

theorem SessionsChange.guarded (h : SessionsChange lib s a d') (hd : s.sessions.Guarded) : d'.Guarded := by
  cases h with
  | ensured ensures =>
    cases ensures with
    | marked fault => exact hd.markUntil fault
    | created _ _ fault => exact hd.write _ fault
  | issued _ _ _ effect => exact effect.guarded hd
  | revoked _ effect => exact effect.guarded hd
  | pruned _ _ effect => exact effect.guarded hd
  | lost _ back marker => exact hd.loss back marker
  | disturbed => exact hd.disturb _

theorem SessionsChange.armed (h : SessionsChange lib s a d') (hd : s.sessions.Armed) : d'.Armed := by
  cases h with
  | ensured ensures =>
    cases ensures with
    | marked fault => exact hd.markUntil fault
    | created _ _ fault => exact hd.write _ fault
  | issued _ _ _ effect => exact effect.armed hd
  | revoked _ effect => exact effect.armed hd
  | pruned _ _ effect => exact effect.armed hd
  | lost _ back marker => exact hd.loss back marker
  | disturbed => exact hd.disturb _

/-! ### A logout is final -/

/-- The file shows no session under the digest, whatever is lost. -/
def Absent (hash : String) (d : Disk (Option Sessions)) : Prop :=
  d.Shows fun x => ∀ state, logins.shown x = some state → state.get? hash = none

theorem Absent.read {state : Sessions} (h : Absent hash d) (hread : logins.read d.file d.marker = .ok state) :
    state.get? hash = none := by
  rcases Authority.read_ok hread with hshown | ⟨_, _, rfl⟩
  · exact h.file state hshown
  · rfl

theorem Absent.change (h : Absent hash s.sessions) (ha : a.drawsOther lib hash = true) (hchange : SessionsChange lib s a d') :
    Absent hash d' := by
  cases hchange with
  | ensured ensures =>
    cases ensures with
    | marked fault => exact Disk.Shows.markUntil h fault
    | created _ _ fault =>
      refine Disk.Shows.write h ?_ fault
      intro state hstate
      obtain ⟨-, rfl⟩ := Authority.shown_some.mp hstate
      rfl
  | issued issues _ _ effect =>
    refine effect.shows h fun state b state' hread hbody => ?_
    intro state'' hstate
    obtain ⟨-, rfl⟩ := Authority.shown_some.mp hstate
    obtain ⟨_, _, hwritten, hget⟩ := createBody_ok hbody
    obtain rfl := Option.some.inj hwritten
    subst issues
    have hne := of_decide_eq_true ha
    rw [hget, if_neg fun hsame => hne hsame.symm]
    exact h.read hread
  | revoked _ effect =>
    refine effect.shows h fun state b state' hread hbody => ?_
    intro state'' hstate
    obtain ⟨-, rfl⟩ := Authority.shown_some.mp hstate
    refine (get?_revoked hbody hash).trans ?_
    split
    · rfl
    · exact h.read hread
  | pruned _ _ effect =>
    refine effect.shows h fun state b state' hread hbody => ?_
    intro state'' hstate
    obtain ⟨-, rfl⟩ := Authority.shown_some.mp hstate
    rw [pruneBody_ok hbody]
    split
    · rfl
    · exact h.read hread
  | lost _ back marker => exact Disk.Shows.loss h back marker
  | disturbed _ nothing =>
    refine Disk.Shows.disturb h ?_
    intro state hstate
    rw [nothing] at hstate
    cases hstate

theorem run_absent (h : Absent hash s.sessions) (hdraws : ∀ a ∈ actions, a.drawsOther lib hash = true) :
    Absent hash (run lib s actions).sessions := by
  induction actions generalizing s with
  | nil => exact h
  | cons a actions ih =>
    refine ih (h.change (hdraws a List.mem_cons_self) (step_sessions s a)) fun b hb => ?_
    exact hdraws b (List.mem_cons_of_mem a hb)

/-- What a request finds under its token. -/
theorem resolve_ok {found : Option AuthSession} (h : s.resolve lib token reading fault = .ok found) :
    ∃ current state, clockNow reading = .ok current ∧ logins.read s.sessions.file s.sessions.marker = .ok state ∧
      found = (state.get? (lib.sha256 token)).filter (current < ·.expiresAt) := by
  unfold resolve at h
  cases htime : clockNow reading with
  | error e =>
    rw [htime] at h
    cases h
  | ok current =>
    rw [htime] at h
    have hanswers := Authority.transact_answers h
    generalize (logins.perform s.sessions fault (logins.transact (resolveBody (lib.sha256 token) current))).2 = d' at hanswers
    cases hanswers with
    | same reads decides => exact ⟨current, _, rfl, reads, (Prod.mk.inj (Except.ok.inj decides)).1.symm⟩
    | written reads decides => exact ⟨current, _, rfl, reads, (Prod.mk.inj (Except.ok.inj decides)).1.symm⟩

/-- A logout is acknowledged: it has deleted the session, or the file had none that could come back. A logout that is repeated
    may be answered from a file whose last rename was never synced. -/
def LoggedOut (lib : AuthLib) (s : AuthSystem) (token : String) (fault : Option Fault) : Prop :=
  (s.logout lib token fault).1 = .ok () ∧
    ((∃ state, logins.shown s.sessions.file = some state ∧ state.get? (lib.sha256 token) ≠ none) ∨ s.sessions.Settled)

theorem LoggedOut.absent (h : LoggedOut lib s token fault) : Absent (lib.sha256 token) (s.logout lib token fault).2 := by
  obtain ⟨hok, hgone⟩ := h
  unfold logout at hok ⊢
  have hanswers := Authority.transact_answers hok
  generalize (logins.perform s.sessions fault (logins.transact (revokeBody (lib.sha256 token)))).2 = d' at hanswers ⊢
  cases hanswers with
  | @same state reads decides =>
    have hnone : state.get? (lib.sha256 token) = none := by
      rcases revokeBody_ok decides with ⟨_, hnone⟩ | ⟨_, hwritten, _⟩
      · exact hnone
      · cases hwritten
    have hread : ∀ state', logins.shown s.sessions.file = some state' → state' = state := fun state' hshown =>
      Except.ok.inj ((Authority.read_of_shown hshown).symm.trans reads)
    have hsettled : s.sessions.Settled := by
      refine hgone.resolve_left ?_
      rintro ⟨state', hshown, hsome⟩
      exact hsome (hread state' hshown ▸ hnone)
    refine Disk.Shows.of_settled hsettled fun state' hshown => ?_
    rw [hread state' hshown]
    exact hnone
  | written reads decides =>
    refine Disk.Shows.of_settled rfl ?_
    intro state'' hstate
    obtain ⟨-, rfl⟩ := Authority.shown_some.mp hstate
    rcases revokeBody_ok decides with ⟨hwritten, _⟩ | ⟨_, hwritten, hget⟩
    · cases hwritten
    · obtain rfl := Option.some.inj hwritten
      rw [hget, if_pos rfl]

namespace Sample

def draw : Draw := ⟨"a1", "abcdefghijklmnopqrstuvwxyzABCDEF"⟩

def annSession : AuthSession := newSession "f81d4fae" draw 1

def login : List Action := [.ensure none none, .register ann none, .authenticate "ann@example.org" "correct horse" none]

def loggedIn : List Action := login ++ [.issue 0 (.finite 1) draw none]

/-- A deletion is renamed over the file, and lost. -/
def lostPrune : List Action := [.prune (.finite 3) 10 false (some (.writing .unsynced)), .loss 0 1 false false]

theorem loggedOut : LoggedOut authLib (after authLib loggedIn) draw.token none := by
  refine ⟨by decide +kernel, .inr ?_⟩
  decide +kernel

end Sample

/-- **A logout is final.** Once it is acknowledged, its token finds no session any more: in every run that goes on from there,
with faults in any call, processes that die, losses of power and files that are taken away or damaged, as long as no new token has
its digest. -/
theorem logout_is_final (hout : LoggedOut lib (after lib before) token fault)
    (hdraws : ∀ a ∈ between, a.drawsOther lib (lib.sha256 token) = true) (found : AuthSession) :
    (after lib (before ++ .logout token fault :: between)).resolve lib token reading fault' ≠ .ok (some found) := by
  intro h
  have habsent : Absent (lib.sha256 token) (after lib (before ++ .logout token fault :: between)).sessions := by
    rw [after_append_cons]
    exact run_absent hout.absent hdraws
  obtain ⟨current, state, _, hread, hfound⟩ := resolve_ok h
  rw [habsent.read hread] at hfound
  cases hfound

theorem logout_is_final_lostPrune :
    (after Sample.authLib (Sample.loggedIn ++ .logout Sample.draw.token none :: Sample.lostPrune)).resolve Sample.authLib
      Sample.draw.token (.finite 4) none ≠ .ok (some Sample.annSession) :=
  logout_is_final Sample.loggedOut (by decide) Sample.annSession

/-! ### A session stays until it expires -/

/-- The file shows the session under the digest, whatever is lost. -/
structure KeepsSession (hash : String) (session : AuthSession) (d : Disk (Option Sessions)) : Prop where
  armed : d.Armed
  shows : d.Shows fun x => ∃ state, logins.shown x = some state ∧ state.get? hash = some session

theorem KeepsSession.read {state : Sessions} (h : KeepsSession hash session d)
    (hread : logins.read d.file d.marker = .ok state) : logins.shown d.file = some state ∧ state.get? hash = some session := by
  rcases Authority.read_ok hread with hshown | ⟨_, hmarker, _⟩
  · obtain ⟨state', hstate', hsession⟩ := h.shows.file
    rw [hshown] at hstate'
    obtain rfl := Option.some.inj hstate'
    exact ⟨hshown, hsession⟩
  · rw [h.armed.1] at hmarker
    cases hmarker

theorem shown_sound {x : Option (Option Sessions)} {state : Sessions} (h : logins.shown x = some state)
    (hget : state.get? hash = some session) : session.Sound hash := by
  rcases x with _ | _ | contents
  · cases h
  · cases h
  · obtain ⟨hvalid, rfl⟩ := Authority.shown_some.mp h
    exact validateSessions_iff.mp hvalid hash session hget

/-- A file with fewer sessions is valid too. -/
theorem shown_of_fewer {x : Option (Option Sessions)} {state state' : Sessions} (h : logins.shown x = some state)
    (hfewer : ∀ hash, state'.get? hash = none ∨ state'.get? hash = state.get? hash) :
    logins.shown (some (some state')) = some state' := by
  refine Authority.shown_some.mpr ⟨validateSessions_iff.mpr fun hash session hsession => ?_, rfl⟩
  rcases hfewer hash with hnone | hsame
  · rw [hnone] at hsession
    cases hsession
  · exact shown_sound h (hsame ▸ hsession)

/-- A file with one more session is valid too. -/
theorem shown_of_created {state state' : Sessions} {b : AuthSession} (hsound : session.Sound hash)
    (hvalid : ∀ hash session, state.get? hash = some session → session.Sound hash)
    (h : createBody hash session state = .ok (b, some state')) : logins.shown (some (some state')) = some state' := by
  obtain ⟨_, _, hwritten, hget⟩ := createBody_ok h
  obtain rfl := Option.some.inj hwritten
  refine Authority.shown_some.mpr ⟨validateSessions_iff.mpr fun hash' session' hsession' => ?_, rfl⟩
  rw [hget] at hsession'
  split at hsession'
  · rename_i hsame
    obtain rfl := Option.some.inj hsession'
    rw [hsame]
    exact hsound
  · exact hvalid hash' session' hsession'

/-- The users whose logins wait for a session have identifiers. -/
def Named (s : AuthSystem) : Prop := ∀ user ∈ s.authenticated, user.id ≠ ""

theorem KeepsSession.change (h : KeepsSession hash session s.sessions) (hnamed : Named s)
    (ha : a.spares lib hash session.expiresAt = true) (hchange : SessionsChange lib s a d') : KeepsSession hash session d' := by
  refine ⟨hchange.armed h.armed, ?_⟩
  cases hchange with
  | ensured ensures =>
    cases ensures with
    | marked fault => exact h.shows.markUntil fault
    | created _ unmarked _ =>
      rw [h.armed.1] at unmarked
      cases unmarked
  | issued issues waiting _ effect =>
    subst issues
    simp only [Action.spares, Bool.and_eq_true, decide_eq_true_eq] at ha
    obtain ⟨⟨hne, hhash⟩, hcsrf⟩ := ha
    refine effect.shows h.shows fun state b state' hread hbody => ?_
    obtain ⟨hshown, hsession⟩ := h.read hread
    obtain ⟨_, _, hwritten, hget⟩ := createBody_ok hbody
    obtain rfl := Option.some.inj hwritten
    have hid := hnamed _ (List.mem_of_getElem? waiting)
    refine ⟨state', shown_of_created (newSession_sound hid hhash hcsrf) (fun _ _ => shown_sound hshown) hbody, ?_⟩
    rw [hget, if_neg fun hsame => hne hsame.symm]
    exact hsession
  | revoked revokes effect =>
    refine effect.shows h.shows fun state b state' hread hbody => ?_
    obtain ⟨hshown, hsession⟩ := h.read hread
    refine ⟨state', shown_of_fewer hshown (revoked_fewer hbody), (get?_revoked hbody hash).trans ?_⟩
    subst revokes
    have hne := of_decide_eq_true ha
    rw [if_neg fun hsame => hne hsame.symm]
    exact hsession
  | pruned prunes time effect =>
    refine effect.shows h.shows fun state b state' hread hbody => ?_
    obtain ⟨hshown, hsession⟩ := h.read hread
    refine ⟨state', shown_of_fewer hshown (pruned_fewer hbody), ?_⟩
    rw [pruneBody_ok hbody, if_neg fun hselected => ?_]
    · exact hsession
    · obtain ⟨session', hsession', hexpired⟩ := expiredTokenHashes_expired hselected
      rw [hsession] at hsession'
      obtain rfl := Option.some.inj hsession'
      subst prunes
      simp only [Action.spares, time, Except.toOption, Option.all_some, decide_eq_true_eq] at ha
      exact absurd hexpired (not_le.mpr ha)
  | lost _ back marker => exact h.shows.loss back marker
  | disturbed by_other _ =>
    cases a with
    | removeSessions => cases ha
    | garbleSessions => cases ha
    | _ => cases by_other

theorem authenticate_ok {email password : String} {user : PublicUser} (h : s.authenticate lib email password fault = .ok user) :
    ∃ state record, (accounts lib).read s.users.file s.users.marker = .ok state ∧
      state.byEmail (normalizeEmail lib email) = some record ∧ verifyPassword lib password record.passwordHash = true ∧
      user = record.publicUser := by
  unfold authenticate at h
  have hanswers := Authority.transact_answers h
  generalize ((accounts lib).perform s.users fault ((accounts lib).transact (authenticateBody lib email password))).2 = d'
    at hanswers
  have hbody : ∃ state written, (accounts lib).read s.users.file s.users.marker = .ok state ∧
      authenticateBody lib email password state = .ok (user, written) := by
    cases hanswers with
    | same reads decides => exact ⟨_, _, reads, decides⟩
    | written reads decides => exact ⟨_, _, reads, decides⟩
  obtain ⟨state, written, hread, hbody⟩ := hbody
  unfold authenticateBody at hbody
  split at hbody
  · rename_i record hrecord
    split at hbody
    · rename_i hverified
      rw [Bool.and_eq_true] at hverified
      exact ⟨state, record, hread, hrecord, hverified.1, (Prod.mk.inj (Except.ok.inj hbody)).1.symm⟩
    · cases hbody
  · cases hbody

/-- The account of an address is filed under its identifier. -/
theorem byEmail_named {state : Users} {email : String} {record : UserRecord} (hvalid : state.Valid lib)
    (h : state.byEmail email = some record) : record.id ≠ "" := by
  obtain ⟨userId, _, h⟩ := Option.bind_eq_some_iff.mp h
  split at h
  · cases h
  · exact (hvalid.records _ _ h).1.id

theorem of_toOption_eq_some {α : Type} {x : Except AuthError α} {b : α} (h : x.toOption = some b) : x = .ok b := by
  cases x with
  | error e => cases h
  | ok b' => rw [Option.some.inj h]

theorem step_named (h : Named s) (a : Action) : Named (step lib s a) := by
  cases a with
  | authenticate email password fault =>
    intro user huser
    rcases List.mem_append.mp huser with huser | huser
    · exact h user huser
    · obtain ⟨state, record, hread, hrecord, -, rfl⟩ := authenticate_ok (of_toOption_eq_some (Option.mem_toList.mp huser))
      exact byEmail_named (read_valid hread) hrecord
  | loss usersBack sessionsBack usersMarker sessionsMarker =>
    intro user huser
    cases huser
  | ensure usersFault sessionsFault => exact h
  | register r fault => exact h
  | issue login reading draw fault => exact h
  | logout token fault => exact h
  | prune now maxDeletions dryRun fault => exact h
  | removeUsers => exact h
  | garbleUsers => exact h
  | removeSessions => exact h
  | garbleSessions => exact h

theorem run_named (h : Named s) (actions : List Action) : Named (run lib s actions) := by
  induction actions generalizing s with
  | nil => exact h
  | cons a actions ih => exact ih (step_named h a)

theorem after_named (actions : List Action) : Named (after lib actions) := by
  have hinitial : Named AuthSystem.initial := by
    intro user huser
    cases huser
  exact run_named hinitial actions

theorem run_keepsSession (h : KeepsSession hash session s.sessions) (hnamed : Named s)
    (hspares : ∀ a ∈ actions, a.spares lib hash session.expiresAt = true) :
    KeepsSession hash session (run lib s actions).sessions := by
  induction actions generalizing s with
  | nil => exact h
  | cons a actions ih =>
    refine ih (h.change hnamed (hspares a List.mem_cons_self) (step_sessions s a)) (step_named hnamed a) fun b hb => ?_
    exact hspares b (List.mem_cons_of_mem a hb)

/-- A session that is acknowledged is in the file. -/
theorem issue_keeps {user : PublicUser} {draw : Draw} (hid : user.id ≠ "") (hhash : isTokenHash (lib.sha256 draw.token) = true)
    (hcsrf : isCsrfToken draw.csrfToken = true) (h : (s.issue lib user.id reading draw fault).1 = .ok session) :
    KeepsSession (lib.sha256 draw.token) session (s.issue lib user.id reading draw fault).2 := by
  unfold issue at h ⊢
  cases htime : clockNow reading with
  | error e =>
    rw [htime] at h
    cases h
  | ok now =>
    rw [htime] at h
    have hanswers := Authority.transact_answers h
    change KeepsSession _ _ (logins.perform s.sessions fault
      (logins.transact (createBody (lib.sha256 draw.token) (newSession user.id draw now)))).2
    generalize (logins.perform s.sessions fault
      (logins.transact (createBody (lib.sha256 draw.token) (newSession user.id draw now)))).2 = d' at hanswers ⊢
    cases hanswers with
    | same _ decides =>
      obtain ⟨_, _, hwritten, _⟩ := createBody_ok decides
      cases hwritten
    | @written state state' reads decides =>
      obtain ⟨rfl, _, hwritten, hget⟩ := createBody_ok decides
      obtain rfl := Option.some.inj hwritten
      refine ⟨⟨rfl, rfl⟩, Disk.Shows.of_settled rfl ⟨state', shown_of_created (newSession_sound hid hhash hcsrf) ?_ decides, ?_⟩⟩
      · intro hash' session' hsession'
        rcases Authority.read_ok reads with hshown | ⟨_, _, rfl⟩
        · exact shown_sound hshown hsession'
        · cases hsession'
      · rw [hget, if_pos rfl]

/-- **A session stays until it expires.** Once a login has been given its session, in every run that goes on from there, with
faults in any call, processes that die and losses of power: as long as it is not logged out, not deleted before its time, and
nobody else touches the sessions, a request with its token finds it exactly until it expires. -/
theorem session_stays {login : ℕ} {user : PublicUser} {draw : Draw} {reading' : PyFloat}
    (hwaiting : (after lib before).authenticated[login]? = some user)
    (hhash : isTokenHash (lib.sha256 draw.token) = true) (hcsrf : isCsrfToken draw.csrfToken = true)
    (hack : ((after lib before).issue lib user.id reading draw fault).1 = .ok session)
    (hspares : ∀ a ∈ between, a.spares lib (lib.sha256 draw.token) session.expiresAt = true)
    (htime : clockNow reading' = .ok current) :
    (after lib (before ++ .issue login reading draw fault :: between)).resolve lib draw.token reading' none =
      .ok (if current < session.expiresAt then some session else none) := by
  have hnamed : Named (after lib before) := after_named before
  have hstep : (step lib (after lib before) (.issue login reading draw fault)).sessions =
      ((after lib before).issue lib user.id reading draw fault).2 := by
    simp only [step, hwaiting]
  have hkeeps : KeepsSession (lib.sha256 draw.token) session
      (step lib (after lib before) (.issue login reading draw fault)).sessions := by
    rw [hstep]
    exact issue_keeps (hnamed user (List.mem_of_getElem? hwaiting)) hhash hcsrf hack
  rw [after_append_cons]
  obtain ⟨state, hshown, hsession⟩ := (run_keepsSession hkeeps (step_named hnamed _) hspares).shows.file
  unfold resolve
  rw [htime]
  change (logins.perform _ none _).1 = _
  rw [Authority.transact_none (Authority.read_of_shown hshown), resolveBody, hsession, Option.filter_some]
  change Except.ok (if decide (current < session.expiresAt) = true then some session else none) = _
  rw [if_congr decide_eq_true_iff rfl rfl]

theorem session_stays_lostPrune :
    (after Sample.authLib (Sample.login ++ .issue 0 (.finite 1) Sample.draw none :: Sample.lostPrune)).resolve Sample.authLib
      Sample.draw.token (.finite 4) none = .ok (if 4 < Sample.annSession.expiresAt then some Sample.annSession else none) :=
  @session_stays Sample.authLib Sample.login Sample.lostPrune Sample.annSession none (.finite 1) 4 0 Sample.annUser Sample.draw
    (.finite 4) (by decide +kernel) (by decide +kernel) (by decide +kernel) (by decide +kernel) (by decide +kernel) (by decide +kernel)

/-! ### Every session belongs to a login -/

/-- The user was verified in the run: a request named the address of an account, and a password that has its hash. -/
def VerifiedIn (lib : AuthLib) (actions : List Action) (user : PublicUser) : Prop :=
  ∃ earlier email password fault later, actions = earlier ++ .authenticate email password fault :: later ∧
    (after lib earlier).authenticate lib email password fault = .ok user

/-- The session was made in the run, with a token of its digest, for a user who was verified before. -/
def IssuedIn (lib : AuthLib) (actions : List Action) (hash : String) (session : AuthSession) : Prop :=
  ∃ earlier login reading draw fault later user now, actions = earlier ++ .issue login reading draw fault :: later ∧
    lib.sha256 draw.token = hash ∧ VerifiedIn lib earlier user ∧ clockNow reading = .ok now ∧
    session = newSession user.id draw now

theorem VerifiedIn.append {user : PublicUser} (h : VerifiedIn lib actions user) (later : List Action) :
    VerifiedIn lib (actions ++ later) user := by
  obtain ⟨earlier, email, password, fault, rest, rfl, hok⟩ := h
  exact ⟨earlier, email, password, fault, rest ++ later, by rw [List.append_assoc, List.cons_append], hok⟩

theorem IssuedIn.append (h : IssuedIn lib actions hash session) (later : List Action) :
    IssuedIn lib (actions ++ later) hash session := by
  obtain ⟨earlier, login, reading, draw, fault, rest, user, now, rfl, hhash, hverified, htime, hsession⟩ := h
  exact ⟨earlier, login, reading, draw, fault, rest ++ later, user, now, by rw [List.append_assoc, List.cons_append], hhash,
    hverified, htime, hsession⟩

theorem after_concat (actions : List Action) (a : Action) : after lib (actions ++ [a]) = step lib (after lib actions) a :=
  after_append_cons actions a []

theorem waiting_verified (actions : List Action) {user : PublicUser} (h : user ∈ (after lib actions).authenticated) :
    VerifiedIn lib actions user := by
  induction actions using List.reverseRecOn with
  | nil => cases h
  | append_singleton actions a ih =>
    rw [after_concat] at h
    have hkept : user ∈ (after lib actions).authenticated → VerifiedIn lib (actions ++ [a]) user :=
      fun huser => (ih huser).append [a]
    cases a with
    | authenticate email password fault =>
      rcases List.mem_append.mp h with huser | huser
      · exact hkept huser
      · exact ⟨actions, email, password, fault, [], rfl, of_toOption_eq_some (Option.mem_toList.mp huser)⟩
    | loss usersBack sessionsBack usersMarker sessionsMarker => cases h
    | ensure usersFault sessionsFault => exact hkept h
    | register r fault => exact hkept h
    | issue login reading draw fault => exact hkept h
    | logout token fault => exact hkept h
    | prune now maxDeletions dryRun fault => exact hkept h
    | removeUsers => exact hkept h
    | garbleUsers => exact hkept h
    | removeSessions => exact hkept h
    | garbleSessions => exact hkept h

/-- The sessions of the file were made in the run. -/
def Issued (lib : AuthLib) (actions : List Action) (d : Disk (Option Sessions)) : Prop :=
  d.Shows fun x => ∀ state, logins.shown x = some state → ∀ hash session, state.get? hash = some session →
    IssuedIn lib actions hash session

theorem Issued.read {state : Sessions} (h : Issued lib actions d) (hread : logins.read d.file d.marker = .ok state)
    (hget : state.get? hash = some session) : IssuedIn lib actions hash session := by
  rcases Authority.read_ok hread with hshown | ⟨_, _, rfl⟩
  · exact h.file state hshown hash session hget
  · cases hget

theorem Issued.change (h : Issued lib actions (after lib actions).sessions)
    (hchange : SessionsChange lib (after lib actions) a d') : Issued lib (actions ++ [a]) d' := by
  have hmono : Issued lib (actions ++ [a]) (after lib actions).sessions :=
    Disk.Shows.mono h fun _ hx state hstate hash session hget => (hx state hstate hash session hget).append [a]
  cases hchange with
  | ensured ensures =>
    cases ensures with
    | marked fault => exact Disk.Shows.markUntil hmono fault
    | created _ _ fault =>
      refine Disk.Shows.write hmono ?_ fault
      intro state hstate hash session hget
      obtain ⟨-, rfl⟩ := Authority.shown_some.mp hstate
      cases hget
  | issued issues waiting time effect =>
    refine effect.shows hmono fun state b state' hread hbody => ?_
    intro state'' hstate hash session hget
    obtain ⟨-, rfl⟩ := Authority.shown_some.mp hstate
    obtain ⟨_, _, hwritten, hget'⟩ := createBody_ok hbody
    obtain rfl := Option.some.inj hwritten
    rw [hget'] at hget
    split at hget
    · rename_i hsame
      obtain rfl := Option.some.inj hget
      have hverified := waiting_verified actions (List.mem_of_getElem? waiting)
      exact ⟨actions, _, _, _, _, [], _, _, by rw [issues], hsame.symm, hverified, time, rfl⟩
    · exact hmono.read hread hget
  | revoked _ effect =>
    refine effect.shows hmono fun state b state' hread hbody => ?_
    intro state'' hstate hash session hget
    obtain ⟨-, rfl⟩ := Authority.shown_some.mp hstate
    have hgone := (get?_revoked hbody hash).symm.trans hget
    split at hgone
    · cases hgone
    · exact hmono.read hread hgone
  | pruned _ _ effect =>
    refine effect.shows hmono fun state b state' hread hbody => ?_
    intro state'' hstate hash session hget
    obtain ⟨-, rfl⟩ := Authority.shown_some.mp hstate
    rw [pruneBody_ok hbody] at hget
    split at hget
    · cases hget
    · exact hmono.read hread hget
  | lost _ back marker => exact Disk.Shows.loss hmono back marker
  | disturbed _ nothing =>
    refine Disk.Shows.disturb hmono ?_
    intro state hstate
    rw [nothing] at hstate
    cases hstate

end AuthSystem
end IRLight.AuthStore
