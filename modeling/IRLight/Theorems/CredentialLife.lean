import IRLight.ControlPlane.Programs

/-! # Credentials die with the Session

Issuing reads the Session and writes the credential in two steps, and ending a Session revokes its
credentials and then ends it in two more. A credential that is written in time, before the revocation
that the end relies on, is revoked with the rest. -/

namespace IRLight
open Interleaving Status

/-- Every credential of the Session is revoked. -/
def World.Revoked (w : World) (sid : String) : Prop :=
  ∀ cr ∈ w.credentials, cr.sessionId = sid → cr.revokedAt.isSome

/-- The task has not returned yet. -/
def Unfinished (t : Task Request Op Op.Res Exc Response Input) : Prop := ∃ o next, t.program = .call o next

/-- A credential is written for no Session that has ended, and for none that an unfinished task has revoked. -/
def TimelyIssue (c : Plane) : Action Request Input → Prop
  | .start _ => True
  | .step i x => ∀ sid user scope protocols ttl now h, c.Calls i (.issue sid user scope protocols ttl now) h →
      x.fault = none → (∀ r, c.state.store.session? sid = some r → r.status ∉ [finished, failed]) ∧
        ∀ t ∈ c.tasks, Unfinished t → ¬Revoked t.history sid

section
variable {apiOnly : Prop} {i : ℕ} {h : History} {o : Op} {x : Input} {w : World} {sid : String}

/-! ### One call -/

theorem World.transact_cases {α σ : Type} (w : World) (fault : Option Exc) (run : Except Exc (α × σ)) (set : σ → World) :
    (∃ e, w.transact fault run set = (.error e, w)) ∨
      ∃ a s, fault = none ∧ run = .ok (a, s) ∧ w.transact fault run set = (.ok a, set s) := by
  unfold transact
  split
  · exact Or.inl ⟨_, rfl⟩
  · exact Or.inr ⟨_, _, rfl, rfl, rfl⟩
  · exact Or.inl ⟨_, rfl⟩

@[simp] theorem World.callProvider_credentials {α : Type} (w : World) (x : Input) (a : α) (inv : Inventory) :
    (w.callProvider x a inv).2.credentials = w.credentials := by
  unfold callProvider
  split
  · split <;> rfl
  · rfl

theorem Credential.revoke_isSome {cr : Credential} {t : Timestamp} : (cr.revoke t).revokedAt.isSome := by
  cases hr : cr.revokedAt <;> simp [revoke, hr]

/-- What issuing does to the credentials. -/
theorem mem_of_issueCredential {l l' : List Credential} {user : String} {scope : CredentialScope}
    {protocols : List Protocol} {ttl : ℚ} {now : Timestamp} {fresh : Uuid} {c cr : Credential}
    (hrun : issueCredential l sid user scope protocols ttl now fresh = .ok (c, l')) (hcr : cr ∈ l') :
    (∃ cr₀ ∈ l, cr₀.sessionId = cr.sessionId ∧ (cr₀.revokedAt.isSome → cr.revokedAt.isSome)) ∨ cr.sessionId = sid := by
  obtain ⟨_, _, hrun⟩ := bind_eq_ok.mp hrun
  obtain ⟨_, _, hrun⟩ := bind_eq_ok.mp hrun
  obtain ⟨expiresAt, _, hrun⟩ := bind_eq_ok.mp hrun
  obtain ⟨rfl, rfl⟩ := Prod.mk.inj (pure_eq_ok.mp hrun)
  rcases List.mem_append.mp hcr with hcr | hcr
  · obtain ⟨cr₀, hcr₀, rfl⟩ := List.mem_map.mp hcr
    split
    · exact Or.inl ⟨cr₀, hcr₀, rfl, fun _ => Credential.revoke_isSome⟩
    · exact Or.inl ⟨cr₀, hcr₀, rfl, id⟩
  · rw [List.mem_singleton.mp hcr]
    exact Or.inr rfl

/-- What revoking does to the credentials. -/
theorem mem_of_revokeSessionCredentials {l l' : List Credential} {reading : PyFloat} {n : ℕ} {cr : Credential}
    (hrun : revokeSessionCredentials l sid reading = .ok (n, l')) (hcr : cr ∈ l') :
    (∃ cr₀ ∈ l, cr₀.sessionId = cr.sessionId ∧ (cr₀.revokedAt.isSome → cr.revokedAt.isSome)) ∧
      (cr.sessionId = sid → cr.revokedAt.isSome) := by
  obtain ⟨time, _, hrun⟩ := bind_eq_ok.mp hrun
  obtain ⟨_, rfl⟩ := Prod.mk.inj (pure_eq_ok.mp hrun)
  obtain ⟨cr₀, hcr₀, rfl⟩ := List.mem_map.mp hcr
  split
  · exact ⟨⟨cr₀, hcr₀, rfl, fun _ => Credential.revoke_isSome⟩, fun _ => Credential.revoke_isSome⟩
  · exact ⟨⟨cr₀, hcr₀, rfl, id⟩, fun hsid => absurd hsid ‹_›⟩

/-- Where the credentials after a call come from. -/
theorem World.exec_credentials {cr : Credential} (hcr : cr ∈ (World.exec i o x w).2.credentials) :
    (∃ cr₀ ∈ w.credentials, cr₀.sessionId = cr.sessionId ∧ (cr₀.revokedAt.isSome → cr.revokedAt.isSome)) ∨
      ∃ user scope protocols ttl now, o = .issue cr.sessionId user scope protocols ttl now ∧ x.fault = none := by
  have of_same : (World.exec i o x w).2.credentials = w.credentials →
      ∃ cr₀ ∈ w.credentials, cr₀.sessionId = cr.sessionId ∧ (cr₀.revokedAt.isSome → cr.revokedAt.isSome) :=
    fun hsame => ⟨cr, hsame ▸ hcr, rfl, id⟩
  cases o with
  | issue sid user scope protocols ttl now =>
    rcases World.transact_cases { w with serial := w.serial + 1 } (x.fault.map .ingestCredentialError)
      (issueCredential w.credentials sid user scope protocols ttl now ⟨i, w.serial⟩)
      (fun l => { w with credentials := l, serial := w.serial + 1 }) with ⟨e, he⟩ | ⟨a, l, hx, hrun, he⟩
    · exact Or.inl (of_same (congrArg (fun r => r.2.credentials) he))
    · have hl : (World.exec i (.issue sid user scope protocols ttl now) x w).2.credentials = l :=
        congrArg (fun r => r.2.credentials) he
      rcases mem_of_issueCredential hrun (hl ▸ hcr) with hold | rfl
      · exact Or.inl hold
      · exact Or.inr ⟨user, scope, protocols, ttl, now, rfl, by simpa using hx⟩
  | revokeSession sid =>
    rcases World.transact_cases { w with serial := w.serial + 1 } (x.fault.map .ingestCredentialError)
      (revokeSessionCredentials w.credentials sid (x.clock 0))
      (fun l => { w with credentials := l, serial := w.serial + 1 }) with ⟨e, he⟩ | ⟨a, l, hx, hrun, he⟩
    · exact Or.inl (of_same (congrArg (fun r => r.2.credentials) he))
    · have hl : (World.exec i (.revokeSession sid) x w).2.credentials = l := congrArg (fun r => r.2.credentials) he
      exact Or.inl (mem_of_revokeSessionCredentials hrun (hl ▸ hcr)).1
  | store so => exact Or.inl (of_same (World.transact_keeps World.credentials fun _ => rfl))
  | readAuthority => exact Or.inl (of_same (World.transact_keeps World.credentials fun _ => rfl))
  | writeTokenFuse => exact Or.inl (of_same (World.transact_keeps World.credentials fun _ => rfl))
  | writeAuthority a => exact Or.inl (of_same (World.transact_keeps World.credentials fun _ => rfl))
  | time => exact Or.inl (of_same rfl)
  | uuid => exact Or.inl (of_same rfl)
  | _ => exact Or.inl (of_same (World.callProvider_credentials _ _ _ _))

theorem revoked_of_revokeSession {n : ℕ} (he : (World.exec i (.revokeSession sid) x w).1 = .ok n) :
    (World.exec i (.revokeSession sid) x w).2.Revoked sid := by
  intro cr hcr hsid
  rcases World.transact_cases { w with serial := w.serial + 1 } (x.fault.map .ingestCredentialError)
    (revokeSessionCredentials w.credentials sid (x.clock 0))
    (fun l => { w with credentials := l, serial := w.serial + 1 }) with ⟨e, herr⟩ | ⟨a, l, hx, hrun, hok⟩
  · cases he.symm.trans (congrArg Prod.fst herr)
  · have hl : (World.exec i (.revokeSession sid) x w).2.credentials = l := congrArg (fun r => r.2.credentials) hok
    exact (mem_of_revokeSessionCredentials hrun (hl ▸ hcr)).2 hsid

/-- A call that issues nothing for the Session leaves its credentials revoked. -/
theorem revoked_exec (hr : w.Revoked sid)
    (hissue : ∀ user scope protocols ttl now, o = .issue sid user scope protocols ttl now → x.fault ≠ none) :
    (World.exec.state i o x w).Revoked sid := by
  intro cr hcr hsid
  rcases World.exec_credentials hcr with ⟨cr₀, hcr₀, hsame, hkeep⟩ | ⟨user, scope, protocols, ttl, now, rfl, hx⟩
  · exact hkeep (hr cr₀ hcr₀ (hsame.trans hsid))
  · exact absurd hx (hissue user scope protocols ttl now (hsid ▸ rfl))

/-- A call that ends a Session comes after its revocation, or finds a Session that was never ready. -/
theorem cleared_of_ended (hw : w.Sound) (hp : Permits apiOnly i h o w) {r' : Session}
    (hr' : (World.exec.state i o x w).store.session? sid = some r') (h5 : 5 ≤ r'.status.phase) :
    (∃ r, w.store.session? sid = some r ∧ 5 ≤ r.status.phase) ∨ Revoked h sid ∨ w.NeverReady sid ∨
      w.store.session? sid = none := by
  by_cases hstore : ∃ so, o = .store so
  · obtain ⟨so, rfl⟩ := hstore
    have hs : ∀ sid r, w.store.session? sid = some r → r.Sound := fun sid r hr => (hw.record sid r hr).1
    rcases (World.exec_commits hw hp).record hs hr' with hr | ⟨r, hr, hm⟩ | ⟨hnone, _⟩
    · exact Or.inl ⟨r', hr, h5⟩
    · rcases hm.ends h5 with h5' | hends
      · exact Or.inl ⟨r, hr, h5'⟩
      · cases so with
        | transition sid₀ new allowed changes =>
          rcases World.exec_store_cases i (.transition sid₀ new allowed changes) x w with
            ⟨a, s', _, hrun, he⟩ | ⟨e, he, _⟩
          · obtain ⟨_, _, _, _, _, _, _, rfl⟩ := SessionStore.effect_transition hrun
            rw [Exec.state, he] at hr'
            rcases SessionStore.session?_put hr' with ⟨rfl, rfl⟩ | hold
            · obtain ⟨_, ⟨rfl, _⟩ | ⟨_, hcleared⟩⟩ := hp
              · cases hends
              · exact Or.inr (hcleared.imp id Or.inl)
            · exact Or.inl ⟨r', hold, h5⟩
          · rw [Exec.state, he] at hr'
            exact Or.inl ⟨r', hr', h5⟩
        | _ => cases hends
    · exact Or.inr (Or.inr (Or.inr hnone))
  · rw [Exec.state, World.exec_other fun so hso => hstore ⟨so, hso⟩] at hr'
    exact Or.inl ⟨r', hr', h5⟩

/-! ### Every run -/

/-- What every run keeps about credentials. -/
structure Mortal (c : Plane) : Prop where
  issued : ∀ cr ∈ c.state.credentials, ∃ r, c.state.store.session? cr.sessionId = some r ∧ r.readyAt.isSome
  revoked : ∀ t ∈ c.tasks, Unfinished t → ∀ sid, Revoked t.history sid → c.state.Revoked sid
  ended : ∀ sid r, c.state.store.session? sid = some r → 5 ≤ r.status.phase → c.state.Revoked sid

variable {c : Plane} {q : Request} {next : Except Exc o.Res → Control Response}

namespace Mortal

/-- Where nothing is known of a Session's acceptance of media, nothing was issued for it. -/
theorem revoked_of_unready (hm : Mortal c) (h : ∀ r, c.state.store.session? sid = some r → r.readyAt = none) :
    c.state.Revoked sid := by
  rintro cr hcr rfl
  obtain ⟨r, hr, hready⟩ := hm.issued cr hcr
  simp [h r hr] at hready

/-- What a task has revoked stays revoked while it runs. -/
theorem revoked_call (hm : Mortal c)
    (hissue : ∀ sid user scope protocols ttl now, o = .issue sid user scope protocols ttl now → x.fault = none →
      ∀ t ∈ c.tasks, Unfinished t → ¬Revoked t.history sid)
    {t : Task Request Op Op.Res Exc Response Input} (htask : t ∈ c.tasks) (hun : Unfinished t)
    (hrevoked : Revoked t.history sid) : (World.exec.state i o x c.state).Revoked sid :=
  revoked_exec (hm.revoked t htask hun sid hrevoked) fun _ _ _ _ _ ho hx => hissue _ _ _ _ _ _ ho hx t htask hun hrevoked

/-- A Session whose record says that it accepted no media gets no credential. -/
theorem revoked_unready (hm : Mortal c) (hp : Permits apiOnly i h o c.state)
    (hnone : ∀ r, c.state.store.session? sid = some r → r.readyAt = none) :
    (World.exec.state i o x c.state).Revoked sid := by
  refine revoked_exec (hm.revoked_of_unready hnone) fun user scope protocols ttl now ho => ?_
  subst ho
  obtain ⟨r, hr, hready⟩ := hp
  simp [hnone r hr] at hready

theorem call (hm : Mortal c) (hw : c.state.Sound) (hp : Permits apiOnly i h o c.state)
    (ht : c.tasks[i]? = some ⟨q, .call o next, h⟩)
    (hissue : ∀ sid user scope protocols ttl now, o = .issue sid user scope protocols ttl now → x.fault = none →
      (∀ r, c.state.store.session? sid = some r → r.status ∉ [finished, failed]) ∧
        ∀ t ∈ c.tasks, Unfinished t → ¬Revoked t.history sid) :
    Mortal ⟨World.exec.state i o x c.state,
      c.tasks.set i ⟨q, next (World.exec i o x c.state).1, World.exec.event i o x c.state :: h⟩⟩ := by
  have hlate := fun sid user scope protocols ttl now ho hx => (hissue sid user scope protocols ttl now ho hx).2
  have hself : ∀ {sid}, Revoked h sid → (World.exec.state i o x c.state).Revoked sid :=
    hm.revoked_call hlate (List.mem_of_getElem? ht) ⟨o, next, rfl⟩
  have hlater := (hw.exec (x := x) hp).2.1
  refine ⟨fun cr hcr => ?_, fun t' ht' hun sid hrevoked => ?_, fun sid r' hr' h5 => ?_⟩
  · have hready : ∃ r, c.state.store.session? cr.sessionId = some r ∧ r.readyAt.isSome := by
      rcases World.exec_credentials hcr with ⟨cr₀, hcr₀, hsame, _⟩ | ⟨_, _, _, _, _, rfl, _⟩
      · exact hsame ▸ hm.issued cr₀ hcr₀
      · exact hp
    obtain ⟨r, hr, hr'⟩ := hready
    obtain ⟨r', hr₁, hl⟩ := hlater _ r hr
    exact ⟨r', hr₁, hl.ready hr'⟩
  · rcases List.mem_or_eq_of_mem_set ht' with ht' | rfl
    · exact hm.revoked_call hlate ht' hun hrevoked
    · obtain ⟨e, he, ho, hok⟩ := hrevoked
      rcases List.mem_cons.mp he with rfl | he
      · obtain rfl : o = .revokeSession sid := ho
        cases hres : (World.exec i (.revokeSession sid) x c.state).1 with
        | ok n => exact revoked_of_revokeSession hres
        | error e => simp [Event.isOk, Exec.event, hres] at hok
      · exact hself ⟨e, he, ho, hok⟩
  · rcases cleared_of_ended hw hp hr' h5 with ⟨r, hr, h5'⟩ | hrevoked | ⟨r, hr, _, _, hready⟩ | hnone
    · refine revoked_exec (hm.ended sid r hr h5') fun user scope protocols ttl now ho hx => ?_
      have hlive := (hissue sid user scope protocols ttl now ho hx).1 r hr
      revert h5' hlive
      cases r.status <;> decide
    · exact hself hrevoked
    · refine hm.revoked_unready hp fun r₁ hr₁ => ?_
      obtain rfl := Option.some.inj (hr.symm.trans hr₁)
      exact hready
    · exact hm.revoked_unready hp fun r hr => by simp [hnone] at hr

end Mortal

variable {config : Config} {stable : Timestamp}

theorem Mortal.act (hm : Mortal c) (hs : Pool.Sound (discipline apiOnly) (fun _ _ _ _ => True) c)
    {a : Action Request Input} (ha : TimelyIssue c a) : Mortal (c.act World.exec (Request.program config) a) := by
  rcases Pool.act_cases World.exec (Request.program config) c a with
    ⟨q, rfl, he⟩ | ⟨i, x, q, o, next, h, rfl, ht, he⟩ | he <;> rw [he]
  · refine ⟨hm.issued, fun t ht hun sid hrevoked => ?_, hm.ended⟩
    rcases List.mem_append.mp ht with ht | ht
    · exact hm.revoked t ht hun sid hrevoked
    · obtain rfl := List.mem_singleton.mp ht
      obtain ⟨e, he, _⟩ := hrevoked
      cases he
  · have hcall : c.Calls i o h := ⟨_, next, ht, rfl, rfl⟩
    refine hm.call hs.inv (hs.permitted hcall) ht fun sid user scope protocols ttl now ho hx => ?_
    subst ho
    exact ha sid user scope protocols ttl now h hcall hx
  · exact hm

/-- **Credentials die with the Session**, in every run that writes each credential in time: a Session that is
    FINISHED or FAILED has no unrevoked credential of any scope. -/
theorem credentials_die (hr : Plane.Reaches config stable TimelyIssue c) {sid : String} {r : Session}
    (hsession : c.state.store.session? sid = some r) (hended : r.status ∈ [finished, failed]) :
    ∀ cr ∈ c.state.credentials, cr.sessionId = sid → cr.revokedAt.isSome := by
  have hinv : Mortal c := by
    refine hr.invariant ⟨fun cr hcr => ?_, fun t ht => ?_, fun sid r hr => ?_⟩ fun c a hr ha hm =>
      hm.act (Plane.sound False hr fun _ _ _ h => h.elim) ha
    · cases hcr
    · cases ht
    · simp [World.initial, SessionStore.session?] at hr
  refine hinv.ended sid r hsession ?_
  revert hended
  cases r.status <;> decide

/-- The write of a credential meets a running Session, and no task has revoked anything yet. -/
def writesInTime (c : Plane) : Action Request Input → Bool
  | .start _ => true
  | .step i _ => c.nextSatisfies i fun _ o _ =>
      match o with
      | .issue sid _ _ _ _ _ =>
        (c.state.store.session? sid).all (·.status ∉ [finished, failed]) &&
          c.tasks.all fun t => t.history.all fun e => !(e.op matches .revokeSession _)
      | _ => true

theorem timelyIssue_of_writesInTime (c : Plane) (a : Action Request Input) (ha : writesInTime c a) : TimelyIssue c a := by
  cases a with
  | start q => trivial
  | step i x =>
    intro sid user scope protocols ttl now h hcall _
    obtain ⟨q, hφ⟩ := hcall.satisfies ha
    simp only [Bool.and_eq_true, List.all_eq_true] at hφ
    refine ⟨fun r hr => by simpa [hr] using hφ.1, fun t ht _ ⟨e, he, ho, _⟩ => ?_⟩
    have := hφ.2 t ht e he
    simp [ho] at this

/-- A Session gets a credential and is then stopped. -/
def Sample.issuedThenStopped : List (Action Request Input) :=
  .start (.prepare (Sample.call .dev)) :: quietSteps 0 17 1 ++ .start Sample.issue :: quietSteps 1 3 2 ++
    .start (.stop Sample.sid Sample.user) :: quietSteps 2 20 3

theorem credentials_die_sample :
    let c := Plane.after Sample.config 5 Sample.issuedThenStopped
    ∃ cr ∈ c.state.credentials, cr.sessionId = Sample.sid ∧ cr.revokedAt.isSome := by
  intro c
  have hreach : Plane.Reaches Sample.config 5 TimelyIssue c :=
    Reachable.init.run_of_checks timelyIssue_of_writesInTime (by decide +kernel)
  have hended : (c.state.store.session? Sample.sid).any (·.status ∈ [finished, failed]) := by decide +kernel
  have hissued : ∃ cr ∈ c.state.credentials, cr.sessionId = Sample.sid := by decide +kernel
  obtain ⟨r, hr, hst⟩ := (Option.any_eq_true _ _).mp hended
  obtain ⟨cr, hcr, hsid⟩ := hissued
  exact ⟨cr, hcr, hsid, credentials_die hreach hr (by simpa using hst) cr hcr hsid⟩

/-- The stop runs between the look at the Session and the write of its credential. -/
def Sample.stoppedWhileIssuing : List (Action Request Input) :=
  .start (.prepare (Sample.call .dev)) :: quietSteps 0 17 1 ++ .start Sample.issue :: quietSteps 1 2 2 ++
    .start (.stop Sample.sid Sample.user) :: quietSteps 2 20 3 ++ quietSteps 1 1 4

/-- A credential outlives its Session, with every call returned. -/
theorem credential_outlives_session :
    let c := Plane.after Sample.config 5 Sample.stoppedWhileIssuing
    (∀ t ∈ c.tasks, t.program matches .done _) ∧ (∃ r, c.state.store.session? Sample.sid = some r ∧ r.status = finished) ∧
      ∃ cr ∈ c.state.credentials, cr.sessionId = Sample.sid ∧ cr.revokedAt = none := by
  intro c
  have hended : (c.state.store.session? Sample.sid).any (·.status = finished) := by decide +kernel
  obtain ⟨r, hr, hst⟩ := (Option.any_eq_true _ _).mp hended
  exact ⟨by decide +kernel, ⟨r, hr, by simpa using hst⟩, by decide +kernel⟩

end
end IRLight
