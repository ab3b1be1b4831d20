import IRLight.ControlPlane.Discipline

/-! # The contract between the tasks of the Control Plane

Every record is sound, every record only moves on to a later version of itself, and nobody else becomes
the owner of a Session under an identifier that a task drew. -/

namespace IRLight
open Interleaving Status

/-! ### One call -/

/-- A call of the Session store commits, or raises and changes nothing. -/
theorem World.exec_store_cases (i : ℕ) (o : StoreOp) (x : Input) (w : World) :
    (∃ a s', x.fault = none ∧ o.run x.clock ⟨i, w.serial⟩ w.store = .ok (a, s') ∧
      World.exec i (.store o) x w = (.ok a, { w with store := s', serial := w.serial + 1 })) ∨
    ∃ e, World.exec i (.store o) x w = (.error e, { w with serial := w.serial + 1 }) ∧
      ((∃ m, x.fault = some m ∧ e = .sessionStateError m) ∨ o.run x.clock ⟨i, w.serial⟩ w.store = .error e) := by
  cases hx : x.fault with
  | some m => exact Or.inr ⟨.sessionStateError m, by simp [World.exec, World.transact, hx], Or.inl ⟨m, rfl, rfl⟩⟩
  | none =>
    cases hrun : o.run x.clock ⟨i, w.serial⟩ w.store with
    | ok p =>
      obtain ⟨a, s'⟩ := p
      exact Or.inl ⟨a, s', rfl, rfl, by simp [World.exec, World.transact, hx, hrun]⟩
    | error e => exact Or.inr ⟨e, by simp [World.exec, World.transact, hx, hrun], Or.inr rfl⟩

/-- What a call that returned did to the Session store. -/
theorem World.exec_store_ok {i : ℕ} {o : StoreOp} {x : Input} {w : World} {a : o.Res}
    (h : (World.exec i (.store o) x w).1 = .ok a) :
    o.run x.clock ⟨i, w.serial⟩ w.store = .ok (a, (World.exec i (.store o) x w).2.store) := by
  rcases World.exec_store_cases i o x w with ⟨b, s', _, hrun, he⟩ | ⟨e, he, _⟩
  · rw [he] at h ⊢
    obtain rfl := Except.ok.inj h
    exact hrun
  · rw [he] at h
    cases h

@[simp] theorem World.callProvider_store {α : Type} (w : World) (x : Input) (a : α) (inv : Inventory) :
    (w.callProvider x a inv).2.store = w.store ∧ (w.callProvider x a inv).2.serial = w.serial := by
  unfold World.callProvider
  split
  · split <;> exact ⟨rfl, rfl⟩
  · exact ⟨rfl, rfl⟩

theorem World.transact_keeps {α σ β : Type} {w : World} {fault : Option Exc} {run : Except Exc (α × σ)}
    {set : σ → World} (f : World → β) (hset : ∀ s, f (set s) = f w) : f (w.transact fault run set).2 = f w := by
  unfold World.transact
  split
  · rfl
  · exact hset _
  · rfl

/-- Only calls of the Session store change it. -/
theorem World.exec_other {i : ℕ} {o : Op} {x : Input} {w : World} (h : ∀ so, o ≠ .store so) :
    (World.exec i o x w).2.store = w.store := by
  cases o with
  | store so => exact absurd rfl (h so)
  | issue => exact World.transact_keeps World.store fun _ => rfl
  | revokeSession => exact World.transact_keeps World.store fun _ => rfl
  | readAuthority => exact World.transact_keeps World.store fun _ => rfl
  | writeTokenFuse => exact World.transact_keeps World.store fun _ => rfl
  | writeAuthority => exact World.transact_keeps World.store fun _ => rfl
  | time => rfl
  | uuid => rfl
  | _ => exact (World.callProvider_store _ _ _ _).1

@[simp] theorem World.exec_serial (i : ℕ) (o : Op) (x : Input) (w : World) :
    (World.exec i o x w).2.serial = w.serial + 1 := by
  cases o with
  | store => exact World.transact_keeps World.serial fun _ => rfl
  | issue => exact World.transact_keeps World.serial fun _ => rfl
  | revokeSession => exact World.transact_keeps World.serial fun _ => rfl
  | readAuthority => exact World.transact_keeps World.serial fun _ => rfl
  | writeTokenFuse => exact World.transact_keeps World.serial fun _ => rfl
  | writeAuthority => exact World.transact_keeps World.serial fun _ => rfl
  | time => rfl
  | uuid => rfl
  | _ => exact (World.callProvider_store _ _ _ _).2

/-! ### The contract -/

/-- What holds of the world between calls. -/
structure World.Sound (w : World) : Prop where
  record : ∀ sid r, w.store.session? sid = some r → r.Sound ∧ r.sessionId = sid
  drawn : ∀ sid r u, w.store.session? sid = some r → r.provisioningOperationId = some u → u.serial < w.serial

/-- What a task may rely on the others for. -/
structure World.Rely (i : ℕ) (w w' : World) : Prop where
  serial : w.serial ≤ w'.serial
  later : ∀ sid r, w.store.session? sid = some r → ∃ r', w'.store.session? sid = some r' ∧ r.Later r'
  owner : ∀ sid r' u, w'.store.session? sid = some r' → r'.provisioningOperationId = some u → u.owner = i →
    ∃ r, w.store.session? sid = some r ∧ r.provisioningOperationId = some u ∧
      (r'.status.phase ≤ 2 → r'.status = r.status)

theorem World.Rely.refl (i : ℕ) (w : World) : w.Rely i w :=
  ⟨le_rfl, fun _ r hr => ⟨r, hr, .refl r⟩, fun _ r _ hr hu _ => ⟨r, hr, hu, fun _ => rfl⟩⟩

theorem World.Rely.trans {i : ℕ} {w w' w'' : World} (h : w.Rely i w') (h' : w'.Rely i w'') : w.Rely i w'' where
  serial := h.serial.trans h'.serial
  later sid r hr := by
    obtain ⟨r', hr', hl⟩ := h.later sid r hr
    obtain ⟨r'', hr'', hl'⟩ := h'.later sid r' hr'
    exact ⟨r'', hr'', hl.trans hl'⟩
  owner sid r'' u hr hu hi := by
    obtain ⟨r', hr', hu', hst'⟩ := h'.owner sid r'' u hr hu hi
    obtain ⟨r₀, hr₀, hu₀, hst₀⟩ := h.owner sid r' u hr' hu' hi
    exact ⟨r₀, hr₀, hu₀, fun e => (hst' e).trans (hst₀ (hst' e ▸ e))⟩

/-- One version of the record of `sid` and the next, a claim included. -/
structure Session.Moves (o : StoreOp) (sid : String) (r r' : Session) : Prop where
  sound : r'.Sound
  later : r.Later r'
  sessionId : r'.sessionId = r.sessionId
  owner : r'.provisioningOperationId = r.provisioningOperationId ∨ r'.provisioningOperationId = none ∨
    ∃ op started, o = .claimProvisioning sid op started ∧ r'.provisioningOperationId = some op
  arrives : r'.status.phase = 3 → r.status.phase = 3 ∧ r'.provisioningOperationId = r.provisioningOperationId ∨
    r'.provisioningOperationId = none ∨ o.readies
  steady : r'.status.phase ≤ 2 → r'.status = r.status ∨ ∃ u, r'.provisioningOperationId = some u ∧
    (o.mover? = some u ∨ ∃ started, o = .claimProvisioning sid u started)
  ends : 5 ≤ r'.status.phase → 5 ≤ r.status.phase ∨ o.ends

/-- What a call does to one record: nothing, a move, or its creation. -/
def Commits.Record (o : StoreOp) (s : SessionStore) (sid : String) (r' : Session) : Prop :=
  s.session? sid = some r' ∨ (∃ r, s.session? sid = some r ∧ r.Moves o sid r') ∨
    s.session? sid = none ∧ r'.Sound ∧ r'.sessionId = sid ∧ r'.provisioningOperationId = none

theorem Commits.record {apiOnly : Prop} {o : StoreOp} {s s' : SessionStore} (hc : Commits apiOnly o s s')
    (hs : ∀ sid r, s.session? sid = some r → r.Sound) {sid : String} {r' : Session}
    (hr' : s'.session? sid = some r') : Commits.Record o s sid r' := by
  cases hc with
  | same h =>
    refine Or.inl ?_
    rw [SessionStore.session?, ← h]
    exact hr'
  | step hr h =>
    rcases SessionStore.session?_put hr' with ⟨rfl, rfl⟩ | hold
    · exact Or.inr (Or.inl ⟨_, hr,
        { sound := h.sound, later := h.later, sessionId := h.sessionId, owner := h.owner.imp id Or.inl,
          arrives := fun e => h.owner.elim (fun ho => (h.arrives e).imp (⟨·, ho⟩) id) fun ho => Or.inr (Or.inl ho)
          steady := fun e => (h.steady e).imp id (Exists.imp fun u hu => ⟨hu.2, Or.inl hu.1⟩)
          ends := h.ends }⟩)
    · exact Or.inl hold
  | reserve hr _ hsound hl hid _ how hst _ =>
    rcases SessionStore.session?_put hr' with ⟨rfl, rfl⟩ | hold
    · exact Or.inr (Or.inl ⟨_, hr,
        { sound := hsound, later := hl, sessionId := hid, owner := Or.inl how,
          arrives := fun e => Or.inl ⟨hst ▸ e, how⟩, steady := fun _ => Or.inl hst,
          ends := fun e => Or.inl (hst ▸ e) }⟩)
    · exact Or.inl hold
  | fresh hr _ hsound hid _ how _ =>
    rcases SessionStore.session?_put hr' with ⟨rfl, rfl⟩ | hold
    · exact Or.inr (Or.inr ⟨hr, hsound, hid, how⟩)
    · exact Or.inl hold
  | created _ hr hsound hid how _ =>
    rcases SessionStore.session?_put hr' with ⟨rfl, rfl⟩ | hold
    · exact Or.inr (Or.inr ⟨hr, hsound, hid, how⟩)
    · exact Or.inl hold
  | claim ho hr hstop _ =>
    rcases SessionStore.session?_put hr' with ⟨rfl, rfl⟩ | hold
    · exact Or.inr (Or.inl ⟨_, hr,
        { sound := SessionStore.claimed_sound _ _ _ (hs _ _ hr) hstop
          later := SessionStore.claimed_later _ _ _ hstop
          sessionId := rfl
          owner := Or.inr (Or.inr ⟨_, _, ho, rfl⟩)
          arrives := fun e => by cases e
          steady := fun _ => Or.inr ⟨_, rfl, Or.inr ⟨_, ho⟩⟩
          ends := fun e => absurd e (by simp [SessionStore.claimed, Status.phase]) }⟩)
    · exact Or.inl hold

/-- A transaction commits at most one record. -/
theorem Commits.shape {apiOnly : Prop} {o : StoreOp} {s s' : SessionStore} (hc : Commits apiOnly o s s') :
    s'.sessions = s.sessions ∨ ∃ sid r, s' = s.put sid r := by
  cases hc with
  | same h => exact Or.inl h
  | _ => exact Or.inr ⟨_, _, rfl⟩

/-- Records are never deleted. -/
theorem Commits.later {apiOnly : Prop} {o : StoreOp} {s s' : SessionStore} (hc : Commits apiOnly o s s') {sid : String}
    {r : Session} (hr : s.session? sid = some r) : ∃ r', s'.session? sid = some r' ∧ r.Later r' := by
  have put_later : ∀ {sid₀ : String} {r₀ r₁ : Session}, s.session? sid₀ = some r₁ → r₁.Later r₀ →
      ∃ r', (s.put sid₀ r₀).session? sid = some r' ∧ r.Later r' := by
    intro sid₀ r₀ r₁ hr₁ hl
    by_cases he : sid = sid₀
    · subst he
      obtain rfl := Option.some.inj (hr.symm.trans hr₁)
      exact ⟨r₀, SessionStore.session?_put_self, hl⟩
    · exact ⟨r, by rw [SessionStore.session?_put_ne he]; exact hr, .refl r⟩
  have put_other : ∀ {sid₀ : String} {r₀ : Session}, s.session? sid₀ = none →
      ∃ r', (s.put sid₀ r₀).session? sid = some r' ∧ r.Later r' := by
    intro sid₀ r₀ hr₁
    have he : sid ≠ sid₀ := fun he => by rw [he, hr₁] at hr; cases hr
    exact ⟨r, by rw [SessionStore.session?_put_ne he]; exact hr, .refl r⟩
  cases hc with
  | same h => exact ⟨r, by rw [SessionStore.session?, h]; exact hr, .refl r⟩
  | step hr₁ h => exact put_later hr₁ h.later
  | reserve hr₁ _ _ hl _ _ _ _ _ => exact put_later hr₁ hl
  | fresh hr₁ _ _ _ _ _ _ => exact put_other hr₁
  | created _ hr₁ _ _ _ _ => exact put_other hr₁
  | claim _ hr₁ hstop _ => exact put_later hr₁ (SessionStore.claimed_later _ _ _ hstop)

/-- A task makes checkpoints of its own provisioning only. -/
theorem StorePermits.mover {apiOnly : Prop} {i : ℕ} {h : History} {w : World} {o : StoreOp}
    (hp : StorePermits apiOnly i h w o) {u : Uuid} (hu : o.mover? = some u) : u.owner = i := by
  cases o with
  | provisioningCheckpoint =>
    obtain rfl := Option.some.inj hu
    exact hp.1
  | _ => cases hu

/-- A permitted call of the store changes the records by `Commits`, or not at all. -/
theorem World.exec_commits {apiOnly : Prop} {i : ℕ} {h : History} {o : StoreOp} {x : Input} {w : World} (hw : w.Sound)
    (hp : StorePermits apiOnly i h w o) : Commits apiOnly o w.store (World.exec i (.store o) x w).2.store := by
  rcases World.exec_store_cases i o x w with ⟨a, s', _, hrun, he⟩ | ⟨e, he, _⟩
  · rw [he]
    exact StoreOp.commits hrun hp hw.record
  · rw [he]
    exact .same rfl

/-- A permitted call keeps the world sound, and moves every record on. -/
theorem World.Sound.exec {apiOnly : Prop} {i : ℕ} {h : History} {o : Op} {x : Input} {w : World} (hw : w.Sound)
    (hp : Permits apiOnly i h o w) :
    (World.exec i o x w).2.Sound ∧
      (∀ sid r, w.store.session? sid = some r →
        ∃ r', (World.exec i o x w).2.store.session? sid = some r' ∧ r.Later r') ∧
      ∀ sid r' u, (World.exec i o x w).2.store.session? sid = some r' → r'.provisioningOperationId = some u →
        u.owner = i ∨ ∃ r, w.store.session? sid = some r ∧ r.provisioningOperationId = some u ∧
          (r'.status.phase ≤ 2 → r'.status = r.status) := by
  by_cases hstore : ∃ so, o = .store so
  · obtain ⟨so, rfl⟩ := hstore
    have hc : Commits apiOnly so w.store (World.exec i (.store so) x w).2.store := World.exec_commits hw hp
    have hrec {sid : String} {r' : Session} (hr' : (World.exec i (.store so) x w).2.store.session? sid = some r') :
        Commits.Record so w.store sid r' := hc.record (fun sid r hr => (hw.record sid r hr).1) hr'
    refine ⟨⟨fun sid r' hr' => ?_, fun sid r' u hr' hu => ?_⟩, fun sid r hr => hc.later hr, fun sid r' u hr' hu => ?_⟩
    · rcases hrec hr' with hr | ⟨r, hr, hm⟩ | ⟨_, hs, hid, _⟩
      · exact hw.record sid r' hr
      · exact ⟨hm.sound, hm.sessionId.trans (hw.record sid r hr).2⟩
      · exact ⟨hs, hid⟩
    · rw [World.exec_serial]
      rcases hrec hr' with hr | ⟨r, hr, hm⟩ | ⟨_, _, _, ho⟩
      · exact Nat.lt_succ_of_lt (hw.drawn sid r' u hr hu)
      · rcases hm.owner with ho | ho | ⟨op, started, rfl, ho⟩
        · exact Nat.lt_succ_of_lt (hw.drawn sid r u hr (ho ▸ hu))
        · rw [ho] at hu; cases hu
        · obtain rfl := Option.some.inj (ho.symm.trans hu)
          exact Nat.lt_succ_of_lt hp.2.1
      · rw [ho] at hu; cases hu
    · rcases hrec hr' with hr | ⟨r, hr, hm⟩ | ⟨_, _, _, ho⟩
      · exact Or.inr ⟨r', hr, hu, fun _ => rfl⟩
      · by_cases hi : u.owner = i
        · exact Or.inl hi
        · refine Or.inr ⟨r, hr, ?_, fun e => (hm.steady e).resolve_right ?_⟩
          · rcases hm.owner with ho | ho | ⟨op, started, rfl, ho⟩
            · exact ho ▸ hu
            · rw [ho] at hu; cases hu
            · obtain rfl := Option.some.inj (ho.symm.trans hu)
              exact absurd hp.1 hi
          · rintro ⟨u', hu', hmover | ⟨started, rfl⟩⟩
            · obtain rfl := Option.some.inj (hu'.symm.trans hu)
              exact hi (hp.mover hmover)
            · obtain rfl := Option.some.inj (hu'.symm.trans hu)
              exact hi hp.1
      · rw [ho] at hu; cases hu
  · have hsame : (World.exec i o x w).2.store = w.store :=
      World.exec_other fun so hso => hstore ⟨so, hso⟩
    refine ⟨⟨fun sid r hr => hw.record sid r (hsame ▸ hr), fun sid r u hr hu => ?_⟩, fun sid r hr => ?_, ?_⟩
    · rw [World.exec_serial]
      exact Nat.lt_succ_of_lt (hw.drawn sid r u (hsame ▸ hr) hu)
    · exact ⟨r, by rw [hsame]; exact hr, .refl r⟩
    · intro sid r' u hr' hu
      rw [hsame] at hr'
      exact Or.inr ⟨r', hr', hu, fun _ => rfl⟩

/-- The contract of the Control Plane's tasks. -/
def discipline (apiOnly : Prop) : Contract World.exec where
  inv := World.Sound
  rely := World.Rely
  permits := Permits apiOnly
  assume _ _ _ _ _ := True
  rely_refl := World.Rely.refl
  rely_trans := World.Rely.trans
  keeps hw hp _ := (hw.exec hp).1
  respects := by
    intro i j h o x w hij hw hp _
    obtain ⟨_, hlater, howner⟩ := hw.exec (x := x) hp
    refine ⟨?_, hlater, fun sid r' u hr' hu hj => ?_⟩
    · show w.serial ≤ (World.exec i o x w).2.serial
      rw [World.exec_serial]
      exact Nat.le_succ _
    · rcases howner sid r' u hr' hu with hi | h
      · exact absurd (hi.symm.trans hj) hij
      · exact h

end IRLight
