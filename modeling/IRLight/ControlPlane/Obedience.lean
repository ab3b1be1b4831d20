import IRLight.ControlPlane.Conduct

/-! # Programs under the contract

What a task has learnt stays true: its history only grows, and records only move on. `Assertion` collects
such facts, and `Obeys` says that a program, started with a fact, makes permitted calls only. -/

namespace IRLight
open Interleaving Status Call

/-- Every record has moved on. -/
def World.Later (w w' : World) : Prop :=
  ∀ sid r, w.store.session? sid = some r → ∃ r', w'.store.session? sid = some r' ∧ r.Later r'

/-- A fact about a task's history and the world that lasts. -/
structure Assertion where
  holds : History → World → Prop
  later : ∀ {h w w'}, holds h w → w.Later w' → holds h w'
  after : ∀ {h w} (e : Event Op Op.Res Exc Input), holds h w → holds (e :: h) w

namespace Assertion

instance : Top Assertion := ⟨⟨fun _ _ => True, fun _ _ => trivial, fun _ _ => trivial⟩⟩

instance : Min Assertion :=
  ⟨fun F G => ⟨fun h w => F.holds h w ∧ G.holds h w, fun hF hl => ⟨F.later hF.1 hl, G.later hF.2 hl⟩,
    fun e hF => ⟨F.after e hF.1, G.after e hF.2⟩⟩⟩

/-- A fact about values that the task holds. -/
def pure (φ : Prop) : Assertion := ⟨fun _ _ => φ, fun hφ _ => hφ, fun _ hφ => hφ⟩

/-- A fact that holds only under a condition. -/
def when (φ : Prop) (F : Assertion) : Assertion :=
  ⟨fun h w => φ → F.holds h w, fun hF hl hφ => F.later (hF hφ) hl, fun e hF hφ => F.after e (hF hφ)⟩

/-- The task's history shows it. -/
def recorded (φ : Event Op Op.Res Exc Input → Prop) : Assertion :=
  ⟨fun h _ => ∃ e ∈ h, φ e, fun hφ _ => hφ, fun _ ⟨e, he, hφ⟩ => ⟨e, List.mem_cons_of_mem _ he, hφ⟩⟩

/-- The Session's record shows it, and so does every later version. -/
def record (sid : String) (φ : Session → Prop) (hφ : ∀ r r', φ r → r.Later r' → φ r') : Assertion where
  holds _ w := ∃ r, w.store.session? sid = some r ∧ φ r
  later := by
    rintro h w w' ⟨r, hr, hr'⟩ hl
    obtain ⟨r', hr', hl'⟩ := hl sid r hr
    exact ⟨r', hr', hφ r r' ‹_› hl'⟩
  after _ h := h

def claims (sid : String) : Assertion :=
  recorded fun e => ∃ op started, e.op = .store (.claimProvisioning sid op started) ∧ e.isOk

def revoked (sid : String) : Assertion := recorded fun e => e.op = .revokeSession sid ∧ e.isOk

def bound (sid : String) : Assertion := record sid (fun r => r.idempotencyKey.isSome) fun _ _ h hl => by
  rw [hl.key h]
  exact h

def late (sid : String) : Assertion := record sid (fun r => 4 ≤ r.status.phase) fun _ _ h hl => h.trans hl.phase

def begun (sid : String) : Assertion := record sid (fun r => 2 ≤ r.status.phase) fun _ _ h hl => h.trans hl.phase

/-- The Session has accepted media. -/
def accepted (sid : String) : Assertion := record sid (fun r => r.readyAt.isSome) fun _ _ h hl => hl.ready h

def neverReady (sid : String) : Assertion :=
  record sid (fun r => 4 ≤ r.status.phase ∧ r.provisioningOperationId = none ∧ r.readyAt = none) fun _ _ h hl =>
    ⟨h.1.trans hl.phase, (hl.owner (by omega)).elim (·.trans h.2.1) id, (hl.settled h.1 h.2.1).trans h.2.2⟩

/-- The Session's record was `r`. -/
def seen (sid : String) (r : Session) : Assertion :=
  record sid (fun r' => r.Sound ∧ r.Later r') fun _ _ h hl => ⟨h.1, h.2.trans hl⟩

/-- What a look at the Session's record found. -/
def found (sid : String) : Option Session → Assertion
  | some r => seen sid r
  | none => ⊤

/-- Nothing is left to revoke when the Session ends. -/
def cleared (sid : String) : Assertion where
  holds h w := (revoked sid).holds h w ∨ (neverReady sid).holds h w
  later h hl := h.imp ((revoked sid).later · hl) ((neverReady sid).later · hl)
  after e h := h.imp ((revoked sid).after e) ((neverReady sid).after e)

variable {sid : String} {r : Session} {h : History} {w : World}

theorem late_of_seen (hs : (seen sid r).holds h w) (hr : 4 ≤ r.status.phase) : (late sid).holds h w := by
  obtain ⟨r', hr', _, hl⟩ := hs
  exact ⟨r', hr', hr.trans hl.phase⟩

theorem bound_of_seen (hs : (seen sid r).holds h w) (hk : r.idempotencyKey.isSome) : (bound sid).holds h w := by
  obtain ⟨r', hr', _, hl⟩ := hs
  exact ⟨r', hr', (congrArg Option.isSome (hl.key hk)).trans hk⟩

theorem accepted_of_seen (hs : (seen sid r).holds h w) (hr : r.status.phase = 3) : (accepted sid).holds h w := by
  obtain ⟨r', hr', hsound, hl⟩ := hs
  exact ⟨r', hr', hl.ready (hsound.running hr)⟩

theorem neverReady_of_seen (hs : (seen sid r).holds h w) (hp : 4 ≤ r.status.phase)
    (ho : r.provisioningOperationId = none) (hn : r.readyAt = none) : (neverReady sid).holds h w := by
  obtain ⟨r', hr', _, hl⟩ := hs
  exact ⟨r', hr', hp.trans hl.phase, (hl.owner (by omega)).elim (·.trans ho) id, (hl.settled hp ho).trans hn⟩

end Assertion

/-- Started with `F`, the program makes permitted calls only. -/
def Obeys {α : Type} (apiOnly : Prop) (i : ℕ) (F : Assertion) (p : Control α) : Prop :=
  ∀ h w, F.holds h w → p.Meets (discipline apiOnly) i (fun _ _ _ => True) h w

/-- A call that is permitted whatever came before. -/
def Op.Free (o : Op) : Prop := ∀ apiOnly i h w, Permits apiOnly i h o w

namespace Obeys
variable {α β γ : Type} {apiOnly : Prop} {i : ℕ} {F G : Assertion} {p : Control α} {o : Op}

theorem mono (hp : Obeys apiOnly i F p) (hFG : ∀ h w, G.holds h w → F.holds h w) : Obeys apiOnly i G p :=
  fun h w hG => hp h w (hFG h w hG)

theorem done (r : Except Exc α) : Obeys apiOnly i F (.done r) := fun _ _ _ _ _ _ => trivial

/-- The facts that a program starts with still hold at its end. -/
theorem frame (hp : Obeys apiOnly i F p) {h : History} {w : World} (hF : F.holds h w) :
    p.Meets (discipline apiOnly) i (fun _ h w => F.holds h w) h w :=
  ((hp h w hF).frame (F := F.holds) (.any p) hF (fun _ _ _ hF _ hr => F.later hF hr.later)
    fun _ _ _ _ _ hw hF hperm _ => F.after _ (F.later hF (hw.exec hperm).2.1)).mono fun _ _ _ _ h => h.2

theorem andThen {f : Except Exc α → Control β} (hp : Obeys apiOnly i F p) (hf : ∀ r, Obeys apiOnly i F (f r)) :
    Obeys apiOnly i F (p.andThen f) :=
  fun _ _ hF => .andThen ((hp.frame hF).mono fun r h w _ hF => hf r h w hF)

theorem bind {f : α → Control β} (hp : Obeys apiOnly i F p) (hf : ∀ a, Obeys apiOnly i F (f a)) : Obeys apiOnly i F (p.bind f) :=
  hp.andThen fun
    | .ok a => hf a
    | .error e => done (.error e)

theorem attempt (hp : Obeys apiOnly i F p) : Obeys apiOnly i F p.attempt := hp.andThen fun _ => done _

theorem tryExcept {handler : Exc → Control α} (hp : Obeys apiOnly i F p) (hh : ∀ e, Obeys apiOnly i F (handler e)) :
    Obeys apiOnly i F (p.tryExcept handler) :=
  hp.andThen fun
    | .ok a => done (.ok a)
    | .error e => hh e

theorem tryFinally {last : Control Unit} (hp : Obeys apiOnly i F p) (hl : Obeys apiOnly i F last) : Obeys apiOnly i F (p.tryFinally last) :=
  hp.andThen fun _ => hl.bind fun _ => done _

theorem of_free (hp : p.Only Op.Free) : Obeys apiOnly i F p :=
  fun _ _ _ => .of_only hp fun _ ho h t _ => ho apiOnly i h t

theorem forFold {l : List β} {init : γ} {body : γ → β → Control γ} (hbody : ∀ c, ∀ b ∈ l, Obeys apiOnly i F (body c b)) :
    Obeys apiOnly i F (Prog.forFold l init body) := by
  induction l generalizing init with
  | nil => exact done _
  | cons b l ih =>
    exact (hbody init b List.mem_cons_self).bind fun c => ih fun c' b' hb' => hbody c' b' (List.mem_cons_of_mem _ hb')

/-- A call, and what its result teaches. -/
theorem call_andThen {f : Except Exc o.Res → Control α} {G : Except Exc o.Res → Assertion}
    (hperm : ∀ h w, w.Sound → F.holds h w → Permits apiOnly i h o w)
    (hgain : ∀ h w x, w.Sound → F.holds h w → (G (World.exec i o x w).1).holds
      (World.exec.event i o x w :: h) (World.exec.state i o x w))
    (hf : ∀ r, Obeys apiOnly i (F ⊓ G r) (f r)) : Obeys apiOnly i F ((call o).andThen f) := by
  intro h w hF t ht hr
  have hFt := F.later hF hr.later
  refine ⟨hperm h t ht hFt, fun x _ => ?_⟩
  have hstep := ht.exec (x := x) (hperm h t ht hFt)
  exact hf _ _ _ ⟨F.after _ (F.later hFt hstep.2.1), hgain h t x ht hFt⟩

theorem call_bind {f : o.Res → Control α} {G : o.Res → Assertion}
    (hperm : ∀ h w, w.Sound → F.holds h w → Permits apiOnly i h o w)
    (hgain : ∀ h w x a, w.Sound → F.holds h w → (World.exec i o x w).1 = .ok a →
      (G a).holds (World.exec.event i o x w :: h) (World.exec.state i o x w))
    (hf : ∀ a, Obeys apiOnly i (F ⊓ G a) (f a)) : Obeys apiOnly i F ((call o).bind f) := by
  refine call_andThen (G := fun
    | .ok a => G a
    | .error _ => ⊤) hperm (fun h w x hw hF => ?_) fun r => ?_
  · cases he : (World.exec i o x w).1 with
    | ok a => exact hgain h w x a hw hF he
    | error e => trivial
  · cases r with
    | ok a => exact hf a
    | error e => exact done _

theorem call_attempt {f : Except Exc o.Res → Control α} {G : o.Res → Assertion}
    (hperm : ∀ h w, w.Sound → F.holds h w → Permits apiOnly i h o w)
    (hgain : ∀ h w x a, w.Sound → F.holds h w → (World.exec i o x w).1 = .ok a →
      (G a).holds (World.exec.event i o x w :: h) (World.exec.state i o x w))
    (hok : ∀ a, Obeys apiOnly i (F ⊓ G a) (f (.ok a))) (herr : ∀ e, Obeys apiOnly i F (f (.error e))) :
    Obeys apiOnly i F ((call o).attempt.bind f) := by
  refine call_andThen (f := f) (G := fun
    | .ok a => G a
    | .error _ => ⊤) hperm (fun h w x hw hF => ?_) fun r => ?_
  · cases he : (World.exec i o x w).1 with
    | ok a => exact hgain h w x a hw hF he
    | error e => trivial
  · cases r with
    | ok a => exact hok a
    | error e => exact (herr e).mono fun _ _ h => h.1

/-- A permitted call. -/
theorem call (hperm : ∀ h w, w.Sound → F.holds h w → Permits apiOnly i h o w) : Obeys apiOnly i F (call o) :=
  fun h _ hF t ht hr => ⟨hperm h t ht (F.later hF hr.later), fun _ _ => fun _ _ _ => trivial⟩

end Obeys
end IRLight
