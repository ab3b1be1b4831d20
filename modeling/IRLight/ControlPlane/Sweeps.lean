import IRLight.ControlPlane.Failures
import IRLight.ControlPlane.System
import IRLight.Session.Validity

/-! # What a sweep needs

A sweep handles the errors of the calls that open the handling of a Session, and of its deletes. Every other call must
succeed, or the sweep ends there. `Returns` follows a sweep whose calls are `Smooth` to its end and says what it has
done by then. -/

namespace IRLight
open Interleaving Status Call

/-- The Session that a call found. -/
def found? : Event Op Op.Res Exc Input → Option String
  | ⟨.store (.requestStop sid), _, .ok _⟩ | ⟨.store (.requestStopIfCurrent sid _ _), _, .ok (some _)⟩
  | ⟨.store (.transitionIfCurrent sid _ _ _ _), _, .ok (some _)⟩ | ⟨.store (.transition sid _ _ _), _, .ok _⟩ => some sid
  | _ => none

def Op.deletes : Op → Bool
  | .deleteVolume _ | .deleteServer _ => true
  | _ => false

/-- The clock can be read, and nothing but a delete fails for a reason of its own. -/
def Served (o : Op) (x : Input) : Prop := Readable x.clock ∧ (x.fault = none ∨ o.deletes)

/-- A transition finds its Session in a state that it allows. -/
def Fits (o : Op) (w : World) : Prop :=
  ∀ sid new allowed changes, o = .store (.transition sid new allowed changes) →
    ∃ r, w.store.session? sid = some r ∧ r.status ∈ allowed

/-- What a sweep needs at each of its calls. -/
structure Smooth (h : History) (o : Op) (x : Input) (w : World) : Prop where
  valid : w.store.Valid
  found : ∀ e ∈ h, ∀ sid, found? e = some sid → (w.store.session? sid).isSome
  served : Served o x
  fits : Fits o w

/-- The contract of sweeps. -/
def sweeping : Contract World.exec := .alone (fun _ _ _ _ => True) fun _ h o x w => Smooth h o x w

/-- After the history `h` the program returns, with a result and a history that satisfy `R`. -/
def Returns {α : Type} (h : History) (p : Control α) (R : α → History → Prop) : Prop :=
  ∀ i w, p.Meets sweeping i (fun r h' _ => h ⊆ h' ∧ ∃ a, r = .ok a ∧ R a h') h w

/-- The task has found the Session. -/
def Found (sid : String) (h : History) : Prop := ∃ e ∈ h, found? e = some sid

theorem Found.mono {sid : String} {h h' : History} (hf : Found sid h) (hsub : h ⊆ h') : Found sid h' := by
  obtain ⟨e, he, hsid⟩ := hf
  exact ⟨e, hsub he, hsid⟩

/-- The first call of a sweep about a Session. -/
def Op.begins (sid : String) : Op → Bool
  | .store (.transitionIfCurrent sid' _ _ _ _) | .store (.requestStopIfCurrent sid' _ _) | .store (.requestStop sid')
  | .store (.updateIfCurrent sid' _ _ _ _) | .revokeSession sid' => sid' = sid
  | _ => false

/-- The sweep has come to the Session. -/
def Began (sid : String) (h : History) : Prop := ∃ e ∈ h, e.op.begins sid

theorem Began.mono {sid : String} {h h' : History} (hb : Began sid h) (hsub : h ⊆ h') : Began sid h' := by
  obtain ⟨e, he, hop⟩ := hb
  exact ⟨e, hsub he, hop⟩

namespace Returns
variable {α β γ : Type} {h : History} {p : Control α} {R R' : α → History → Prop} {S : β → History → Prop} {o : Op}

theorem done {a : α} (hR : R a h) : Returns h (.done (.ok a)) R := fun _ _ _ _ _ => ⟨List.Subset.refl _, a, rfl, hR⟩

theorem mono (hp : Returns h p R) (hR : ∀ a h', h ⊆ h' → R a h' → R' a h') : Returns h p R' :=
  fun i w => (hp i w).mono fun _ h' _ _ ⟨hsub, a, he, hr⟩ => ⟨hsub, a, he, hR a h' hsub hr⟩

theorem bind {f : α → Control β} (hp : Returns h p R) (hf : ∀ a h', h ⊆ h' → R a h' → Returns h' (f a) S) :
    Returns h (p.bind f) S := by
  refine fun i w => .bind ((hp i w).mono fun r h' s _ ⟨hsub, a, he, hR⟩ => ?_)
  subst he
  exact (hf a h' hsub hR i s).mono fun _ _ _ _ ⟨hsub', hr⟩ => ⟨List.Subset.trans hsub hsub', hr⟩

/-- A call that succeeds. -/
theorem call (ho : ∀ i x w, Smooth h o x w → Gives (World.exec i o x w).1 fun _ => True) :
    Returns h (Call.call o) fun a h' => ∃ x, ⟨o, x, .ok a⟩ ∈ h' := by
  refine fun i w => .op fun t _ _ => ⟨trivial, fun x hx u _ _ => ⟨List.subset_cons_self _ _, ?_⟩⟩
  obtain ⟨a, he, _⟩ := ho i x t hx
  exact ⟨a, he, x, by rw [Exec.event, he]; exact List.mem_cons_self⟩

/-- A call whose errors are handled. -/
theorem attempt {P : Exc → Prop} (ho : ∀ i x w, Smooth h o x w → Raises P (World.exec i o x w).1) :
    Returns h (Call.call o).attempt fun r h' => Raises P r ∧ ∃ x, ⟨o, x, r⟩ ∈ h' :=
  fun _ _ _ _ _ => ⟨trivial, fun x hx _ _ _ => ⟨List.subset_cons_self _ _, _, rfl, ho _ x _ hx, x, List.mem_cons_self⟩⟩

/-- A handled call that may raise anything. -/
theorem attempted : Returns h (Call.call o).attempt fun r h' => ∃ x, ⟨o, x, r⟩ ∈ h' :=
  (attempt (P := fun _ => True) fun _ _ _ _ _ _ => trivial).mono fun _ _ _ hr => hr.2

/-- However the rest ends, its history extends the one before it. -/
theorem extends_history (p : Control α) (i : ℕ) (w : World) : p.Meets sweeping i (fun _ h' _ => h ⊆ h') h w := by
  have hrest : ∀ {h' : History}, h ⊆ h' → ∀ w, p.Meets sweeping i (fun _ h' _ => h ⊆ h') h' w := by
    intro h' hsub w
    induction p generalizing h' w with
    | done r => exact fun _ _ _ => hsub
    | call o next ih => exact fun t _ _ => ⟨trivial, fun x _ => ih _ (List.subset_cons_of_subset _ hsub) _⟩
  exact hrest (List.Subset.refl _) w

theorem tryExcept {handler : Exc → Control α} (hh : ∀ e h', h ⊆ h' → Returns h' (handler e) fun _ _ => True) :
    Returns h (p.tryExcept handler) fun _ _ => True := by
  refine fun i w => .andThen ((extends_history p i w).mono fun r h' s _ hsub => ?_)
  cases r with
  | ok a => exact fun _ _ _ => ⟨hsub, a, rfl, trivial⟩
  | error e => exact (hh e h' hsub i s).mono fun _ _ _ _ ⟨hsub', hr⟩ => ⟨List.Subset.trans hsub hsub', hr⟩

theorem tryFinally {last : Control Unit} (hp : Returns h p fun _ _ => True)
    (hl : ∀ h', h ⊆ h' → Returns h' last fun _ _ => True) : Returns h (p.tryFinally last) fun _ _ => True := by
  refine fun i w => .andThen ((hp i w).mono fun r h' s _ ⟨hsub, a, he, _⟩ => ?_)
  subst he
  exact (bind (hl h' hsub) (fun _ _ _ _ => done trivial) i s).mono fun _ _ _ _ ⟨hsub', hr⟩ => ⟨List.Subset.trans hsub hsub', hr⟩

/-- A loop that does `B` for each element. -/
theorem forFold {l : List β} {init : γ} {body : γ → β → Control γ} {B : β → History → Prop}
    (hmono : ∀ b h h', h ⊆ h' → B b h → B b h')
    (hbody : ∀ c b h', h ⊆ h' → Returns h' (body c b) fun _ h'' => B b h'') :
    Returns h (Prog.forFold l init body) fun _ h' => ∀ b ∈ l, B b h' := by
  induction l generalizing init h with
  | nil => exact done fun _ hb => nomatch hb
  | cons b l ih =>
    refine (hbody init b h (List.Subset.refl _)).bind fun c h' hsub hB => ?_
    refine (ih fun c b h'' hsub' => hbody c b h'' (List.Subset.trans hsub hsub')).mono fun _ h'' hsub' hl b' hb' => ?_
    rcases List.mem_cons.mp hb' with rfl | hb'
    · exact hmono _ _ _ hsub' hB
    · exact hl b' hb'

theorem began {sid : String} (hb : Began sid h) (hp : Returns h p fun _ _ => True) : Returns h p fun _ h' => Began sid h' :=
  hp.mono fun _ _ hsub _ => hb.mono hsub

/-! ### Calls -/

theorem store {o : StoreOp}
    (ho : ∀ x fresh w, Smooth h (.store o) x w → Gives (o.run x.clock fresh w.store) fun _ => True) :
    Returns h (Call.store o) fun a h' => ∃ x, ⟨.store o, x, .ok a⟩ ∈ h' := by
  refine call fun i x w hx => ?_
  have hfault : x.fault = none := hx.served.2.resolve_right (nomatch ·)
  obtain ⟨⟨a, s'⟩, hrun, _⟩ := ho x ⟨i, w.serial⟩ w hx
  exact ⟨a, by simp [World.exec, World.transact, hfault, hrun], trivial⟩

end Returns

/-! ### Cleanups -/

section
variable {h : History} {sid : String} {leaseId : Uuid} {reasonCode : String} {now : Timestamp}

namespace Reaper

section Due
variable (config : ReaperConfig) (now : Timestamp)

def provisioningDue (r : Session) : Bool :=
  (config.provisioningTimeoutSeconds : ℚ) < now - r.provisioningStartedAt.getD r.createdAt

def deadlineDue (r : Session) : Bool := r.absoluteDeadlineAt.any (· ≤ now)

def heartbeatDue (authority : NodeAuthority) (r : Session) : Bool :=
  (heartbeatBaseline r authority).1.any fun baseline => !(now < baseline || (now : ℚ) - baseline < config.heartbeatGraceSeconds)

def noIngestDue (r : Session) : Bool := (config.noIngestTimeoutSeconds : ℚ) < now - r.readyAt.getD now

end Due

/-- The sweep has looked for the Sessions in the states and has come to each of them that was due. -/
def SweptPhase (states : List Status) (due : Session → Bool) (h : History) : Prop :=
  ∃ x records, ⟨.store (.sessionsInStates states), x, .ok records⟩ ∈ h ∧ ∀ r ∈ records, due r → Began r.sessionId h

theorem SweptPhase.mono {states : List Status} {due : Session → Bool} {h h' : History} (hs : SweptPhase states due h)
    (hsub : h ⊆ h') : SweptPhase states due h' := by
  obtain ⟨x, records, he, hall⟩ := hs
  exact ⟨x, records, hsub he, fun r hr hdue => (hall r hr hdue).mono hsub⟩

/-- A Session that the sweep comes to, with the count of what it did. -/
theorem counted {session : Session} {p : Control Bool} {f : Bool → Control SweepResult} {due : Bool}
    (hp : Returns h p fun _ h' => Began session.sessionId h') (hf : ∀ b, ∃ result, f b = .done (.ok result)) :
    Returns h (p.bind f) fun _ h' => due → Began session.sessionId h' := by
  refine hp.bind fun b h' _ hb => ?_
  obtain ⟨result, he⟩ := hf b
  rw [he]
  exact .done fun _ => hb

variable {config : ReaperConfig} {result : SweepResult}

end Reaper
end
end IRLight
