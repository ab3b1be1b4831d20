import IRLight.Interleaving.Pool

/-! # Rely and guarantee

A contract says what every state satisfies, what a task may rely on the others for, and which calls a
task is permitted. `Prog.Meets` is the weakest precondition of a program under interference: before each
call, and at the end, the others may have moved the state along the task's rely. A pool in which every
program meets one contract keeps it in every run (`Reachable.sound`). -/

namespace Interleaving

/-- What holds between the tasks of a pool. What a call is permitted and what a run assumes about it may
    depend on the history of the task that makes it. -/
structure Contract {Op : Type} {Res : Op → Type} {ε X S : Type} (exec : Exec Op Res ε X S) where
  inv : S → Prop
  rely : ℕ → S → S → Prop
  permits : ℕ → List (Event Op Res ε X) → Op → S → Prop
  assume : ℕ → List (Event Op Res ε X) → Op → X → S → Prop
  rely_refl : ∀ i s, rely i s s
  rely_trans : ∀ {i s t u}, rely i s t → rely i t u → rely i s u
  keeps : ∀ {i h o x s}, inv s → permits i h o s → assume i h o x s → inv (exec.state i o x s)
  respects : ∀ {i j h o x s}, i ≠ j → inv s → permits i h o s → assume i h o x s →
    rely j s (exec.state i o x s)

section
variable {S ρ Op : Type} {Res : Op → Type} {ε α β γ X : Type} {exec : Exec Op Res ε X S}

/-- Task `i`, running `p` after the history `h` from the state `s`, makes only permitted calls and ends
    in `Q`, whatever its rely lets the others do in between. -/
def Prog.Meets (C : Contract exec) (i : ℕ) :
    Prog Op Res ε α → (Except ε α → List (Event Op Res ε X) → S → Prop) → List (Event Op Res ε X) → S → Prop
  | .done r, Q, h, s => ∀ t, C.inv t → C.rely i s t → Q r h t
  | .call o next, Q, h, s => ∀ t, C.inv t → C.rely i s t → C.permits i h o t ∧ ∀ x, C.assume i h o x t →
      (next (exec i o x t).1).Meets C i Q (exec.event i o x t :: h) (exec.state i o x t)

namespace Prog.Meets
variable {C : Contract exec} {i : ℕ} {p : Prog Op Res ε α}
  {Q Q' : Except ε α → List (Event Op Res ε X) → S → Prop} {h : List (Event Op Res ε X)} {s t : S}

/-- Interference before the first call is already allowed for. -/
theorem stable (hp : p.Meets C i Q h s) (hst : C.rely i s t) : p.Meets C i Q h t := by
  cases p with
  | done r => exact fun u hu hr => hp u hu (C.rely_trans hst hr)
  | call o next => exact fun u hu hr => hp u hu (C.rely_trans hst hr)

theorem of_later (hp : ∀ t, C.inv t → C.rely i s t → p.Meets C i Q h t) : p.Meets C i Q h s := by
  cases p with
  | done r => exact fun t ht hr => hp t ht hr t ht (C.rely_refl i t)
  | call o next => exact fun t ht hr => hp t ht hr t ht (C.rely_refl i t)

theorem mono (hp : p.Meets C i Q h s) (hQ : ∀ r h s, C.inv s → Q r h s → Q' r h s) : p.Meets C i Q' h s := by
  induction p generalizing h s with
  | done r => exact fun t ht hr => hQ r h t ht (hp t ht hr)
  | call o next ih => exact fun t ht hr => ⟨(hp t ht hr).1, fun x hx => ih _ ((hp t ht hr).2 x hx)⟩

theorem andThen {f : Except ε α → Prog Op Res ε β} {Q : Except ε β → List (Event Op Res ε X) → S → Prop}
    (hp : p.Meets C i (fun r h s => (f r).Meets C i Q h s) h s) : (p.andThen f).Meets C i Q h s := by
  induction p generalizing h s with
  | done r => exact of_later fun t ht hr => hp t ht hr
  | call o next ih => exact fun t ht hr => ⟨(hp t ht hr).1, fun x hx => ih _ ((hp t ht hr).2 x hx)⟩

theorem bind {f : α → Prog Op Res ε β} {Q : Except ε β → List (Event Op Res ε X) → S → Prop}
    (hp : p.Meets C i (fun r h s => match r with
      | .ok a => (f a).Meets C i Q h s
      | .error e => ∀ t, C.inv t → C.rely i s t → Q (.error e) h t) h s) : (p.bind f).Meets C i Q h s :=
  andThen (hp.mono fun r _ _ _ hr => by cases r <;> exact hr)

theorem op {o : Op} {Q : Except ε (Res o) → List (Event Op Res ε X) → S → Prop}
    (hop : ∀ t, C.inv t → C.rely i s t → C.permits i h o t ∧ ∀ x, C.assume i h o x t →
      ∀ u, C.inv u → C.rely i (exec.state i o x t) u → Q (exec i o x t).1 (exec.event i o x t :: h) u) :
    (Prog.op o : Prog Op Res ε (Res o)).Meets C i Q h s := hop

/-- A call, and the program after each of its outcomes. -/
theorem op_bind {o : Op} {f : Res o → Prog Op Res ε β} {Q : Except ε β → List (Event Op Res ε X) → S → Prop}
    (hop : ∀ t, C.inv t → C.rely i s t → C.permits i h o t ∧ ∀ x, C.assume i h o x t →
      (∀ a, (exec i o x t).1 = .ok a → (f a).Meets C i Q (exec.event i o x t :: h) (exec.state i o x t)) ∧
      ∀ e, (exec i o x t).1 = .error e →
        (done (.error e)).Meets C i Q (exec.event i o x t :: h) (exec.state i o x t)) :
    ((Prog.op o).bind f).Meets C i Q h s := by
  intro t ht hr
  refine ⟨(hop t ht hr).1, fun x hx => ?_⟩
  obtain ⟨hok, herr⟩ := (hop t ht hr).2 x hx
  cases he : (exec i o x t).1 with
  | ok a => exact hok a he
  | error e => exact herr e he

theorem op_attempt {o : Op} {f : Except ε (Res o) → Prog Op Res ε β}
    {Q : Except ε β → List (Event Op Res ε X) → S → Prop}
    (hop : ∀ t, C.inv t → C.rely i s t → C.permits i h o t ∧ ∀ x, C.assume i h o x t →
      (f (exec i o x t).1).Meets C i Q (exec.event i o x t :: h) (exec.state i o x t)) :
    ((Prog.op o).attempt.bind f).Meets C i Q h s :=
  hop

/-- What the rely and the permitted calls keep holds to the end. -/
theorem frame {φ : Op → Prop} {F : List (Event Op Res ε X) → S → Prop} (hp : p.Meets C i Q h s) (ho : p.Only φ)
    (hF : F h s) (hrely : ∀ h s t, F h s → C.inv t → C.rely i s t → F h t)
    (hcall : ∀ h s o x, φ o → C.inv s → F h s → C.permits i h o s → C.assume i h o x s →
      F (exec.event i o x s :: h) (exec.state i o x s)) :
    p.Meets C i (fun r h s => Q r h s ∧ F h s) h s := by
  induction p generalizing h s with
  | done r => exact fun t ht hr => ⟨hp t ht hr, hrely _ _ _ hF ht hr⟩
  | call o next ih =>
    intro t ht hr
    have hpt := hp t ht hr
    exact ⟨hpt.1, fun x hx => ih _ (hpt.2 x hx) ((Prog.Only.call_iff.mp ho).2 _)
      (hcall _ _ _ _ (Prog.Only.call_iff.mp ho).1 ht (hrely _ _ _ hF ht hr) hpt.1 hx)⟩

/-- A program whose calls are all permitted whatever the state needs no precondition. -/
theorem of_only {φ : Op → Prop} (hp : p.Only φ) (hφ : ∀ o, φ o → ∀ h t, C.inv t → C.permits i h o t) :
    p.Meets C i (fun _ _ _ => True) h s := by
  induction p generalizing h s with
  | done r => exact fun _ _ _ => trivial
  | call o next ih =>
    obtain ⟨ho, hnext⟩ := Prog.Only.call_iff.mp hp
    exact fun t ht _ => ⟨hφ o ho h t ht, fun x _ => ih _ (hnext _)⟩

/-- A loop whose body keeps `P` from one round to the next. -/
theorem forFold {l : List β} {init : γ} {body : γ → β → Prog Op Res ε γ}
    {P : List (Event Op Res ε X) → S → Prop} (hP : P h s)
    (hstable : ∀ h s t, P h s → C.inv t → C.rely i s t → P h t)
    (hbody : ∀ c, ∀ b ∈ l, ∀ h s, P h s → (body c b).Meets C i (fun _ h s => P h s) h s) :
    (Prog.forFold l init body).Meets C i (fun _ h s => P h s) h s := by
  induction l generalizing init h s with
  | nil => exact fun t ht hr => hstable _ _ _ hP ht hr
  | cons b l ih =>
    refine bind ((hbody init b List.mem_cons_self h s hP).mono fun r h' s' _ hr => ?_)
    cases r with
    | ok c => exact ih hr fun c' b' hb' => hbody c' b' (List.mem_cons_of_mem b hb')
    | error e => exact fun t ht hst => hstable _ _ _ hr ht hst

end Prog.Meets

variable {program : ρ → Prog Op Res ε α} {cond : Pool S ρ Op Res ε α X → Action ρ X → Prop}
  {C : Contract exec} {s₀ : S} {Q : ρ → Except ε α → List (Event Op Res ε X) → S → Prop}
  {c : Pool S ρ Op Res ε α X}

/-- What a pool keeps: the invariant, and what is left of each program still meets the contract. -/
structure Pool.Sound (C : Contract exec) (Q : ρ → Except ε α → List (Event Op Res ε X) → S → Prop)
    (c : Pool S ρ Op Res ε α X) : Prop where
  inv : C.inv c.state
  meets : ∀ (i : ℕ) (t : Task ρ Op Res ε α X), c.tasks[i]? = some t →
    t.program.Meets C i (Q t.request) t.history c.state

/-- The calls of a run meet what the contract assumes of them. -/
def Assumed (C : Contract exec) (cond : Pool S ρ Op Res ε α X → Action ρ X → Prop) : Prop :=
  ∀ c i x o h, cond c (.step i x) → c.Calls i o h → C.assume i h o x c.state

namespace Pool.Sound

theorem permitted (hs : c.Sound C Q) {i : ℕ} {o : Op} {h : List (Event Op Res ε X)} (hcall : c.Calls i o h) :
    C.permits i h o c.state := by
  obtain ⟨⟨q, p, h⟩, next, ht, rfl, rfl⟩ := hcall
  exact (hs.meets i _ ht c.state hs.inv (C.rely_refl i c.state)).1

theorem act (hs : c.Sound C Q) (hassume : Assumed C cond)
    (hstart : ∀ q i s, cond c (.start q) → C.inv s → (program q).Meets C i (Q q) [] s)
    {a : Action ρ X} (hcond : cond c a) : (c.act exec program a).Sound C Q := by
  rcases Pool.act_cases exec program c a with
    ⟨q, rfl, he⟩ | ⟨i, x, q, o, next, h, rfl, ht, he⟩ | he <;> rw [he]
  · refine ⟨hs.inv, fun j t htj => ?_⟩
    rcases mem_tasks_append htj with htj | rfl
    · exact hs.meets j t htj
    · exact hstart q j c.state hcond hs.inv
  · have hcall : c.Calls i o h := ⟨_, next, ht, rfl, rfl⟩
    have hp := hs.permitted hcall
    have hx := hassume c i x o h hcond hcall
    refine ⟨C.keeps hs.inv hp hx, fun j t htj => ?_⟩
    rcases mem_tasks_set htj with ⟨rfl, rfl⟩ | ⟨hij, htj⟩
    · exact (hs.meets i _ ht c.state hs.inv (C.rely_refl i c.state)).2 x hx
    · exact (hs.meets j t htj).stable (C.respects hij hs.inv hp hx)
  · exact hs

/-- A task that has ended satisfies its postcondition. -/
theorem ended (hs : c.Sound C Q) {i : ℕ} {q : ρ} {r : Except ε α} {h : List (Event Op Res ε X)}
    (ht : c.tasks[i]? = some ⟨q, .done r, h⟩) : Q q r h c.state :=
  hs.meets i _ ht c.state hs.inv (C.rely_refl i c.state)

end Pool.Sound

/-- Every reachable pool is sound when every program that may start meets the contract. -/
theorem Reachable.sound (hr : Reachable exec program cond s₀ c) (hinit : C.inv s₀) (hassume : Assumed C cond)
    (hstart : ∀ c q i s, cond c (.start q) → C.inv s → (program q).Meets C i (Q q) [] s) : c.Sound C Q := by
  induction hr with
  | init => exact ⟨hinit, fun i t ht => by simp at ht⟩
  | act a _ ha ih => exact ih.act hassume (fun q i s => hstart _ q i s) ha

/-! ### Tasks that rely on nothing -/

/-- The contract of tasks that rely neither on an invariant nor on each other. -/
def Contract.alone (permits : ℕ → List (Event Op Res ε X) → Op → S → Prop)
    (assume : ℕ → List (Event Op Res ε X) → Op → X → S → Prop) : Contract exec where
  inv _ := True
  rely _ _ _ := True
  permits := permits
  assume := assume
  rely_refl _ _ := trivial
  rely_trans _ _ := trivial
  keeps _ _ _ := trivial
  respects _ _ _ _ := trivial

variable {permits : ℕ → List (Event Op Res ε X) → Op → S → Prop}
  {assume : ℕ → List (Event Op Res ε X) → Op → X → S → Prop}

/-- Some tasks of a pool meet a contract that relies on nothing, whatever the others do. Only what these tasks call has to
    meet what the contract assumes. -/
theorem Reachable.alone_selected (hr : Reachable exec program cond s₀ c) {F : ρ → Prop}
    (hassume : ∀ c i x q o next h, cond c (.step i x) → c.tasks[i]? = some ⟨q, .call o next, h⟩ → F q →
      assume i h o x c.state)
    (hstart : ∀ q i s, F q → (program q).Meets (.alone permits assume : Contract exec) i (Q q) [] s)
    {i : ℕ} {t : Task ρ Op Res ε α X} (ht : c.tasks[i]? = some t) (hq : F t.request) :
    t.program.Meets (.alone permits assume : Contract exec) i (Q t.request) t.history c.state := by
  induction hr generalizing i t with
  | init => simp at ht
  | @act c a _ ha ih =>
    rcases Pool.act_cases exec program c a with ⟨q, rfl, he⟩ | ⟨j, x, q, o, next, h, rfl, htj, he⟩ | he <;>
      rw [he] at ht ⊢
    · rcases mem_tasks_append ht with ht | rfl
      · exact ih ht hq
      · exact hstart q i c.state hq
    · rcases mem_tasks_set ht with ⟨rfl, rfl⟩ | ⟨_, ht⟩
      · exact (ih htj hq c.state trivial trivial).2 x (hassume c j x q o next h ha htj hq)
      · exact (ih ht hq).stable trivial
    · exact ih ht hq

theorem Reachable.alone (hr : Reachable exec program cond s₀ c) {select : ρ → Prop}
    (hassume : Assumed (.alone permits assume : Contract exec) cond)
    (hstart : ∀ q i s, select q → (program q).Meets (.alone permits assume : Contract exec) i (Q q) [] s)
    {i : ℕ} {t : Task ρ Op Res ε α X} (ht : c.tasks[i]? = some t) (hq : select t.request) :
    t.program.Meets (.alone permits assume : Contract exec) i (Q t.request) t.history c.state :=
  hr.alone_selected (fun c i x _ o next h ha ht _ => hassume c i x o h ha ⟨_, next, ht, rfl, rfl⟩) hstart ht hq

end
end Interleaving
