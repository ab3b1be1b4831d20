import IRLight.Interleaving.Solo

/-! # What a program calls when it runs alone

`Prog.Alone` bounds the calls of a program that nobody interrupts, for everything that the environment may supply to
them, and `Prog.Calls` says that one such run makes a call. -/

namespace Interleaving

section
variable {S Op : Type} {Res : Op → Type} {ε α β γ X : Type}

/-- Alone and from the state `s`, whatever the environment supplies, task `i` makes only calls of `φ` and ends in `Q`. -/
def Prog.Alone (exec : Exec Op Res ε X S) (i : ℕ) (φ : Op → Prop) :
    Prog Op Res ε α → (Except ε α → S → Prop) → S → Prop
  | .done r, Q, s => Q r s
  | .call o next, Q, s => φ o ∧ ∀ x, (next (exec i o x s).1).Alone exec i φ Q (exec.state i o x s)

/-- Alone and from the state `s`, task `i` makes the call `o` when the environment supplies `xs k` to call number `k`. -/
def Prog.Calls (exec : Exec Op Res ε X S) (i : ℕ) (xs : ℕ → X) (o : Op) : Prog Op Res ε α → ℕ → S → Prop
  | .done _, _, _ => False
  | .call o' next, k, s => o' = o ∨ (next (exec i o' (xs k) s).1).Calls exec i xs o (k + 1) (exec.state i o' (xs k) s)

variable {exec : Exec Op Res ε X S} {i k : ℕ} {xs : ℕ → X} {φ : Op → Prop} {s : S} {o : Op}

namespace Prog.Alone
variable {p : Prog Op Res ε α} {Q Q' : Except ε α → S → Prop}

theorem done {r : Except ε α} (h : Q r s) : (Prog.done r : Prog Op Res ε α).Alone exec i φ Q s := h

theorem mono (hp : p.Alone exec i φ Q s) (hQ : ∀ r s, Q r s → Q' r s) : p.Alone exec i φ Q' s := by
  induction p generalizing s with
  | done r => exact hQ r s hp
  | call o next ih => exact ⟨hp.1, fun x => ih _ (hp.2 x)⟩

/-- Any program, when every call is one of `φ`. -/
theorem of_forall (hφ : ∀ o, φ o) : p.Alone exec i φ (fun _ _ => True) s := by
  induction p generalizing s with
  | done r => trivial
  | call o next ih => exact ⟨hφ o, fun x => ih _⟩

theorem andThen {f : Except ε α → Prog Op Res ε β} {R : Except ε β → S → Prop}
    (hp : p.Alone exec i φ (fun r s => (f r).Alone exec i φ R s) s) : (p.andThen f).Alone exec i φ R s := by
  induction p generalizing s with
  | done r => exact hp
  | call o next ih => exact ⟨hp.1, fun x => ih _ (hp.2 x)⟩

theorem bind {f : α → Prog Op Res ε β} {R : Except ε β → S → Prop} (hp : p.Alone exec i φ Q s)
    (hok : ∀ a s, Q (.ok a) s → (f a).Alone exec i φ R s) (herr : ∀ e s, Q (.error e) s → R (.error e) s) :
    (p.bind f).Alone exec i φ R s := by
  refine andThen (hp.mono fun r s hr => ?_)
  cases r with
  | ok a => exact hok a s hr
  | error e => exact herr e s hr

theorem op_bind {f : Res o → Prog Op Res ε β} {R : Except ε β → S → Prop} (ho : φ o)
    (hok : ∀ x a, (exec i o x s).1 = .ok a → (f a).Alone exec i φ R (exec.state i o x s))
    (herr : ∀ x e, (exec i o x s).1 = .error e → R (.error e) (exec.state i o x s)) :
    ((Prog.op o).bind f).Alone exec i φ R s := by
  refine ⟨ho, fun x => ?_⟩
  cases he : (exec i o x s).1 with
  | ok a => exact hok x a he
  | error e => exact herr x e he

theorem op_attempt {f : Except ε (Res o) → Prog Op Res ε β} {R : Except ε β → S → Prop} (ho : φ o)
    (hf : ∀ x, (f (exec i o x s).1).Alone exec i φ R (exec.state i o x s)) :
    ((Prog.op o).attempt.bind f).Alone exec i φ R s := ⟨ho, hf⟩

/-- A loop each of whose rounds ends in `Q` when it begins in `Q`. -/
theorem forFold {l : List β} {init : γ} {body : γ → β → Prog Op Res ε γ} {Q : Except ε γ → S → Prop}
    (hinit : Q (.ok init) s) (hbody : ∀ c, ∀ b ∈ l, ∀ s, Q (.ok c) s → (body c b).Alone exec i φ Q s) :
    (Prog.forFold l init body).Alone exec i φ Q s := by
  induction l generalizing init s with
  | nil => exact hinit
  | cons b l ih =>
    exact (hbody init b List.mem_cons_self s hinit).bind
      (fun c s hc => ih hc fun c' b' hb' => hbody c' b' (List.mem_cons_of_mem b hb')) fun _ _ he => he

/-- A call that some run makes is one of `φ`. -/
theorem of_calls (hp : p.Alone exec i φ Q s) (hc : p.Calls exec i xs o k s) : φ o := by
  induction p generalizing k s with
  | done r => exact hc.elim
  | call o' next ih =>
    rcases hc with rfl | hc
    · exact hp.1
    · exact ih _ (hp.2 (xs k)) hc

end Prog.Alone

namespace Prog.Calls
variable {p : Prog Op Res ε α}

theorem andThen_left {f : Except ε α → Prog Op Res ε β} (h : p.Calls exec i xs o k s) :
    (p.andThen f).Calls exec i xs o k s := by
  induction p generalizing k s with
  | done r => exact h.elim
  | call o' next ih => exact h.imp_right (ih _)

theorem andThen_right {f : Except ε α → Prog Op Res ε β}
    (h : (f (p.eval exec i xs k s).result).Calls exec i xs o (p.eval exec i xs k s).calls (p.eval exec i xs k s).state) :
    (p.andThen f).Calls exec i xs o k s := by
  induction p generalizing k s with
  | done r => exact h
  | call o' next ih => exact .inr (ih _ h)

/-- A call of what follows a program that returned. -/
theorem bind_eval {f : α → Prog Op Res ε β} {a : α} {t : S} {n : ℕ} (hp : p.eval exec i xs k s = ⟨.ok a, t, n⟩)
    (hf : (f a).Calls exec i xs o n t) : (p.bind f).Calls exec i xs o k s := by
  refine andThen_right ?_
  rw [hp]
  exact hf

/-- A call of a program after a call that returns. -/
theorem op_bind {o' : Op} {f : Res o' → Prog Op Res ε β} {a : Res o'} (hok : (exec i o' (xs k) s).1 = .ok a)
    (h : (f a).Calls exec i xs o (k + 1) (exec.state i o' (xs k) s)) : ((Prog.op o').bind f).Calls exec i xs o k s := by
  refine .inr ?_
  rw [hok]
  exact h

theorem op_self {f : Except ε (Res o) → Prog Op Res ε β} : ((Prog.op o).andThen f).Calls exec i xs o k s := .inl rfl

end Prog.Calls
end
end Interleaving
