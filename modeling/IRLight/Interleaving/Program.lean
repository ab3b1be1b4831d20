import Mathlib.Tactic.Basic

/-! # Programs over atomic operations

A program calls atomic operations one at a time and goes on with what each call returned or raised.
Sequencing, `except` and `finally` are all `andThen`, which sees a program's result either way, so one
rule about `andThen` serves them all. -/

namespace Interleaving

/-- A program over the operations `Op`. A call of `o` returns a `Res o` or raises an `ε`; the program
    itself returns an `α` or raises an `ε`. -/
inductive Prog (Op : Type) (Res : Op → Type) (ε α : Type) where
  | done (result : Except ε α)
  | call (op : Op) (next : Except ε (Res op) → Prog Op Res ε α)

namespace Prog
variable {Op : Type} {Res : Op → Type} {ε α β γ : Type}

/-- `p`, and then `f` on what `p` returned or raised. -/
def andThen : Prog Op Res ε α → (Except ε α → Prog Op Res ε β) → Prog Op Res ε β
  | .done r, f => f r
  | .call o next, f => .call o fun r => (next r).andThen f

/-- The operation `o` alone. -/
def op (o : Op) : Prog Op Res ε (Res o) := .call o .done

def bind (p : Prog Op Res ε α) (f : α → Prog Op Res ε β) : Prog Op Res ε β :=
  p.andThen fun
    | .ok a => f a
    | .error e => .done (.error e)

/-- `p`, with its exception as a value. -/
def attempt (p : Prog Op Res ε α) : Prog Op Res ε (Except ε α) := p.andThen fun r => .done (.ok r)

/-- `try: p except e: handler e`. -/
def tryExcept (p : Prog Op Res ε α) (handler : ε → Prog Op Res ε α) : Prog Op Res ε α :=
  p.andThen fun
    | .ok a => .done (.ok a)
    | .error e => handler e

/-- `try: p finally: last`. An exception of `last` replaces the result of `p`. -/
def tryFinally (p : Prog Op Res ε α) (last : Prog Op Res ε Unit) : Prog Op Res ε α :=
  p.andThen fun r => last.bind fun _ => .done r

instance : Monad (Prog Op Res ε) where
  pure a := .done (.ok a)
  bind := bind

instance : MonadExcept ε (Prog Op Res ε) where
  throw e := .done (.error e)
  tryCatch := tryExcept

/-- `for b in l: state = body state b`. -/
def forFold (l : List β) (init : γ) (body : γ → β → Prog Op Res ε γ) : Prog Op Res ε γ :=
  match l with
  | [] => .done (.ok init)
  | b :: l => (body init b).bind fun c => forFold l c body

@[simp] theorem andThen_done (r : Except ε α) (f : Except ε α → Prog Op Res ε β) : (done r).andThen f = f r := rfl
theorem pure_def (a : α) : (pure a : Prog Op Res ε α) = .done (.ok a) := rfl
theorem throw_def (e : ε) : (throw e : Prog Op Res ε α) = .done (.error e) := rfl
theorem ofExcept_def (r : Except ε α) : (ofExcept r : Prog Op Res ε α) = .done r := by cases r <;> rfl
theorem bind_def (p : Prog Op Res ε α) (f : α → Prog Op Res ε β) : (p >>= f) = p.bind f := rfl
@[simp] theorem done_bind_ok (a : α) (f : α → Prog Op Res ε β) : (done (.ok a)).bind f = f a := rfl
@[simp] theorem done_bind_error (e : ε) (f : α → Prog Op Res ε β) : (done (.error e)).bind f = .done (.error e) := rfl

theorem bind_assoc (p : Prog Op Res ε α) (f : α → Prog Op Res ε β) (g : β → Prog Op Res ε γ) :
    (p.bind f).bind g = p.bind fun a => (f a).bind g := by
  induction p with
  | done r => cases r <;> rfl
  | call o next ih => exact congrArg _ (funext ih)

/-! ### Which operations a program may call -/

/-- Every operation that `p` calls, whatever the earlier calls gave, satisfies `φ`. -/
def Only (φ : Op → Prop) : Prog Op Res ε α → Prop
  | .done _ => True
  | .call o next => φ o ∧ ∀ r, (next r).Only φ

namespace Only
variable {φ ψ : Op → Prop} {p : Prog Op Res ε α}

@[simp] theorem done (r : Except ε α) : (Prog.done r : Prog Op Res ε α).Only φ := trivial

theorem call_iff {o : Op} {next : Except ε (Res o) → Prog Op Res ε α} :
    (Prog.call o next).Only φ ↔ φ o ∧ ∀ r, (next r).Only φ := Iff.rfl

theorem op {o : Op} (h : φ o) : (Prog.op o : Prog Op Res ε (Res o)).Only φ := ⟨h, fun _ => trivial⟩

theorem ofExcept (r : Except ε α) : (ofExcept r : Prog Op Res ε α).Only φ := by
  rw [ofExcept_def]
  trivial

theorem any (p : Prog Op Res ε α) : p.Only fun _ => True := by
  induction p with
  | done r => trivial
  | call o next ih => exact ⟨trivial, ih⟩

theorem mono (h : p.Only φ) (himp : ∀ o, φ o → ψ o) : p.Only ψ := by
  induction p with
  | done r => trivial
  | call o next ih => exact ⟨himp o h.1, fun r => ih r (h.2 r)⟩

theorem andThen {f : Except ε α → Prog Op Res ε β} (h : p.Only φ) (hf : ∀ r, (f r).Only φ) :
    (p.andThen f).Only φ := by
  induction p with
  | done r => exact hf r
  | call o next ih => exact ⟨h.1, fun r => ih r (h.2 r)⟩

theorem bind {f : α → Prog Op Res ε β} (h : p.Only φ) (hf : ∀ a, (f a).Only φ) : (p.bind f).Only φ :=
  h.andThen fun
    | .ok a => hf a
    | .error _ => trivial

theorem attempt (h : p.Only φ) : p.attempt.Only φ := h.andThen fun _ => trivial

theorem tryExcept {handler : ε → Prog Op Res ε α} (h : p.Only φ) (hh : ∀ e, (handler e).Only φ) :
    (p.tryExcept handler).Only φ :=
  h.andThen fun
    | .ok _ => trivial
    | .error e => hh e

theorem tryFinally {last : Prog Op Res ε Unit} (h : p.Only φ) (hl : last.Only φ) :
    (p.tryFinally last).Only φ :=
  h.andThen fun _ => hl.bind fun _ => trivial

theorem forFold {l : List β} {init : γ} {body : γ → β → Prog Op Res ε γ}
    (h : ∀ c, ∀ b ∈ l, (body c b).Only φ) : (Prog.forFold l init body).Only φ := by
  induction l generalizing init with
  | nil => trivial
  | cons b l ih =>
    exact (h init b List.mem_cons_self).bind fun c => ih fun c' b' hb => h c' b' (List.mem_cons_of_mem b hb)

end Only

-- From here on the rules above bound the calls of a program, and no proof runs it.
attribute [irreducible] Only

end Prog
end Interleaving
