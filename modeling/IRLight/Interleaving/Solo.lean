import IRLight.Interleaving.Contract

/-! # Programs that run alone

A task that nobody interrupts runs its program from one state to another (`Prog.eval`). The pool reaches
what the program evaluates to (`Pool.run_alone`), and a program that meets a contract evaluates to a
result in its postcondition (`Prog.Meets.eval`). -/

namespace Interleaving

/-- How a program that ran alone ended: its result, the state, and the number of the next call. -/
structure Outcome (ε α S : Type) where
  result : Except ε α
  state : S
  calls : ℕ

section
variable {S ρ Op : Type} {Res : Op → Type} {ε α β γ X : Type}

/-- What task `i` alone makes of the program, from the state `s` and its call number `k` on. The environment
    supplies `xs k` to call number `k`. -/
def Prog.eval (exec : Exec Op Res ε X S) (i : ℕ) (xs : ℕ → X) : Prog Op Res ε α → ℕ → S → Outcome ε α S
  | .done r, k, s => ⟨r, s, k⟩
  | .call o next, k, s => (next (exec i o (xs k) s).1).eval exec i xs (k + 1) (exec.state i o (xs k) s)

variable {exec : Exec Op Res ε X S} {program : ρ → Prog Op Res ε α} {i k : ℕ} {xs : ℕ → X} {s : S}

namespace Prog

@[simp] theorem eval_done (r : Except ε α) : (done r : Prog Op Res ε α).eval exec i xs k s = ⟨r, s, k⟩ := rfl

theorem eval_andThen (p : Prog Op Res ε α) (f : Except ε α → Prog Op Res ε β) :
    (p.andThen f).eval exec i xs k s =
      (f (p.eval exec i xs k s).result).eval exec i xs (p.eval exec i xs k s).calls (p.eval exec i xs k s).state := by
  induction p generalizing k s with
  | done r => rfl
  | call o next ih => exact ih _

theorem eval_op_bind (o : Op) (f : Res o → Prog Op Res ε β) :
    ((Prog.op o).bind f).eval exec i xs k s =
      match (exec i o (xs k) s).1 with
      | .ok a => (f a).eval exec i xs (k + 1) (exec.state i o (xs k) s)
      | .error e => ⟨.error e, exec.state i o (xs k) s, k + 1⟩ := by
  rw [bind, eval_andThen]
  simp only [op, eval]
  cases (exec i o (xs k) s).1 <;> rfl

end Prog

/-- The calls that the task makes alone. -/
def aloneSteps (i : ℕ) (xs : ℕ → X) (k n : ℕ) : List (Action ρ X) := (List.range' k n).map fun j => .step i (xs j)

/-- A task that runs alone ends as its program evaluates, and the others stay as they are. -/
theorem Pool.run_alone {c : Pool S ρ Op Res ε α X} {q : ρ} {p : Prog Op Res ε α} {h : List (Event Op Res ε X)}
    (ht : c.tasks[i]? = some ⟨q, p, h⟩) (k : ℕ) (xs : ℕ → X) :
    ∃ n h', c.run exec program (aloneSteps i xs k n) = ⟨(p.eval exec i xs k c.state).state,
      c.tasks.set i ⟨q, .done (p.eval exec i xs k c.state).result, h'⟩⟩ := by
  induction p generalizing c h k with
  | done r =>
    obtain ⟨hi, hget⟩ := List.getElem?_eq_some_iff.mp ht
    refine ⟨0, h, ?_⟩
    rw [Prog.eval_done, ← hget, List.set_getElem_self]
    rfl
  | call o next ih =>
    obtain ⟨hi, -⟩ := List.getElem?_eq_some_iff.mp ht
    have hstep : c.act exec program (.step i (xs k)) = ⟨exec.state i o (xs k) c.state,
        c.tasks.set i ⟨q, next (exec i o (xs k) c.state).1, exec.event i o (xs k) c.state :: h⟩⟩ := by
      simp only [Pool.act, ht]
    obtain ⟨n, h', hn⟩ := ih (exec i o (xs k) c.state).1 (c := c.act exec program (.step i (xs k)))
      (h := exec.event i o (xs k) c.state :: h) (by rw [hstep]; exact List.getElem?_set_self hi) (k + 1)
    refine ⟨n + 1, h', ?_⟩
    rw [aloneSteps, List.range'_succ, List.map_cons]
    refine hn.trans ?_
    rw [hstep]
    simp only [Prog.eval, List.set_set]

/-- A request that is served alone. -/
theorem Pool.serve_alone (c : Pool S ρ Op Res ε α X) (q : ρ) (xs : ℕ → X) :
    ∃ n h', c.run exec program (.start q :: aloneSteps c.tasks.length xs 0 n) =
      ⟨((program q).eval exec c.tasks.length xs 0 c.state).state,
        c.tasks ++ [⟨q, .done ((program q).eval exec c.tasks.length xs 0 c.state).result, h'⟩]⟩ := by
  have hstarted : (c.act exec program (.start q)).tasks[c.tasks.length]? = some ⟨q, program q, []⟩ := by simp [Pool.act]
  obtain ⟨n, h', hn⟩ := @Pool.run_alone _ _ _ _ _ _ _ exec program _ _ _ _ _ hstarted 0 xs
  refine ⟨n, h', hn.trans ?_⟩
  simp [Pool.act]

/-! ### Exceptions -/

/-- As long as the exceptions of its calls are of `φ`, the program ends in `Q`. -/
def Prog.Ends (φ : ε → Prop) (Q : Except ε α → Prop) : Prog Op Res ε α → Prop
  | .done r => Q r
  | .call o next => ∀ r : Except ε (Res o), (∀ e, r = .error e → φ e) → (next r).Ends φ Q

namespace Prog.Ends
variable {φ : ε → Prop} {Q : Except ε α → Prop} {Q' : Except ε β → Prop} {p : Prog Op Res ε α}

theorem done {r : Except ε α} (h : Q r) : (Prog.done r : Prog Op Res ε α).Ends φ Q := h

theorem op (o : Op) : (Prog.op o : Prog Op Res ε (Res o)).Ends φ fun r => ∀ e, r = .error e → φ e := fun _ h => h

theorem andThen {f : Except ε α → Prog Op Res ε β} (hp : p.Ends φ Q) (hf : ∀ r, Q r → (f r).Ends φ Q') :
    (p.andThen f).Ends φ Q' := by
  induction p with
  | done r => exact hf r hp
  | call o next ih => exact fun r hr => ih r (hp r hr)

theorem bind {f : α → Prog Op Res ε β} (hp : p.Ends φ Q) (herr : ∀ e, Q (.error e) → Q' (.error e))
    (hok : ∀ a, Q (.ok a) → (f a).Ends φ Q') : (p.bind f).Ends φ Q' :=
  hp.andThen fun
    | .ok a, ha => hok a ha
    | .error e, he => herr e he

theorem op_attempt {o : Op} {f : Except ε (Res o) → Prog Op Res ε β} (hf : ∀ r, (∀ e, r = .error e → φ e) → (f r).Ends φ Q') :
    ((Prog.op o).attempt.bind f).Ends φ Q' := hf

/-- What the program evaluates to, when its calls raise no other exceptions. -/
theorem eval (hp : p.Ends φ Q) (hexec : ∀ o x s e, (exec i o x s).1 = .error e → φ e) :
    Q (p.eval exec i xs k s).result := by
  induction p generalizing k s with
  | done r => exact hp
  | call o next ih => exact ih _ (hp _ (hexec o (xs k) s))

end Prog.Ends

-- the rules above are all that is used: unfolding would run the program
attribute [irreducible] Prog.Ends

/-- Every exception that the program ends with is one of `φ`, as long as those of its calls are. -/
def Prog.Throws (φ : ε → Prop) (p : Prog Op Res ε α) : Prop := p.Ends φ fun r => ∀ e, r = .error e → φ e

namespace Prog.Throws
variable {φ : ε → Prop} {p : Prog Op Res ε α}

theorem done {r : Except ε α} (h : ∀ e, r = .error e → φ e) : (Prog.done r : Prog Op Res ε α).Throws φ := Ends.done h

theorem pure (a : α) : (Prog.done (.ok a) : Prog Op Res ε α).Throws φ := done fun _ h => nomatch h

theorem throw {e : ε} (h : φ e) : (Prog.done (.error e) : Prog Op Res ε α).Throws φ :=
  done fun _ he => Except.error.inj he ▸ h

theorem op (o : Op) : (Prog.op o : Prog Op Res ε (Res o)).Throws φ := Ends.op o

theorem bind {f : α → Prog Op Res ε β} (hp : p.Throws φ) (hf : ∀ a, (f a).Throws φ) : (p.bind f).Throws φ :=
  Ends.andThen hp fun
    | .ok a, _ => hf a
    | .error _, he => throw (he _ rfl)

theorem tryExcept {handler : ε → Prog Op Res ε α} (hp : p.Throws φ) (hh : ∀ e, φ e → (handler e).Throws φ) :
    (p.tryExcept handler).Throws φ :=
  Ends.andThen hp fun
    | .ok a, _ => pure a
    | .error e, he => hh e (he e rfl)

theorem forFold {l : List β} {init : γ} {body : γ → β → Prog Op Res ε γ} (hbody : ∀ c b, (body c b).Throws φ) :
    (Prog.forFold l init body).Throws φ := by
  induction l generalizing init with
  | nil => exact pure _
  | cons b l ih => exact (hbody init b).bind fun c => ih

end Prog.Throws
end
end Interleaving
