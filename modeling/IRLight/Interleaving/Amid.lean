import IRLight.Interleaving.Solo

/-! # Programs amid others

A program of one task whose calls find whatever state the others have left behind. Unlike in a pool nothing is known of
the others, so what is shown here holds in every run of every pool. -/

namespace Interleaving

/-- A call that a task has made, and the state that it found. -/
structure Made (Op X S : Type) where
  op : Op
  input : X
  state : S

section
variable {S Op : Type} {Res : Op → Type} {ε α β X : Type}

/-- The result of a call. -/
def Made.result (exec : Exec Op Res ε X S) (i : ℕ) (c : Made Op X S) : Except ε (Res c.op) :=
  (exec i c.op c.input c.state).1

/-- The state that a call leaves behind. -/
def Made.after (exec : Exec Op Res ε X S) (i : ℕ) (c : Made Op X S) : S := (exec i c.op c.input c.state).2

/-- The calls that task `i` makes of a program, each in a state of its own, and the result. -/
inductive Prog.Amid (exec : Exec Op Res ε X S) (i : ℕ) : Prog Op Res ε α → List (Made Op X S) → Except ε α → Prop
  | done (r : Except ε α) : (Prog.done r).Amid exec i [] r
  | call {o : Op} {next : Except ε (Res o) → Prog Op Res ε α} {calls : List (Made Op X S)} {r : Except ε α}
      (x : X) (s : S) (rest : (next (exec i o x s).1).Amid exec i calls r) : (Prog.call o next).Amid exec i (⟨o, x, s⟩ :: calls) r

variable {exec : Exec Op Res ε X S} {i k : ℕ} {calls : List (Made Op X S)} {r : Except ε β}

namespace Prog

theorem amid_done {r' : Except ε β} : (done r' : Prog Op Res ε β).Amid exec i calls r ↔ calls = [] ∧ r = r' := by
  constructor
  · intro h
    cases h
    exact ⟨rfl, rfl⟩
  · rintro ⟨rfl, rfl⟩
    exact .done r

theorem Amid.ite {c : Prop} [Decidable c] {p q : Prog Op Res ε β} (h : (if c then p else q).Amid exec i calls r) :
    p.Amid exec i calls r ∨ q.Amid exec i calls r := by
  split at h
  · exact .inl h
  · exact .inr h

/-- A call whose exception the program looks at. -/
theorem Amid.op_attempt {o : Op} {f : Except ε (Res o) → Prog Op Res ε β}
    (h : ((Prog.op o).attempt.bind f).Amid exec i calls r) :
    ∃ x s rest, calls = ⟨o, x, s⟩ :: rest ∧ (f (exec i o x s).1).Amid exec i rest r := by
  cases h with
  | call x s rest => exact ⟨x, s, _, rfl, rest⟩

/-- The calls of the first program come before those of the second. -/
theorem Amid.andThen {p : Prog Op Res ε α} {f : Except ε α → Prog Op Res ε β} (h : (p.andThen f).Amid exec i calls r) :
    ∃ first r' second, calls = first ++ second ∧ p.Amid exec i first r' ∧ (f r').Amid exec i second r := by
  induction p generalizing calls with
  | done r' => exact ⟨[], r', calls, rfl, .done r', h⟩
  | call o next ih =>
    cases h with
    | call x s hnext =>
      obtain ⟨first, r', second, rfl, hfirst, hsecond⟩ := ih (exec i o x s).1 hnext
      exact ⟨⟨o, x, s⟩ :: first, r', second, rfl, .call x s hfirst, hsecond⟩

theorem Amid.bind_ok {p : Prog Op Res ε α} {f : α → Prog Op Res ε β} {b : β} (h : (p.bind f).Amid exec i calls (.ok b)) :
    ∃ a first second, calls = first ++ second ∧ p.Amid exec i first (.ok a) ∧ (f a).Amid exec i second (.ok b) := by
  obtain ⟨first, r', second, rfl, hfirst, hsecond⟩ := Amid.andThen h
  cases r' with
  | ok a => exact ⟨a, first, second, rfl, hfirst, hsecond⟩
  | error e =>
    obtain ⟨-, he⟩ := amid_done.mp hsecond
    cases he

theorem amid_op {o : Op} {r : Except ε (Res o)} :
    (op o : Prog Op Res ε (Res o)).Amid exec i calls r ↔ ∃ x s, calls = [⟨o, x, s⟩] ∧ r = (exec i o x s).1 := by
  constructor
  · intro h
    cases h with
    | call x s hdone =>
      obtain ⟨rfl, rfl⟩ := amid_done.mp hdone
      exact ⟨x, s, rfl, rfl⟩
  · rintro ⟨x, s, rfl, rfl⟩
    exact .call x s (.done _)

theorem Amid.only {φ : Op → Prop} {p : Prog Op Res ε β} (h : p.Amid exec i calls r) (hp : p.Only φ) : ∀ c ∈ calls, φ c.op := by
  induction h with
  | done r =>
    intro c hc
    cases hc
  | call x s _ ih =>
    obtain ⟨ho, hnext⟩ := Only.call_iff.mp hp
    intro c hc
    rcases List.mem_cons.mp hc with rfl | hc
    · exact ho
    · exact ih (hnext _) c hc

/-- The calls of a program that runs alone. -/
def made (exec : Exec Op Res ε X S) (i : ℕ) (xs : ℕ → X) : Prog Op Res ε α → ℕ → S → List (Made Op X S)
  | .done _, _, _ => []
  | .call o next, k, s => ⟨o, xs k, s⟩ :: (next (exec i o (xs k) s).1).made exec i xs (k + 1) (exec.state i o (xs k) s)

/-- A program that runs alone is one case of it. -/
theorem amid_eval (p : Prog Op Res ε α) (xs : ℕ → X) (s : S) :
    p.Amid exec i (p.made exec i xs k s) (p.eval exec i xs k s).result := by
  induction p generalizing k s with
  | done r => exact .done r
  | call o next ih => exact .call (xs k) s (ih _ _)

end Prog

/-! ### Without the others -/

/-- Each call finds the state that the one before has left. -/
def Straight (exec : Exec Op Res ε X S) (i : ℕ) : S → List (Made Op X S) → S → Prop
  | s, [], s' => s' = s
  | s, c :: calls, s' => c.state = s ∧ Straight exec i (c.after exec i) calls s'

variable {s s' : S}

theorem straight_append {first second : List (Made Op X S)} :
    Straight exec i s (first ++ second) s' ↔ ∃ m, Straight exec i s first m ∧ Straight exec i m second s' := by
  induction first generalizing s with
  | nil =>
    constructor
    · intro h
      exact ⟨s, rfl, h⟩
    · rintro ⟨m, rfl, h⟩
      exact h
  | cons c first ih =>
    constructor
    · rintro ⟨hc, hrest⟩
      obtain ⟨m, hfirst, hsecond⟩ := ih.mp hrest
      exact ⟨m, ⟨hc, hfirst⟩, hsecond⟩
    · rintro ⟨m, ⟨hc, hfirst⟩, hsecond⟩
      exact ⟨hc, ih.mpr ⟨m, hfirst, hsecond⟩⟩

/-- What every call keeps holds at the end if it does at the start. -/
theorem Straight.keeps {P : S → Prop} (h : Straight exec i s calls s') (hs : P s)
    (hstep : ∀ c ∈ calls, P c.state → P (c.after exec i)) : P s' := by
  induction calls generalizing s with
  | nil =>
    obtain rfl := h
    exact hs
  | cons c calls ih =>
    obtain ⟨rfl, hrest⟩ := h
    exact ih hrest (hstep c List.mem_cons_self hs) fun c hc => hstep c (List.mem_cons_of_mem _ hc)

theorem Prog.straight_made (p : Prog Op Res ε α) (xs : ℕ → X) (s : S) :
    Straight exec i s (p.made exec i xs k s) (p.eval exec i xs k s).state := by
  induction p generalizing k s with
  | done r => rfl
  | call o next ih => exact ⟨rfl, ih _ _⟩

end
end Interleaving
