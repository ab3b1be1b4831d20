import IRLight.Interleaving.Program
import Mathlib.Algebra.Order.BigOperators.Group.List
import Mathlib.Algebra.Order.Ring.Nat

/-! # Pools of interleaved programs

Any number of tasks, each a program, work on one shared state. A schedule is a list of actions: it
starts a task or lets one task call its next operation. An operation is atomic, and what the
environment supplies to it (clock readings, faults, fresh names) is the action's input. A task that is
never scheduled again has crashed. Each task keeps its own history, the latest event first. -/

namespace Interleaving

/-- One call of an operation: what the environment supplied and what the call gave. -/
structure Event (Op : Type) (Res : Op → Type) (ε X : Type) where
  op : Op
  input : X
  result : Except ε (Res op)

/-- Whether the call returned. -/
def Event.isOk {Op : Type} {Res : Op → Type} {ε X : Type} (e : Event Op Res ε X) : Bool :=
  match e.result with
  | .ok _ => true
  | .error _ => false

/-- What task `i`'s call of `o` with input `x` gives in a state, and the state after it. -/
abbrev Exec (Op : Type) (Res : Op → Type) (ε X S : Type) :=
  ℕ → (o : Op) → X → S → Except ε (Res o) × S

/-- A task runs the program of its request. -/
structure Task (ρ Op : Type) (Res : Op → Type) (ε α X : Type) where
  request : ρ
  program : Prog Op Res ε α
  history : List (Event Op Res ε X)

structure Pool (S ρ Op : Type) (Res : Op → Type) (ε α X : Type) where
  state : S
  tasks : List (Task ρ Op Res ε α X)

/-- What a scheduler does next. -/
inductive Action (ρ X : Type) where
  | start (request : ρ)
  | step (task : ℕ) (input : X)

section Run
variable {S ρ Op : Type} {Res : Op → Type} {ε α X : Type}

/-- The event of task `i` calling `o` with input `x` in state `s`. -/
def Exec.event (exec : Exec Op Res ε X S) (i : ℕ) (o : Op) (x : X) (s : S) : Event Op Res ε X :=
  ⟨o, x, (exec i o x s).1⟩

/-- The state after task `i` called `o` with input `x` in state `s`. -/
def Exec.state (exec : Exec Op Res ε X S) (i : ℕ) (o : Op) (x : X) (s : S) : S := (exec i o x s).2

/-- One action. A step of a task that does not exist or has ended does nothing. -/
def Pool.act (exec : Exec Op Res ε X S) (program : ρ → Prog Op Res ε α) (c : Pool S ρ Op Res ε α X) :
    Action ρ X → Pool S ρ Op Res ε α X
  | .start q => { c with tasks := c.tasks ++ [⟨q, program q, []⟩] }
  | .step i x =>
    match c.tasks[i]? with
    | some ⟨q, .call o next, h⟩ =>
      ⟨exec.state i o x c.state,
        c.tasks.set i ⟨q, next (exec i o x c.state).1, exec.event i o x c.state :: h⟩⟩
    | _ => c

/-- The pool after a schedule. -/
def Pool.run (exec : Exec Op Res ε X S) (program : ρ → Prog Op Res ε α) (c : Pool S ρ Op Res ε α X)
    (schedule : List (Action ρ X)) : Pool S ρ Op Res ε α X :=
  schedule.foldl (Pool.act exec program) c

/-- A check of every action on the way. -/
def Pool.checks (exec : Exec Op Res ε X S) (program : ρ → Prog Op Res ε α)
    (check : Pool S ρ Op Res ε α X → Action ρ X → Bool) : Pool S ρ Op Res ε α X → List (Action ρ X) → Bool
  | _, [] => true
  | c, a :: schedule => check c a && (c.act exec program a).checks exec program check schedule

/-- The pools that a schedule reaches when each of its actions meets `cond`. -/
inductive Reachable (exec : Exec Op Res ε X S) (program : ρ → Prog Op Res ε α)
    (cond : Pool S ρ Op Res ε α X → Action ρ X → Prop) (init : S) : Pool S ρ Op Res ε α X → Prop
  | init : Reachable exec program cond init ⟨init, []⟩
  | act {c : Pool S ρ Op Res ε α X} (a : Action ρ X) :
      Reachable exec program cond init c → cond c a → Reachable exec program cond init (c.act exec program a)

/-- Task `i` is about to call `o`, after the history `h`. -/
def Pool.Calls (c : Pool S ρ Op Res ε α X) (i : ℕ) (o : Op) (h : List (Event Op Res ε X)) : Prop :=
  ∃ t next, c.tasks[i]? = some t ∧ t.program = .call o next ∧ t.history = h

/-- The action lets a task make the call `e`. -/
def Pool.Makes (exec : Exec Op Res ε X S) (c : Pool S ρ Op Res ε α X) (a : Action ρ X) (e : Event Op Res ε X) : Prop :=
  ∃ i x o h, a = .step i x ∧ c.Calls i o h ∧ e = exec.event i o x c.state

variable {exec : Exec Op Res ε X S} {program : ρ → Prog Op Res ε α}
  {cond cond' : Pool S ρ Op Res ε α X → Action ρ X → Prop} {s₀ : S} {c : Pool S ρ Op Res ε α X}

namespace Reachable

theorem mono (h : Reachable exec program cond s₀ c) (himp : ∀ c a, cond c a → cond' c a) :
    Reachable exec program cond' s₀ c := by
  induction h with
  | init => exact .init
  | act a _ ha ih => exact .act a ih (himp _ a ha)

/-- A schedule whose actions all meet the condition reaches what it runs to. -/
theorem run (h : Reachable exec program cond s₀ c) {schedule : List (Action ρ X)}
    (hall : ∀ c a, a ∈ schedule → cond c a) : Reachable exec program cond s₀ (c.run exec program schedule) := by
  induction schedule generalizing c with
  | nil => exact h
  | cons a l ih =>
    exact ih (h.act a (hall c a List.mem_cons_self)) fun c' a' ha' => hall c' a' (List.mem_cons_of_mem a ha')

/-- A schedule whose actions pass a check on the way reaches what it runs to. -/
theorem run_of_mem_checks (h : Reachable exec program cond s₀ c) {check : Pool S ρ Op Res ε α X → Action ρ X → Bool}
    {schedule : List (Action ρ X)} (hcheck : ∀ c, ∀ a ∈ schedule, check c a → cond c a)
    (hall : c.checks exec program check schedule) : Reachable exec program cond s₀ (c.run exec program schedule) := by
  induction schedule generalizing c with
  | nil => exact h
  | cons a l ih =>
    obtain ⟨ha, hl⟩ := Bool.and_eq_true_iff.mp hall
    exact ih (h.act a (hcheck c a List.mem_cons_self ha)) (fun c a' ha' => hcheck c a' (List.mem_cons_of_mem a ha')) hl

theorem run_of_checks (h : Reachable exec program cond s₀ c) {check : Pool S ρ Op Res ε α X → Action ρ X → Bool}
    (hcheck : ∀ c a, check c a → cond c a) {schedule : List (Action ρ X)}
    (hall : c.checks exec program check schedule) : Reachable exec program cond s₀ (c.run exec program schedule) :=
  h.run_of_mem_checks (fun c a _ => hcheck c a) hall

/-- What holds at first and is kept by every allowed action holds of every reachable pool. -/
theorem invariant {I : Pool S ρ Op Res ε α X → Prop} (hinit : I ⟨s₀, []⟩)
    (hact : ∀ c a, Reachable exec program cond s₀ c → cond c a → I c → I (c.act exec program a))
    (h : Reachable exec program cond s₀ c) : I c := by
  induction h with
  | init => exact hinit
  | act a hr ha ih => exact hact _ a hr ha ih

end Reachable

/-- What an action does: it starts a task, lets one task call its next operation, or does nothing. -/
theorem Pool.act_cases (exec : Exec Op Res ε X S) (program : ρ → Prog Op Res ε α) (c : Pool S ρ Op Res ε α X)
    (a : Action ρ X) :
    (∃ q, a = .start q ∧ c.act exec program a = { c with tasks := c.tasks ++ [⟨q, program q, []⟩] }) ∨
    (∃ i x q o next h, a = .step i x ∧ c.tasks[i]? = some ⟨q, .call o next, h⟩ ∧
      c.act exec program a = ⟨exec.state i o x c.state,
        c.tasks.set i ⟨q, next (exec i o x c.state).1, exec.event i o x c.state :: h⟩⟩) ∨
    c.act exec program a = c := by
  cases a with
  | start q => exact Or.inl ⟨q, rfl, rfl⟩
  | step i x =>
    rcases ht : c.tasks[i]? with _ | ⟨q, r | ⟨o, next⟩, h⟩
    · exact Or.inr (Or.inr (by simp only [Pool.act, ht]))
    · exact Or.inr (Or.inr (by simp only [Pool.act, ht]))
    · exact Or.inr (Or.inl ⟨i, x, q, o, next, h, rfl, ht, by simp only [Pool.act, ht]⟩)

/-- A task's next call moves the state. -/
theorem Pool.Calls.state {i : ℕ} {o : Op} {h : List (Event Op Res ε X)} (hc : c.Calls i o h)
    (exec : Exec Op Res ε X S) (program : ρ → Prog Op Res ε α) (x : X) :
    (c.act exec program (.step i x)).state = exec.state i o x c.state := by
  obtain ⟨⟨q, p, h⟩, next, ht, rfl, rfl⟩ := hc
  simp only [Pool.act, ht]

/-- An action leaves the state alone, or it is a task's next call. -/
theorem Pool.act_state (exec : Exec Op Res ε X S) (program : ρ → Prog Op Res ε α) (c : Pool S ρ Op Res ε α X)
    (a : Action ρ X) : (c.act exec program a).state = c.state ∨ ∃ i x o h, a = .step i x ∧ c.Calls i o h := by
  rcases Pool.act_cases exec program c a with ⟨q, -, he⟩ | ⟨i, x, q, o, next, h, rfl, ht, -⟩ | he
  · exact Or.inl (by rw [he])
  · exact Or.inr ⟨i, x, o, h, rfl, _, next, ht, rfl, rfl⟩
  · exact Or.inl (by rw [he])

/-- A check of the next call of a task. -/
def Pool.nextSatisfies (c : Pool S ρ Op Res ε α X) (i : ℕ) (φ : ρ → Op → List (Event Op Res ε X) → Bool) : Bool :=
  match c.tasks[i]? with
  | some ⟨q, .call o _, h⟩ => φ q o h
  | _ => false

theorem Pool.exists_of_nextSatisfies {i : ℕ} {φ : ρ → Op → List (Event Op Res ε X) → Bool}
    (hn : c.nextSatisfies i φ) : ∃ q o next h, c.tasks[i]? = some ⟨q, .call o next, h⟩ ∧ φ q o h := by
  unfold Pool.nextSatisfies at hn
  split at hn
  · rename_i q o next h ht
    exact ⟨q, o, next, h, ht, hn⟩
  · cases hn

theorem Pool.Calls.satisfies {i : ℕ} {o : Op} {h : List (Event Op Res ε X)} (hc : c.Calls i o h)
    {φ : ρ → Op → List (Event Op Res ε X) → Bool} (hn : c.nextSatisfies i φ) : ∃ q, φ q o h := by
  obtain ⟨⟨q, p, h⟩, next, ht, rfl, rfl⟩ := hc
  simp only [nextSatisfies, ht] at hn
  exact ⟨q, hn⟩

/-- A check of the end of a task. -/
def Pool.endSatisfies (c : Pool S ρ Op Res ε α X) (i : ℕ) (φ : ρ → Except ε α → Bool) : Bool :=
  match c.tasks[i]? with
  | some ⟨q, .done r, _⟩ => φ q r
  | _ => false

theorem Pool.exists_of_endSatisfies {i : ℕ} {φ : ρ → Except ε α → Bool} (hn : c.endSatisfies i φ) :
    ∃ q r h, c.tasks[i]? = some ⟨q, .done r, h⟩ ∧ φ q r := by
  unfold Pool.endSatisfies at hn
  split at hn
  · rename_i q r h ht
    exact ⟨q, r, h, ht, hn⟩
  · cases hn

/-- Every task after an action is a task from before, a new one, or the one that made a call. -/
theorem mem_tasks_set {i j : ℕ} {t t' : Task ρ Op Res ε α X} {l : List (Task ρ Op Res ε α X)}
    (h : (l.set i t)[j]? = some t') : (i = j ∧ t' = t) ∨ (i ≠ j ∧ l[j]? = some t') := by
  by_cases hij : i = j
  · subst hij
    rw [List.getElem?_set] at h
    simp only [↓reduceIte] at h
    split at h
    · exact Or.inl ⟨rfl, (Option.some.inj h).symm⟩
    · cases h
  · rw [List.getElem?_set_ne hij] at h
    exact Or.inr ⟨hij, h⟩

theorem mem_tasks_append {j : ℕ} {t t' : Task ρ Op Res ε α X} {l : List (Task ρ Op Res ε α X)}
    (h : (l ++ [t])[j]? = some t') : l[j]? = some t' ∨ t' = t := by
  rcases List.mem_append.mp (List.mem_of_getElem? h) with _ | hm
  · by_cases hj : j < l.length
    · rw [List.getElem?_append_left hj] at h
      exact Or.inl h
    · rw [List.getElem?_append_right (by omega)] at h
      exact Or.inr (List.mem_singleton.mp (List.mem_of_getElem? h))
  · exact Or.inr (List.mem_singleton.mp hm)

/-- Some call of the run so far satisfies `φ`. -/
def Pool.Saw (φ : Event Op Res ε X → Prop) (c : Pool S ρ Op Res ε α X) : Prop := ∃ t ∈ c.tasks, ∃ e ∈ t.history, φ e

namespace Pool
variable {φ : Event Op Res ε X → Prop}

theorem not_saw_init (s : S) : ¬(⟨s, []⟩ : Pool S ρ Op Res ε α X).Saw φ := fun ⟨_, ht, _⟩ => nomatch ht

theorem saw_start {s : S} {q : ρ} {p : Prog Op Res ε α} :
    (⟨s, c.tasks ++ [⟨q, p, []⟩]⟩ : Pool S ρ Op Res ε α X).Saw φ ↔ c.Saw φ := by
  constructor
  · rintro ⟨t, ht, e, he, hφ⟩
    rcases List.mem_append.mp ht with ht | ht
    · exact ⟨t, ht, e, he, hφ⟩
    · rw [List.mem_singleton.mp ht] at he
      cases he
  · rintro ⟨t, ht, e, he, hφ⟩
    exact ⟨t, List.mem_append_left _ ht, e, he, hφ⟩

/-- A call adds itself to what the run saw. -/
theorem saw_step {i : ℕ} {q : ρ} {p p' : Prog Op Res ε α} {h : List (Event Op Res ε X)} {s : S} {e : Event Op Res ε X}
    (ht : c.tasks[i]? = some ⟨q, p, h⟩) :
    (⟨s, c.tasks.set i ⟨q, p', e :: h⟩⟩ : Pool S ρ Op Res ε α X).Saw φ ↔ φ e ∨ c.Saw φ := by
  have hi : i < c.tasks.length := (List.getElem?_eq_some_iff.mp ht).1
  constructor
  · rintro ⟨t, htm, e', he', hφ⟩
    rcases List.mem_or_eq_of_mem_set htm with htm | rfl
    · exact Or.inr ⟨t, htm, e', he', hφ⟩
    · rcases List.mem_cons.mp he' with rfl | he'
      · exact Or.inl hφ
      · exact Or.inr ⟨_, List.mem_of_getElem? ht, e', he', hφ⟩
  · rintro (hφ | ⟨t, htm, e', he', hφ⟩)
    · exact ⟨_, List.mem_set hi _, e, List.mem_cons_self, hφ⟩
    · obtain ⟨j, htj⟩ := List.mem_iff_getElem?.mp htm
      by_cases hij : i = j
      · subst hij
        obtain rfl := Option.some.inj (ht.symm.trans htj)
        exact ⟨_, List.mem_set hi _, e', List.mem_cons_of_mem e he', hφ⟩
      · exact ⟨t, List.mem_of_getElem? ((List.getElem?_set_ne hij).trans htj), e', he', hφ⟩

end Pool

/-! ### Counting calls -/

theorem sum_map_set {β : Type} {f : β → ℕ} {l : List β} {i : ℕ} {t t' : β} {n : ℕ} (ht : l[i]? = some t)
    (hf : f t' = f t + n) : ((l.set i t').map f).sum = (l.map f).sum + n := by
  induction l generalizing i with
  | nil => simp at ht
  | cons b l ih =>
    cases i with
    | zero =>
      obtain rfl : b = t := by simpa using ht
      simp [hf]
      omega
    | succ i =>
      have hi := ih (i := i) (by simpa using ht)
      rw [List.set_cons_succ, List.map_cons, List.sum_cons, List.map_cons, List.sum_cons, hi]
      omega

theorem add_le_sum_map {β : Type} {f : β → ℕ} {l : List β} {i j : ℕ} {t t' : β} (ht : l[i]? = some t)
    (ht' : l[j]? = some t') (hij : i ≠ j) : f t + f t' ≤ (l.map f).sum := by
  have single : ∀ {l : List β} {i : ℕ} {t : β}, l[i]? = some t → f t ≤ (l.map f).sum := fun h =>
    List.single_le_sum (fun _ _ => Nat.zero_le _) _ (List.mem_map_of_mem (List.mem_of_getElem? h))
  induction l generalizing i j with
  | nil => simp at ht
  | cons b l ih =>
    cases i with
    | zero =>
      cases j with
      | zero => exact absurd rfl hij
      | succ j =>
        obtain rfl : b = t := by simpa using ht
        have := single (l := l) (i := j) (by simpa using ht')
        simp
        omega
    | succ i =>
      cases j with
      | zero =>
        obtain rfl : b = t' := by simpa using ht'
        have := single (l := l) (i := i) (by simpa using ht)
        simp
        omega
      | succ j =>
        have := ih (i := i) (j := j) (by simpa using ht) (by simpa using ht') (by omega)
        simp
        omega

/-- How many calls of the run so far satisfy `φ`. -/
def Pool.count (φ : Event Op Res ε X → Bool) (c : Pool S ρ Op Res ε α X) : ℕ :=
  (c.tasks.map fun t => t.history.countP φ).sum

namespace Pool
variable {φ : Event Op Res ε X → Bool}

@[simp] theorem count_init (s : S) : (⟨s, []⟩ : Pool S ρ Op Res ε α X).count φ = 0 := rfl

@[simp] theorem count_start (c : Pool S ρ Op Res ε α X) (s : S) (q : ρ) (p : Prog Op Res ε α) :
    (⟨s, c.tasks ++ [⟨q, p, []⟩]⟩ : Pool S ρ Op Res ε α X).count φ = c.count φ := by
  simp [count]

theorem count_step {i : ℕ} {q : ρ} {p p' : Prog Op Res ε α} {h : List (Event Op Res ε X)}
    (ht : c.tasks[i]? = some ⟨q, p, h⟩) (s : S) (e : Event Op Res ε X) :
    (⟨s, c.tasks.set i ⟨q, p', e :: h⟩⟩ : Pool S ρ Op Res ε α X).count φ = c.count φ + (if φ e then 1 else 0) :=
  sum_map_set ht (by simp [List.countP_cons])

/-- When at most one call satisfies `φ`, at most one task made such a call. -/
theorem unique_of_count (hc : c.count φ ≤ 1) {i j : ℕ} {t t' : Task ρ Op Res ε α X} {e e' : Event Op Res ε X}
    (ht : c.tasks[i]? = some t) (ht' : c.tasks[j]? = some t') (he : e ∈ t.history) (he' : e' ∈ t'.history)
    (hφ : φ e) (hφ' : φ e') : i = j := by
  by_contra hij
  have hsum := add_le_sum_map (f := fun t : Task ρ Op Res ε α X => t.history.countP φ) ht ht' hij
  have h₁ := List.countP_pos_iff.mpr ⟨e, he, hφ⟩
  have h₂ := List.countP_pos_iff.mpr ⟨e', he', hφ'⟩
  unfold count at hc
  omega

end Pool
end Run
end Interleaving
