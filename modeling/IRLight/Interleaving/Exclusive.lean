import IRLight.Interleaving.Contract

/-! # Exclusive locks

Some requests work under one exclusive lock: such a task starts when it gets the lock, and from then on the
earlier ones have ended or crashed. What the holder of the lock knows of the state is kept by its own calls
and by those of the tasks without the lock (`Custody`), so it holds in every run (`Reachable.custody`). -/

namespace Interleaving

section
variable {S ρ Op : Type} {Res : Op → Type} {ε α X : Type}

/-- No task of the requests `F` has started after task `i`. -/
def Pool.Latest (F : ρ → Prop) (c : Pool S ρ Op Res ε α X) (i : ℕ) : Prop :=
  ∀ j t, c.tasks[j]? = some t → F t.request → j ≤ i

/-- Of the tasks of the requests `F`, only the holder of the lock makes a call. -/
def Pool.Exclusive (F : ρ → Prop) (c : Pool S ρ Op Res ε α X) : Action ρ X → Prop
  | .start _ => True
  | .step i _ => ∀ t, c.tasks[i]? = some t → F t.request → c.Latest F i

/-- Whether the step is the lock holder's. -/
def Pool.exclusive (F : ρ → Bool) (c : Pool S ρ Op Res ε α X) : Action ρ X → Bool
  | .start _ => true
  | .step i _ => (c.tasks[i]?).all fun t => !F t.request || (c.tasks.zipIdx.all fun p => !F p.1.request || p.2 ≤ i)

theorem Pool.Exclusive.of_check {F : ρ → Bool} {c : Pool S ρ Op Res ε α X} {a : Action ρ X} (h : c.exclusive F a) :
    c.Exclusive (fun q => F q) a := by
  cases a with
  | start q => trivial
  | step i x =>
    intro t ht hF j t' ht' hF'
    simp only [exclusive, ht, Option.all_some, hF, Bool.not_true, Bool.false_or, List.all_eq_true, Bool.or_eq_true,
      Bool.not_eq_true', decide_eq_true_eq] at h
    rcases h ⟨t', j⟩ (List.mk_mem_zipIdx_iff_getElem?.mpr ht') with hfalse | hle
    · exact absurd hF' (by simp [hfalse])
    · exact hle

/-- An invariant of the state, and what a holder of the lock knows after a history. -/
structure Custody (exec : Exec Op Res ε X S) (F : ρ → Prop) (permits : ρ → List (Event Op Res ε X) → Op → Prop)
    (assume : ρ → List (Event Op Res ε X) → Op → S → Prop) where
  inv : S → Prop
  knows : ρ → List (Event Op Res ε X) → S → Prop
  begins : ∀ q s, F q → inv s → knows q [] s
  own : ∀ {q h o i x s}, F q → inv s → knows q h s → permits q h o → assume q h o s →
    inv (exec.state i o x s) ∧ knows q (exec.event i o x s :: h) (exec.state i o x s)
  other : ∀ {q h o i x s}, ¬F q → inv s → permits q h o → assume q h o s →
    inv (exec.state i o x s) ∧ ∀ q' h', F q' → knows q' h' s → knows q' h' (exec.state i o x s)

/-- The invariant holds, and the holder of the lock knows what it should. -/
structure Custody.Held {exec : Exec Op Res ε X S} {F : ρ → Prop} {permits : ρ → List (Event Op Res ε X) → Op → Prop}
    {assume : ρ → List (Event Op Res ε X) → Op → S → Prop} (C : Custody exec F permits assume)
    (c : Pool S ρ Op Res ε α X) : Prop where
  inv : C.inv c.state
  knows : ∀ i t, c.tasks[i]? = some t → F t.request → c.Latest F i → C.knows t.request t.history c.state

variable {exec : Exec Op Res ε X S} {program : ρ → Prog Op Res ε α} {F : ρ → Prop}
  {permits : ρ → List (Event Op Res ε X) → Op → Prop} {assume : ρ → List (Event Op Res ε X) → Op → S → Prop}
  {cond : Pool S ρ Op Res ε α X → Action ρ X → Prop} {s₀ : S} {c : Pool S ρ Op Res ε α X}

/-- What is kept by an action that starts a task. -/
theorem Custody.Held.start (C : Custody exec F permits assume) (hc : C.Held c) (q : ρ) (p : Prog Op Res ε α) :
    C.Held { c with tasks := c.tasks ++ [⟨q, p, []⟩] } := by
  refine ⟨hc.inv, fun i t ht hF hlatest => ?_⟩
  rcases mem_tasks_append ht with ht | rfl
  · refine hc.knows i t ht hF fun j t' ht' hF' => hlatest j t' ?_ hF'
    obtain ⟨hj, _⟩ := List.getElem?_eq_some_iff.mp ht'
    exact (List.getElem?_append_left hj).trans ht'
  · exact C.begins q c.state hF hc.inv

/-- In every run under the lock the custody holds. -/
theorem Reachable.custody (C : Custody exec F permits assume) (hr : Reachable exec program cond s₀ c) (hinit : C.inv s₀)
    (hlock : ∀ c a, cond c a → c.Exclusive F a)
    (hpermits : ∀ (c : Pool S ρ Op Res ε α X) (i : ℕ) (t : Task ρ Op Res ε α X) (o : Op) next,
      Reachable exec program cond s₀ c → c.tasks[i]? = some t → t.program = .call o next → permits t.request t.history o)
    (hassume : ∀ (c : Pool S ρ Op Res ε α X) (i : ℕ) (x : X) (t : Task ρ Op Res ε α X) (o : Op) next,
      cond c (.step i x) → c.tasks[i]? = some t → t.program = .call o next → assume t.request t.history o c.state) :
    C.Held c := by
  have hbegin : C.Held (⟨s₀, []⟩ : Pool S ρ Op Res ε α X) := ⟨hinit, fun i t ht => by simp at ht⟩
  refine hr.invariant hbegin fun c a hr ha hc => ?_
  rcases Pool.act_cases exec program c a with ⟨q, rfl, he⟩ | ⟨i, x, q, o, next, h, rfl, ht, he⟩ | he <;> rw [he]
  · exact Custody.Held.start C hc q (program q)
  · have hp := hpermits c i _ o next hr ht rfl
    have hx := hassume c i x _ o next ha ht rfl
    have hlatest : ∀ j, (⟨exec.state i o x c.state, c.tasks.set i
        ⟨q, next (exec i o x c.state).1, exec.event i o x c.state :: h⟩⟩ : Pool S ρ Op Res ε α X).Latest F j →
          c.Latest F j := by
      intro j hj k t hk hF
      by_cases hik : i = k
      · subst hik
        obtain ⟨hlt, _⟩ := List.getElem?_eq_some_iff.mp ht
        obtain rfl := Option.some.inj (ht.symm.trans hk)
        exact hj i _ (List.getElem?_set_self hlt) hF
      · exact hj k t ((List.getElem?_set_ne hik).trans hk) hF
    by_cases hF : F q
    · have hown := C.own (i := i) (x := x) hF hc.inv (hc.knows i _ ht hF (hlock c _ ha _ ht hF)) hp hx
      refine ⟨hown.1, fun j t htj hFt hj => ?_⟩
      rcases mem_tasks_set htj with ⟨rfl, rfl⟩ | ⟨hij, htj⟩
      · exact hown.2
      · -- task `i` holds the lock, so no other task is the latest
        have hji := hlock c _ ha _ ht hF j t htj hFt
        have hij' := hlatest j hj i _ ht hF
        exact absurd (Nat.le_antisymm hij' hji) hij
    · have hother := C.other (i := i) (x := x) hF hc.inv hp hx
      refine ⟨hother.1, fun j t htj hFt hj => ?_⟩
      rcases mem_tasks_set htj with ⟨rfl, rfl⟩ | ⟨hij, htj⟩
      · exact absurd hFt hF
      · exact hother.2 _ _ hFt (hc.knows j t htj hFt (hlatest j hj))
  · exact hc

end
end Interleaving
