import IRLight.Interleaving.Pool

/-! # Disciplines of one task

A discipline says which calls a task may make after its own history. `Prog.Abides` is the weakest
precondition of a program under a discipline, whatever its calls return or raise, so it needs neither a
state nor the other tasks. A pool whose programs abide at their start abides in every run
(`Reachable.abides`). -/

namespace Interleaving

section
variable {S ρ Op : Type} {Res : Op → Type} {ε α β γ X : Type}

/-- After the history `h` the program makes only permitted calls, and it ends in `Q`. -/
def Prog.Abides (permits : List (Event Op Res ε X) → Op → Prop) :
    Prog Op Res ε α → (Except ε α → List (Event Op Res ε X) → Prop) → List (Event Op Res ε X) → Prop
  | .done r, Q, h => Q r h
  | .call o next, Q, h => permits h o ∧ ∀ x r, (next r).Abides permits Q (⟨o, x, r⟩ :: h)

namespace Prog.Abides
variable {permits : List (Event Op Res ε X) → Op → Prop} {p : Prog Op Res ε α}
  {Q Q' : Except ε α → List (Event Op Res ε X) → Prop} {h : List (Event Op Res ε X)}

theorem done {r : Except ε α} (hQ : Q r h) : (Prog.done r : Prog Op Res ε α).Abides permits Q h := hQ

theorem mono (hp : p.Abides permits Q h) (hQ : ∀ r h', h ⊆ h' → Q r h' → Q' r h') : p.Abides permits Q' h := by
  induction p generalizing h with
  | done r => exact hQ r h (List.Subset.refl h) hp
  | call o next ih =>
    refine ⟨hp.1, fun x r => ih r (hp.2 x r) fun r' h' hsub => hQ r' h' ?_⟩
    exact fun e he => hsub (List.mem_cons_of_mem _ he)

theorem andThen {f : Except ε α → Prog Op Res ε β} {R : Except ε β → List (Event Op Res ε X) → Prop}
    (hp : p.Abides permits (fun r h => (f r).Abides permits R h) h) : (p.andThen f).Abides permits R h := by
  induction p generalizing h with
  | done r => exact hp
  | call o next ih => exact ⟨hp.1, fun x r => ih r (hp.2 x r)⟩

theorem bind {f : α → Prog Op Res ε β} {R : Except ε β → List (Event Op Res ε X) → Prop}
    (hp : p.Abides permits Q h) (hf : ∀ a h', h ⊆ h' → Q (.ok a) h' → (f a).Abides permits R h')
    (herr : ∀ e h', h ⊆ h' → Q (.error e) h' → R (.error e) h') : (p.bind f).Abides permits R h := by
  refine andThen (hp.mono fun r h' hsub hr => ?_)
  cases r with
  | ok a => exact hf a h' hsub hr
  | error e => exact herr e h' hsub hr

theorem op {o : Op} {R : Except ε (Res o) → List (Event Op Res ε X) → Prop} (ho : permits h o)
    (hR : ∀ x r, R r (⟨o, x, r⟩ :: h)) : (Prog.op o : Prog Op Res ε (Res o)).Abides permits R h := ⟨ho, hR⟩

theorem op_iff {o : Op} {R : Except ε (Res o) → List (Event Op Res ε X) → Prop} :
    (Prog.op o : Prog Op Res ε (Res o)).Abides permits R h ↔ permits h o ∧ ∀ x r, R r (⟨o, x, r⟩ :: h) := Iff.rfl

theorem call_iff {o : Op} {next : Except ε (Res o) → Prog Op Res ε α} : (Prog.call o next).Abides permits Q h ↔
    permits h o ∧ ∀ x r, (next r).Abides permits Q (⟨o, x, r⟩ :: h) := Iff.rfl

theorem done_iff {r : Except ε α} : (Prog.done r : Prog Op Res ε α).Abides permits Q h ↔ Q r h := Iff.rfl

/-- A call, and the program after each of its outcomes. -/
theorem op_bind {o : Op} {f : Res o → Prog Op Res ε β} {R : Except ε β → List (Event Op Res ε X) → Prop}
    (ho : permits h o) (hok : ∀ x a, (f a).Abides permits R (⟨o, x, .ok a⟩ :: h))
    (herr : ∀ x e, R (.error e) (⟨o, x, .error e⟩ :: h)) : ((Prog.op o).bind f).Abides permits R h := by
  refine ⟨ho, fun x r => ?_⟩
  cases r with
  | ok a => exact hok x a
  | error e => exact herr x e

/-- A computation without calls, and the program after it. -/
theorem ofExcept_bind {r : Except ε β} {f : β → Prog Op Res ε α} (hok : ∀ b, r = .ok b → (f b).Abides permits Q h)
    (herr : ∀ e, r = .error e → Q (.error e) h) : ((ofExcept r : Prog Op Res ε β).bind f).Abides permits Q h := by
  rw [ofExcept_def]
  cases r with
  | ok b => exact hok b rfl
  | error e => exact herr e rfl

theorem op_attempt {o : Op} {f : Except ε (Res o) → Prog Op Res ε β} {R : Except ε β → List (Event Op Res ε X) → Prop}
    (ho : permits h o) (hf : ∀ x r, (f r).Abides permits R (⟨o, x, r⟩ :: h)) :
    ((Prog.op o).attempt.bind f).Abides permits R h := ⟨ho, hf⟩

theorem tryExcept {handler : ε → Prog Op Res ε α} (hp : p.Abides permits Q h)
    (hok : ∀ a h', h ⊆ h' → Q (.ok a) h' → Q' (.ok a) h')
    (herr : ∀ e h', h ⊆ h' → Q (.error e) h' → (handler e).Abides permits Q' h') :
    (p.tryExcept handler).Abides permits Q' h := by
  refine andThen (hp.mono fun r h' hsub hr => ?_)
  cases r with
  | ok a => exact hok a h' hsub hr
  | error e => exact herr e h' hsub hr

/-- A program all of whose calls are permitted, and leave `F` true, as long as `F` holds. -/
theorem of_only {φ : Op → Prop} {F : List (Event Op Res ε X) → Prop} (hp : p.Only φ) (hF : F h)
    (hφ : ∀ o h, φ o → F h → permits h o ∧ ∀ x r, F (⟨o, x, r⟩ :: h)) : p.Abides permits (fun _ h => F h) h := by
  induction p generalizing h with
  | done r => exact hF
  | call o next ih =>
    obtain ⟨ho, hnext⟩ := Prog.Only.call_iff.mp hp
    exact ⟨(hφ o h ho hF).1, fun x r => ih r (hnext r) ((hφ o h ho hF).2 x r)⟩

/-- A loop whose body abides after every history that a round may begin with. -/
theorem forFold {l : List β} {init : γ} {body : γ → β → Prog Op Res ε γ} {F : List (Event Op Res ε X) → Prop} (hF : F h)
    (hbody : ∀ c, ∀ b ∈ l, ∀ h, F h → (body c b).Abides permits (fun _ h => F h) h) :
    (Prog.forFold l init body).Abides permits (fun _ h => F h) h := by
  induction l generalizing init h with
  | nil => exact hF
  | cons b l ih =>
    refine (hbody init b List.mem_cons_self h hF).bind (fun c h' _ hc => ih hc fun c' b' hb' => ?_) fun e h' _ he => he
    exact hbody c' b' (List.mem_cons_of_mem b hb')

end Prog.Abides

variable {exec : Exec Op Res ε X S} {program : ρ → Prog Op Res ε α}
  {cond : Pool S ρ Op Res ε α X → Action ρ X → Prop} {s₀ : S} {c : Pool S ρ Op Res ε α X}
  {permits : ρ → List (Event Op Res ε X) → Op → Prop} {Q : ρ → Except ε α → List (Event Op Res ε X) → Prop}

/-- In every run each task abides by the discipline of its request. -/
theorem Reachable.abides (hr : Reachable exec program cond s₀ c) (hstart : ∀ q, (program q).Abides (permits q) (Q q) [])
    {t : Task ρ Op Res ε α X} (ht : t ∈ c.tasks) : t.program.Abides (permits t.request) (Q t.request) t.history := by
  induction hr generalizing t with
  | init => simp at ht
  | @act c a _ ha ih =>
    rcases Pool.act_cases exec program c a with ⟨q, rfl, he⟩ | ⟨i, x, q, o, next, h, rfl, hti, he⟩ | he <;> rw [he] at ht
    · rcases List.mem_append.mp ht with ht | ht
      · exact ih ht
      · obtain rfl := List.mem_singleton.mp ht
        exact hstart q
    · rcases List.mem_or_eq_of_mem_set ht with ht | rfl
      · exact ih ht
      · exact (ih (List.mem_of_getElem? hti)).2 x _
    · exact ih ht

/-- Every call of the history was permitted after the ones before it. -/
def Permitted (permits : List (Event Op Res ε X) → Op → Prop) : List (Event Op Res ε X) → Prop
  | [] => True
  | e :: h => permits h e.op ∧ Permitted permits h

theorem Permitted.append {permits : List (Event Op Res ε X) → Op → Prop} {h h' : List (Event Op Res ε X)}
    (hp : Permitted permits (h ++ h')) : Permitted permits h' := by
  induction h with
  | nil => exact hp
  | cons e h ih => exact ih hp.2

/-- In every run each call of a task was permitted when it was made. -/
theorem Reachable.permitted (hr : Reachable exec program cond s₀ c) (hstart : ∀ q, (program q).Abides (permits q) (Q q) [])
    {t : Task ρ Op Res ε α X} (ht : t ∈ c.tasks) : Permitted (permits t.request) t.history := by
  induction hr generalizing t with
  | init => simp at ht
  | @act c a hr ha ih =>
    rcases Pool.act_cases exec program c a with ⟨q, rfl, he⟩ | ⟨i, x, q, o, next, h, rfl, hti, he⟩ | he <;> rw [he] at ht
    · rcases List.mem_append.mp ht with ht | ht
      · exact ih ht
      · obtain rfl := List.mem_singleton.mp ht
        trivial
    · rcases List.mem_or_eq_of_mem_set ht with ht | rfl
      · exact ih ht
      · have hti := List.mem_of_getElem? hti
        exact ⟨(hr.abides hstart hti).1, ih hti⟩
    · exact ih ht

-- From here on the rules above are all that a proof uses, and none runs a program.
attribute [irreducible] Prog.Abides

end
end Interleaving
