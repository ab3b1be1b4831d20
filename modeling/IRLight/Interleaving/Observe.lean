import IRLight.Interleaving.Trace

/-! # Programs that observe a discipline

What a program may rely on for its calls is mostly that some events are in its history. `Prog.Observes` is `Prog.Abides` after any
history that has these events in it, so its rules need no frame. -/

namespace Interleaving

section
variable {Op : Type} {Res : Op → Type} {ε α β γ X : Type}

/-- After any history with the events of `known` in it, the program makes only permitted calls. -/
def Prog.Observes (permits : List (Event Op Res ε X) → Op → Prop) (known : List (Event Op Res ε X)) (p : Prog Op Res ε α) : Prop :=
  ∀ h, known ⊆ h → p.Abides permits (fun _ _ => True) h

namespace Prog.Observes
variable {permits : List (Event Op Res ε X) → Op → Prop} {known known' : List (Event Op Res ε X)} {p : Prog Op Res ε α} {o : Op}

theorem done (r : Except ε α) : (Prog.done r : Prog Op Res ε α).Observes permits known := fun _ _ => Abides.done trivial

theorem mono (hp : p.Observes permits known) (hsub : known ⊆ known') : p.Observes permits known' :=
  fun h hknown => hp h (List.Subset.trans hsub hknown)

theorem andThen {f : Except ε α → Prog Op Res ε β} (hp : p.Observes permits known) (hf : ∀ r, (f r).Observes permits known) :
    (p.andThen f).Observes permits known := fun h hknown =>
  .andThen ((hp h hknown).mono fun r h' hsub _ => hf r h' (List.Subset.trans hknown hsub))

theorem bind {f : α → Prog Op Res ε β} (hp : p.Observes permits known) (hf : ∀ a, (f a).Observes permits known) :
    (p.bind f).Observes permits known :=
  hp.andThen fun
    | .ok a => hf a
    | .error e => done (.error e)

theorem attempt (hp : p.Observes permits known) : p.attempt.Observes permits known := hp.andThen fun _ => done _

theorem tryExcept {handler : ε → Prog Op Res ε α} (hp : p.Observes permits known)
    (hh : ∀ e, (handler e).Observes permits known) : (p.tryExcept handler).Observes permits known :=
  hp.andThen fun
    | .ok _ => done _
    | .error e => hh e

theorem tryFinally {last : Prog Op Res ε Unit} (hp : p.Observes permits known) (hl : last.Observes permits known) :
    (p.tryFinally last).Observes permits known := hp.andThen fun _ => hl.bind fun _ => done _

/-- A call, and what follows it with its event known. -/
theorem op_andThen {f : Except ε (Res o) → Prog Op Res ε α} (ho : ∀ h, known ⊆ h → permits h o)
    (hf : ∀ x r, (f r).Observes permits (⟨o, x, r⟩ :: known)) : ((Prog.op o).andThen f).Observes permits known := by
  intro h hknown
  refine .andThen (Abides.op (ho h hknown) fun x r => hf x r _ fun e he => ?_)
  rcases List.mem_cons.mp he with rfl | he
  · exact List.mem_cons_self
  · exact List.mem_cons_of_mem _ (hknown he)

theorem op_bind {f : Res o → Prog Op Res ε α} (ho : ∀ h, known ⊆ h → permits h o)
    (hf : ∀ x a, (f a).Observes permits (⟨o, x, .ok a⟩ :: known)) : ((Prog.op o).bind f).Observes permits known :=
  op_andThen ho fun x => fun
    | .ok a => hf x a
    | .error e => done (.error e)

theorem op_attempt {f : Except ε (Res o) → Prog Op Res ε α} (ho : ∀ h, known ⊆ h → permits h o)
    (hf : ∀ x r, (f r).Observes permits (⟨o, x, r⟩ :: known)) : ((Prog.op o).attempt.bind f).Observes permits known :=
  op_andThen ho hf

theorem op (ho : ∀ h, known ⊆ h → permits h o) : (Prog.op o : Prog Op Res ε (Res o)).Observes permits known :=
  fun h hknown => Abides.op (ho h hknown) fun _ _ => trivial

theorem of_only {φ : Op → Prop} (hp : p.Only φ) (hφ : ∀ o, φ o → ∀ h, known ⊆ h → permits h o) : p.Observes permits known := by
  refine fun h hknown => (Abides.of_only (F := fun h => known ⊆ h) hp hknown fun o h ho hknown => ?_).mono fun _ _ _ _ => trivial
  exact ⟨hφ o ho h hknown, fun _ _ => List.subset_cons_of_subset _ hknown⟩

theorem forFold {l : List β} {init : γ} {body : γ → β → Prog Op Res ε γ}
    (hbody : ∀ c, ∀ b ∈ l, (body c b).Observes permits known) : (Prog.forFold l init body).Observes permits known := by
  induction l generalizing init with
  | nil => exact done _
  | cons b l ih =>
    exact (hbody init b List.mem_cons_self).bind fun c => ih fun c' b' hb => hbody c' b' (List.mem_cons_of_mem b hb)

end Prog.Observes
end
end Interleaving
