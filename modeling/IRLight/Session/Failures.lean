import IRLight.Session.Lifecycle

/-! # What the store's transactions raise -/

namespace IRLight
open Status

theorem Raises.updateOf {φ : Exc → Prop} (hstate : ∀ m, φ (.sessionStateError m)) (context : String)
    (changes : List Change) : Raises φ (updateOf context changes) := by
  induction changes with
  | nil => exact ok _
  | cons c changes ih =>
    refine bind ?_ fun _ _ => bind ih fun _ _ => ok _
    cases c with
    | readyAt v => exact bind (requireTimestamp (hstate _)) fun _ _ => ok _
    | _ => exact ok _

namespace SessionStore
variable {s : SessionStore} {sid : String} {φ : Exc → Prop} {clock : ℕ → PyFloat} {fresh : Uuid}

theorem raises_persist (hstate : ∀ m, φ (.sessionStateError m)) : Raises φ s.persist := by
  unfold persist
  split
  · exact .error (hstate _)
  · exact .ok _

theorem raises_edit {α : Type} {f : Option Session → Except Exc (α × Option Session)}
    (hstate : ∀ m, φ (.sessionStateError m)) (hf : Raises φ (f (s.session? sid))) : Raises φ (s.edit sid f) := by
  refine .bind hf fun p _ => ?_
  obtain ⟨a, r⟩ := p
  cases r with
  | none => exact .ok _
  | some r => exact .bind (raises_persist hstate) fun _ _ => .ok _

theorem raises_requireSession {o : Option Session} (h : φ (.keyError sid)) : Raises φ (requireSession sid o) := by
  cases o with
  | none => exact .error h
  | some r => exact .ok r

/-! ### Checkpoints -/

/-- A checkpoint that finds its Session where it may move it, or cancelled, does not raise `InvalidTransition`. -/
theorem checkpoint_raises {op : Uuid} {next : Option Status} {complete : Bool} {changes : List Change}
    (hstatus : ∀ update, updateOf "Session provisioning checkpoint" changes = .ok update → ∀ r : Session,
      (update r).status = r.status)
    (hfits : ∀ r, s.session? sid = some r → r.provisioningOperationId = some op →
      4 ≤ r.status.phase ∨ ∀ n ∈ next, n ∈ transitions r.status) :
    Raises (fun e => ∀ m, e ≠ .invalidTransition m) (s.provisioningCheckpoint sid op next complete changes clock) := by
  refine .bind (.updateOf (fun _ _ => (nomatch ·)) _ _) fun update hu => raises_edit (fun _ _ => (nomatch ·)) ?_
  refine .bind (raises_requireSession fun _ => (nomatch ·)) fun r hr => .bind (.raiseIf fun _ _ => (nomatch ·)) fun _ ho =>
    .bind (.requireTimestamp fun _ => (nomatch ·)) fun now _ => .bind ?_ fun _ _ => .ok _
  rw [requireSession_eq_ok] at hr
  rw [raiseIf_eq_ok, not_not] at ho
  have hst := hstatus update hu r
  split
  · exact .ok _
  · rename_i hc
    rcases hfits r hr ho with hlate | hmove
    · refine absurd ?_ hc
      simp only [Session.provisioningCancelled, hst, Bool.or_eq_true, decide_eq_true_eq]
      refine Or.inr ?_
      revert hlate
      cases r.status <;> decide
    · cases next with
      | none => exact .ok _
      | some n =>
        refine .bind (.raiseIf fun hn => ?_) fun _ _ => .ok _
        exact absurd (hst ▸ hmove n rfl) hn

/-! ### No transaction answers for the API -/

theorem raises_activeCleanupLease {reading : PyFloat} : Raises (·.isHttp = false) (s.activeCleanupLease sid reading) := by
  unfold activeCleanupLease
  split
  · exact .ok _
  · exact .bind (.requireTimestamp rfl) fun _ _ => .ok _

theorem raises_rejectActiveCleanupLease {reading : PyFloat} :
    Raises (·.isHttp = false) (s.rejectActiveCleanupLease sid reading) :=
  .bind raises_activeCleanupLease fun _ _ => .raiseIf fun _ => rfl

theorem raises_takeLease {scope : LeaseScope} {now : Timestamp} :
    Raises (·.isHttp = false) (s.takeLease sid scope fresh now) :=
  .bind (raises_persist fun _ => rfl) fun _ _ => .ok _

theorem raises_requireSlot {user : String} {max : ℤ} : Raises (·.isHttp = false) (s.requireSlot sid user max) :=
  .raiseIf fun _ => rfl

theorem raises_checkReplay {r : Session} {key key' : String} {request : PrepareRequest} :
    Raises (·.isHttp = false) (checkReplay r key request key') :=
  .bind (.raiseIf fun _ => rfl) fun _ _ => .bind (.raiseIf fun _ => rfl) fun _ _ => .bind (.raiseIf fun _ => rfl)
    fun _ _ => .raiseIf fun _ => rfl

/-- A transaction on a record that must exist. -/
theorem raises_edit_session {α : Type} {f : Session → Except Exc (α × Option Session)}
    (hf : ∀ r, Raises (·.isHttp = false) (f r)) :
    Raises (·.isHttp = false) (s.edit sid fun existing => requireSession sid existing >>= f) :=
  raises_edit (fun _ => rfl) (.bind (raises_requireSession rfl) fun r _ => hf r)

/-- A transaction on a record that may be missing. -/
theorem raises_edit_option {α : Type} {f : Option Session → Except Exc (α × Option Session)}
    (hnone : Raises (·.isHttp = false) (f none)) (hsome : ∀ r, Raises (·.isHttp = false) (f (some r))) :
    Raises (·.isHttp = false) (s.edit sid f) := by
  refine raises_edit (fun _ => rfl) ?_
  cases s.session? sid with
  | none => exact hnone
  | some r => exact hsome r

end SessionStore
end IRLight
