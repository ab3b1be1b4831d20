import IRLight.ControlPlane.AuthStore

/-! # Transactions on the files of users and sessions

What a function on one of the two files reads, what it may do to the file, and what it has done when it answers. -/

namespace IRLight.AuthStore
open Persistence

namespace Authority
variable {α β : Type} {authority : Authority α} {d : Disk (Option α)} {file : Option (Option α)} {initialized : Bool}
  {value value' : α} {f : α → Except AuthError (β × Option α)} {fault : Option Fault} {b : β} {P : Option (Option α) → Prop}

/-- What the file shows, if it is there and valid. -/
def shown (authority : Authority α) (file : Option (Option α)) : Option α := (authority.read file true).toOption

theorem shown_some : authority.shown (some (some value)) = some value' ↔ authority.validate value = .ok () ∧ value' = value := by
  have hread : authority.shown (some (some value)) = ((authority.validate value).map fun () => value).toOption := rfl
  rw [hread]
  cases authority.validate value with
  | error e =>
    constructor
    · intro h
      cases h
    · rintro ⟨h, -⟩
      cases h
  | ok u =>
    constructor
    · intro h
      exact ⟨rfl, (Option.some.inj h).symm⟩
    · rintro ⟨-, rfl⟩
      rfl

/-- What a function reads is what the file shows, or a file that was never there. -/
theorem read_ok (h : authority.read file initialized = .ok value) :
    authority.shown file = some value ∨ file = none ∧ initialized = false ∧ value = authority.initial := by
  rcases file with _ | _ | contents
  · cases initialized with
    | true => cases h
    | false => exact .inr ⟨rfl, rfl, (Except.ok.inj h).symm⟩
  · cases h
  · left
    unfold shown
    change (authority.read (some (some contents)) initialized).toOption = some value
    rw [h]
    rfl

theorem read_of_shown (h : authority.shown file = some value) : authority.read file initialized = .ok value := by
  rcases file with _ | _ | contents
  · cases h
  · cases h
  · obtain ⟨hvalid, rfl⟩ := shown_some.mp h
    change (authority.validate value).map (fun () => value) = _
    rw [hvalid]
    rfl

/-- What a transaction decides. -/
theorem transact_ok {decision : Decision (Option α) β} (h : authority.transact f file initialized = .ok decision) :
    ∃ value, authority.read file initialized = .ok value ∧
      (∃ b, f value = .ok (b, none) ∧ decision = .answer b ∨
        ∃ value', f value = .ok (b, some value') ∧ decision = .write (some value') b) := by
  obtain ⟨value, hread, h⟩ := bind_eq_ok.mp h
  obtain ⟨⟨b, written⟩, hf, h⟩ := bind_eq_ok.mp h
  refine ⟨value, hread, b, ?_⟩
  cases written with
  | none => exact .inl ⟨hf, (Except.ok.inj h).symm⟩
  | some value' => exact .inr ⟨value', hf, (Except.ok.inj h).symm⟩

/-- What a transaction does to the disk. -/
inductive Effect (authority : Authority α) (d : Disk (Option α)) (f : α → Except AuthError (β × Option α)) :
    Disk (Option α) → Prop
  | nothing : Effect authority d f d
  | written {value value' : α} {b : β} (reads : authority.read d.file d.marker = .ok value)
      (decides : f value = .ok (b, some value')) (fault : Option WriteFault) :
      Effect authority d f (d.write (some value') fault)

theorem transact_effect (authority : Authority α) (d : Disk (Option α)) (fault : Option Fault)
    (f : α → Except AuthError (β × Option α)) : Effect authority d f (authority.perform d fault (authority.transact f)).2 := by
  have heffect := Disk.perform_effect d fault unlocked authority.unread (authority.transact f)
  unfold perform
  generalize (d.perform fault unlocked authority.unread (authority.transact f)).2 = d' at heffect ⊢
  cases heffect with
  | nothing => exact .nothing
  | marked decides _ =>
    obtain ⟨value, _, b, ⟨_, h⟩ | ⟨_, _, h⟩⟩ := transact_ok decides
    · cases h
    · cases h
  | written decides writing =>
    obtain ⟨value, hread, b, ⟨_, h⟩ | ⟨value', hf, h⟩⟩ := transact_ok decides
    · cases h
    · cases h
      exact .written hread hf writing

/-- What a transaction that answers has done. -/
inductive Answers (authority : Authority α) (d : Disk (Option α)) (f : α → Except AuthError (β × Option α)) (b : β) :
    Disk (Option α) → Prop
  | same {value : α} (reads : authority.read d.file d.marker = .ok value) (decides : f value = .ok (b, none)) :
      Answers authority d f b d
  | written {value value' : α} (reads : authority.read d.file d.marker = .ok value)
      (decides : f value = .ok (b, some value')) : Answers authority d f b (d.write (some value') none)

theorem transact_answers (h : (authority.perform d fault (authority.transact f)).1 = .ok b) :
    Answers authority d f b (authority.perform d fault (authority.transact f)).2 := by
  have hanswers := Disk.perform_ok h
  unfold perform
  generalize (d.perform fault unlocked authority.unread (authority.transact f)).2 = d' at hanswers ⊢
  cases hanswers with
  | answer decides =>
    obtain ⟨value, hread, b', ⟨hf, h⟩ | ⟨_, _, h⟩⟩ := transact_ok decides
    · cases h
      exact .same hread hf
    · cases h
  | mark decides =>
    obtain ⟨value, _, b', ⟨_, h⟩ | ⟨_, _, h⟩⟩ := transact_ok decides
    · cases h
    · cases h
  | write decides =>
    obtain ⟨value, hread, b', ⟨_, h⟩ | ⟨value', hf, h⟩⟩ := transact_ok decides
    · cases h
    · cases h
      exact .written hread hf

/-- A transaction without a fault gives what its function gives on the value that it reads. -/
theorem transact_none (hread : authority.read d.file d.marker = .ok value) :
    (authority.perform d none (authority.transact f)).1 = (f value).map Prod.fst := by
  unfold perform Disk.perform
  cases hf : f value with
  | error e =>
    have hdecided : authority.transact f d.file d.marker = .error e := by
      unfold transact
      rw [hread]
      change (f value).bind _ = _
      rw [hf]
      rfl
    rw [hdecided]
    rfl
  | ok result =>
    obtain ⟨b, _ | value'⟩ := result
    · have hdecided : authority.transact f d.file d.marker = .ok (.answer b) := by
        unfold transact
        rw [hread]
        change (f value).bind _ = _
        rw [hf]
        rfl
      rw [hdecided]
      rfl
    · have hdecided : authority.transact f d.file d.marker = .ok (.write (some value') b) := by
        unfold transact
        rw [hread]
        change (f value).bind _ = _
        rw [hf]
        rfl
      rw [hdecided]
      rfl

theorem shown_file (h : authority.shown file = some value) : file = some (some value) := by
  rcases file with _ | _ | contents
  · cases h
  · cases h
  · rw [(shown_some.mp h).2]

/-- The value has replaced the file. -/
def publishes : Option Fault → Bool
  | none => true
  | some (.writing fault) => Disk.published (some fault)
  | _ => false

/-- The contents of a file after a transaction. -/
theorem transact_file {written : Option α} (hshown : authority.shown d.file = some value) (hf : f value = .ok (b, written))
    (fault : Option Fault) : (authority.perform d fault (authority.transact f)).2.file =
      some (some (if publishes fault then written.getD value else value)) := by
  have hfile : d.file = some (some value) := shown_file hshown
  have hread : authority.read d.file d.marker = .ok value := read_of_shown hshown
  unfold perform Disk.perform
  cases written with
  | none =>
    have hdecided : authority.transact f d.file d.marker = .ok (.answer b) := by
      unfold transact
      rw [hread]
      change (f value).bind _ = _
      rw [hf]
      rfl
    rw [hdecided]
    have hsame : (if publishes fault then (none : Option α).getD value else value) = value := by
      split <;> rfl
    rw [hsame]
    rcases fault with _ | _ | _ | fault <;> exact hfile
  | some value' =>
    have hdecided : authority.transact f d.file d.marker = .ok (.write (some value') b) := by
      unfold transact
      rw [hread]
      change (f value).bind _ = _
      rw [hf]
      rfl
    rw [hdecided]
    rcases fault with _ | _ | _ | fault
    · rfl
    · exact hfile
    · exact hfile
    · change (d.write (some value') (some fault)).file = _
      rw [Disk.file_write_eq, hfile]
      change _ = some (some (if Disk.published (some fault) then value' else value))
      split
      · rfl
      · rfl

/-- What a transaction that does not write answers. -/
theorem transact_answer (hread : authority.read d.file d.marker = .ok value) (hf : f value = .ok (b, none)) (fault : Option Fault) :
    (authority.perform d fault (authority.transact f)).1 =
      match fault with
      | some .unlocked => .error unlocked
      | some .unread => .error authority.unread
      | _ => .ok b := by
  have hdecided : authority.transact f d.file d.marker = .ok (.answer b) := by
    unfold transact
    rw [hread]
    change (f value).bind _ = _
    rw [hf]
    rfl
  unfold perform Disk.perform
  rw [hdecided]
  rcases fault with _ | _ | _ | fault <;> rfl

namespace Effect
variable {d' : Disk (Option α)}

theorem guarded (h : Effect authority d f d') (hd : d.Guarded) : d'.Guarded := by
  cases h with
  | nothing => exact hd
  | written _ _ fault => exact hd.write _ fault

theorem marker (h : Effect authority d f d') (hd : d.marker = true) : d'.marker = true := by
  cases h with
  | nothing => exact hd
  | written _ _ fault => exact Disk.marker_write hd _ fault

theorem armed (h : Effect authority d f d') (hd : d.Armed) : d'.Armed := by
  cases h with
  | nothing => exact hd
  | written _ _ fault => exact hd.write _ fault

theorem shows (h : Effect authority d f d') (hd : d.Shows P) (hf : ∀ value b value',
    authority.read d.file d.marker = .ok value → f value = .ok (b, some value') → P (some (some value'))) : d'.Shows P := by
  cases h with
  | nothing => exact hd
  | written reads decides fault => exact hd.write (hf _ _ _ reads decides) fault

end Effect

/-- What `ensure` does to the disk. -/
inductive Ensures (authority : Authority α) (d : Disk (Option α)) : Disk (Option α) → Prop
  | marked (fault : Option Bool) : Ensures authority d (d.markUntil fault)
  | created (missing : d.file = none) (unmarked : d.marker = false) (fault : Option WriteFault) :
      Ensures authority d (d.write (some authority.initial) fault)

theorem ensure_ok {decision : Decision (Option α) Unit} (h : authority.ensure file initialized = .ok decision) :
    decision = .mark () ∨ decision = .write (some authority.initial) () ∧ file = none ∧ initialized = false := by
  cases file with
  | some contents =>
    obtain ⟨_, _, h⟩ := bind_eq_ok.mp h
    exact .inl (Except.ok.inj h).symm
  | none =>
    cases initialized with
    | true => cases h
    | false => exact .inr ⟨(Except.ok.inj h).symm, rfl, rfl⟩

theorem ensure_ensures (authority : Authority α) (d : Disk (Option α)) (fault : Option Fault) :
    Ensures authority d (authority.perform d fault authority.ensure).2 := by
  have heffect := Disk.perform_effect d fault unlocked authority.unread authority.ensure
  unfold perform
  generalize (d.perform fault unlocked authority.unread authority.ensure).2 = d' at heffect ⊢
  cases heffect with
  | nothing => exact .marked (some false)
  | marked _ fault => exact .marked fault
  | written decides writing =>
    rcases ensure_ok decides with h | ⟨h, hfile, hmarker⟩
    · cases h
    · cases h
      exact .created hfile hmarker writing

end Authority
end IRLight.AuthStore
