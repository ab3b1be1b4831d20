import Mathlib.Data.Nat.Notation
import Mathlib.Tactic.Basic

/-! # A file that is published by replacement

A store keeps its state in one file. It writes a new version to a temporary file and renames that over the old one,
so a reader sees the one or the other. A marker beside the file tells that a version was about to be published: it is made
durable before the rename, so that a file that is missing later on is never taken for one that was never written.

What a rename or a new entry has done is durable once the directory is synced. Until then a loss of power may undo it. -/

namespace Persistence

/-- The file and its marker as processes see them, and what a loss of power may show instead. -/
structure Disk (α : Type) where
  file : Option α
  marker : Bool
  /-- Earlier contents, which the directory may still hold. -/
  unsynced : List (Option α)
  /-- The marker is durable if it is there, and its absence if it is not. -/
  markerDurable : Bool

/-- Where a write ends if it fails, or if its process dies. -/
inductive WriteFault where
  | unprepared
  | unmarked (created : Bool)
  | unreplaced
  | unsynced
  deriving DecidableEq

namespace Disk
variable {α : Type}

def initial : Disk α := ⟨none, false, [], true⟩

/-- The marker is created, and it and the directory are synced. -/
def mark (d : Disk α) : Disk α := ⟨d.file, true, [], true⟩

/-- The marker is created, but not synced. -/
def touchMarker (d : Disk α) : Disk α := ⟨d.file, true, d.unsynced, d.marker && d.markerDurable⟩

/-- The rename. -/
def replace (d : Disk α) (a : α) : Disk α := ⟨some a, d.marker, d.file :: d.unsynced, d.markerDurable⟩

/-- The directory is synced. -/
def sync (d : Disk α) : Disk α := ⟨d.file, d.marker, [], true⟩

/-- A marking that may fail. -/
def markUntil (d : Disk α) : Option Bool → Disk α
  | none => d.mark
  | some created => if created then d.touchMarker else d

/-- A write of a new version, up to the fault. -/
def write (d : Disk α) (a : α) : Option WriteFault → Disk α
  | some .unprepared => d
  | some (.unmarked created) => d.markUntil (some created)
  | some .unreplaced => d.mark
  | some .unsynced => d.mark.replace a
  | none => (d.mark.replace a).sync

/-- A loss of power: the file goes back to one of the contents that it may have, and so does the marker. -/
def loss (d : Disk α) (back : ℕ) (marker : Bool) : Disk α :=
  ⟨((d.file :: d.unsynced)[back]?).getD d.file, if d.markerDurable then d.marker else marker, [], true⟩

/-- Somebody else takes the file away, or damages its contents. -/
def disturb (d : Disk α) (x : Option α) : Disk α :=
  if d.file.isSome then ⟨x, d.marker, d.file :: d.unsynced, d.markerDurable⟩ else d

/-! ### What the file may show -/

/-- What the file shows, and all that it may show after a loss of power, satisfies `P`. -/
def Shows (d : Disk α) (P : Option α → Prop) : Prop := ∀ x ∈ d.file :: d.unsynced, P x

/-- A loss of power undoes nothing. -/
def Settled (d : Disk α) : Prop := d.unsynced = []

/-- The marker is there to stay. -/
def Armed (d : Disk α) : Prop := d.marker = true ∧ d.markerDurable = true

/-- Nothing was ever published before the marker was there to stay. -/
def Guarded (d : Disk α) : Prop := d.Armed ∨ d.Shows (· = none)

instance (d : Disk α) : Decidable d.Settled := inferInstanceAs (Decidable (d.unsynced = []))

variable {d : Disk α} {a : α} {x : Option α} {P Q : Option α → Prop}

theorem file_markUntil (d : Disk α) (fault : Option Bool) : (d.markUntil fault).file = d.file := by
  rcases fault with _ | _ | _ <;> rfl

/-- A write that succeeds leaves the new version, and nothing that a loss of power could undo. -/
theorem write_none (d : Disk α) (a : α) : d.write a none = ⟨some a, true, [], true⟩ := rfl

/-- After a write the file has its old contents or the new ones. -/
theorem file_write (d : Disk α) (a : α) (fault : Option WriteFault) :
    (d.write a fault).file = d.file ∨ (d.write a fault).file = some a := by
  rcases fault with _ | _ | ⟨_ | _⟩ | _ | _
  · exact .inr rfl
  · exact .inl rfl
  · exact .inl rfl
  · exact .inl rfl
  · exact .inl rfl
  · exact .inr rfl

/-- The new version has replaced the file, whether or not that was synced. -/
def published : Option WriteFault → Bool
  | none | some .unsynced => true
  | _ => false

theorem file_write_eq (d : Disk α) (a : α) (fault : Option WriteFault) :
    (d.write a fault).file = if published fault then some a else d.file := by
  rcases fault with _ | _ | ⟨_ | _⟩ | _ | _ <;> rfl

theorem marker_markUntil (h : d.marker = true) (fault : Option Bool) : (d.markUntil fault).marker = true := by
  rcases fault with _ | _ | _
  · rfl
  · exact h
  · rfl

theorem marker_write (h : d.marker = true) (a : α) (fault : Option WriteFault) : (d.write a fault).marker = true := by
  rcases fault with _ | _ | created | _ | _
  · rfl
  · exact h
  · exact marker_markUntil h (some created)
  · rfl
  · rfl

/-- What a call sees of a disk: not what a loss of power may show instead. -/
structure Alike (d e : Disk α) : Prop where
  file : d.file = e.file
  marker : d.marker = e.marker

theorem Alike.markUntil {e : Disk α} (h : d.Alike e) (fault : Option Bool) : (d.markUntil fault).Alike (e.markUntil fault) := by
  rcases fault with _ | _ | _
  · exact ⟨h.file, rfl⟩
  · exact h
  · exact ⟨h.file, rfl⟩

theorem Alike.write {e : Disk α} (h : d.Alike e) (a : α) (fault : Option WriteFault) : (d.write a fault).Alike (e.write a fault) := by
  rcases fault with _ | _ | created | _ | _
  · exact ⟨rfl, rfl⟩
  · exact h
  · exact h.markUntil (some created)
  · exact ⟨h.file, rfl⟩
  · exact ⟨rfl, rfl⟩

theorem Alike.disturb {e : Disk α} (h : d.Alike e) (x : Option α) : (d.disturb x).Alike (e.disturb x) := by
  unfold Disk.disturb
  rw [h.file]
  split
  · exact ⟨rfl, h.marker⟩
  · exact h

/-! ### Rules for what the file may show -/

namespace Shows

theorem mono (h : d.Shows P) (hPQ : ∀ x, P x → Q x) : d.Shows Q := fun x hx => hPQ x (h x hx)

theorem file (h : d.Shows P) : P d.file := h _ List.mem_cons_self

theorem initial (h : P none) : (Disk.initial : Disk α).Shows P := by
  intro x hx
  rw [Disk.initial, List.mem_singleton] at hx
  exact hx ▸ h

/-- A settled file may only show its contents. -/
theorem of_settled (hsettled : d.Settled) (h : P d.file) : d.Shows P := by
  intro x hx
  rw [hsettled, List.mem_singleton] at hx
  exact hx ▸ h

theorem markUntil (h : d.Shows P) (fault : Option Bool) : (d.markUntil fault).Shows P := by
  rcases fault with _ | _ | _
  · exact of_settled rfl h.file
  · exact h
  · exact h

theorem write (h : d.Shows P) (ha : P (some a)) (fault : Option WriteFault) : (d.write a fault).Shows P := by
  rcases fault with _ | _ | created | _ | _
  · exact of_settled rfl ha
  · exact h
  · exact h.markUntil (some created)
  · exact of_settled rfl h.file
  · intro x hx
    rcases List.mem_cons.mp hx with rfl | hx
    · exact ha
    · obtain rfl := List.mem_singleton.mp hx
      exact h.file

theorem loss (h : d.Shows P) (back : ℕ) (marker : Bool) : (d.loss back marker).Shows P := by
  refine of_settled rfl ?_
  rw [Disk.loss]
  cases hback : (d.file :: d.unsynced)[back]? with
  | none => exact h.file
  | some x => exact h x (List.mem_of_getElem? hback)

theorem disturb (h : d.Shows P) (hx : P x) : (d.disturb x).Shows P := by
  rw [Disk.disturb]
  split
  · intro y hy
    rcases List.mem_cons.mp hy with rfl | hy
    · exact hx
    · exact h y hy
  · exact h

end Shows

/-! ### The marker -/

namespace Armed

theorem markUntil (h : d.Armed) (fault : Option Bool) : (d.markUntil fault).Armed := by
  rcases fault with _ | _ | _
  · exact ⟨rfl, rfl⟩
  · exact h
  · exact ⟨rfl, by rw [Disk.markUntil, if_pos rfl, touchMarker, h.1, h.2, Bool.and_self]⟩

theorem write (h : d.Armed) (a : α) (fault : Option WriteFault) : (d.write a fault).Armed := by
  rcases fault with _ | _ | created | _ | _
  · exact ⟨rfl, rfl⟩
  · exact h
  · exact h.markUntil (some created)
  · exact ⟨rfl, rfl⟩
  · exact ⟨rfl, rfl⟩

theorem loss (h : d.Armed) (back : ℕ) (marker : Bool) : (d.loss back marker).Armed := by
  refine ⟨?_, rfl⟩
  rw [Disk.loss, if_pos h.2]
  exact h.1

theorem disturb (h : d.Armed) (x : Option α) : (d.disturb x).Armed := by
  rw [Disk.disturb]
  split
  · exact h
  · exact h

end Armed

namespace Guarded

theorem initial : (Disk.initial : Disk α).Guarded := .inr (Shows.initial rfl)

/-- Where the file shows something, the marker is there to stay. -/
theorem armed (h : d.Guarded) (hfile : d.file.isSome) : d.Armed := by
  rcases h with h | h
  · exact h
  · rw [h.file] at hfile
    cases hfile

theorem markUntil (h : d.Guarded) (fault : Option Bool) : (d.markUntil fault).Guarded := by
  rcases h with h | h
  · exact .inl (h.markUntil fault)
  · exact .inr (h.markUntil fault)

/-- A write makes the marker durable before it publishes anything. -/
theorem write (h : d.Guarded) (a : α) (fault : Option WriteFault) : (d.write a fault).Guarded := by
  rcases fault with _ | _ | created | _ | _
  · exact .inl ⟨rfl, rfl⟩
  · exact h
  · exact h.markUntil (some created)
  · exact .inl ⟨rfl, rfl⟩
  · exact .inl ⟨rfl, rfl⟩

theorem loss (h : d.Guarded) (back : ℕ) (marker : Bool) : (d.loss back marker).Guarded := by
  rcases h with h | h
  · exact .inl (h.loss back marker)
  · exact .inr (h.loss back marker)

theorem disturb (h : d.Guarded) (x : Option α) : (d.disturb x).Guarded := by
  rcases h with h | h
  · exact .inl (h.disturb x)
  · refine .inr ?_
    rw [Disk.disturb]
    split
    · rename_i hfile
      rw [h.file] at hfile
      cases hfile
    · exact h

end Guarded
end Disk

/-! ### Methods of a store -/

/-- What a method does after it has read the file: it answers, it sets the marker first, or it writes a new version first. -/
inductive Decision (α β : Type) where
  | answer (b : β)
  | mark (b : β)
  | write (a : α) (b : β)

/-- Where a method ends if it fails, or if its process dies. -/
inductive Fault where
  | unlocked
  | unread
  | writing (fault : WriteFault)
  deriving DecidableEq

/-- The fault in the marking of a file. -/
def WriteFault.marking : WriteFault → Option Bool
  | .unprepared => some false
  | .unmarked created => some created
  | .unreplaced | .unsynced => none

/-- What a method does after its decision. -/
def Disk.conclude {α β ε : Type} (d : Disk α) (failed : ε) (fault : Option WriteFault) :
    Decision α β → Except ε β × Disk α
  | .answer b => (.ok b, d)
  | .mark b =>
    match fault.bind WriteFault.marking with
    | none => (.ok b, d.mark)
    | some created => (.error failed, d.markUntil (some created))
  | .write a b =>
    match fault with
    | none => (.ok b, d.write a none)
    | some fault => (.error failed, d.write a (some fault))

/-- A method under the lock of the store, which decides on the file and the marker. -/
def Disk.perform {α β ε : Type} (d : Disk α) (fault : Option Fault) (unlocked unread : ε)
    (method : Option α → Bool → Except ε (Decision α β)) : Except ε β × Disk α :=
  let conclude (fault : Option WriteFault) :=
    match method d.file d.marker with
    | .error e => (.error e, d)
    | .ok decision => d.conclude unlocked fault decision
  match fault with
  | some .unlocked => (.error unlocked, d)
  | some .unread => (.error unread, d)
  | some (.writing fault) => conclude (some fault)
  | none => conclude none

namespace Disk
variable {α β ε : Type} {d : Disk α} {unlocked unread : ε} {b : β} {method : Option α → Bool → Except ε (Decision α β)}

/-- A method fails before it has decided, or it concludes. -/
theorem perform_cases (d : Disk α) (fault : Option Fault) (unlocked unread : ε)
    (method : Option α → Bool → Except ε (Decision α β)) :
    (∃ e, d.perform fault unlocked unread method = (.error e, d)) ∨
    ∃ decision writing, method d.file d.marker = .ok decision ∧
      d.perform fault unlocked unread method = d.conclude unlocked writing decision := by
  unfold perform
  cases hmethod : method d.file d.marker with
  | error e =>
    left
    rcases fault with _ | _ | _ | fault
    · exact ⟨e, rfl⟩
    · exact ⟨unlocked, rfl⟩
    · exact ⟨unread, rfl⟩
    · exact ⟨e, rfl⟩
  | ok decision =>
    rcases fault with _ | _ | _ | fault
    · exact .inr ⟨decision, none, rfl, rfl⟩
    · exact .inl ⟨unlocked, rfl⟩
    · exact .inl ⟨unread, rfl⟩
    · exact .inr ⟨decision, some fault, rfl, rfl⟩

theorem Alike.conclude {e : Disk α} (h : d.Alike e) (failed : ε) (fault : Option WriteFault) (decision : Decision α β) :
    (d.conclude failed fault decision).1 = (e.conclude failed fault decision).1 ∧
      (d.conclude failed fault decision).2.Alike (e.conclude failed fault decision).2 := by
  cases decision with
  | answer b => exact ⟨rfl, h⟩
  | mark b =>
    unfold Disk.conclude
    cases fault.bind WriteFault.marking with
    | none => exact ⟨rfl, h.markUntil none⟩
    | some created => exact ⟨rfl, h.markUntil (some created)⟩
  | write a b =>
    cases fault with
    | none => exact ⟨rfl, h.write a none⟩
    | some fault => exact ⟨rfl, h.write a (some fault)⟩

/-- A call answers the same from disks that are alike, and leaves them alike. -/
theorem Alike.perform {e : Disk α} (h : d.Alike e) (fault : Option Fault) (unlocked unread : ε)
    (method : Option α → Bool → Except ε (Decision α β)) :
    (d.perform fault unlocked unread method).1 = (e.perform fault unlocked unread method).1 ∧
      (d.perform fault unlocked unread method).2.Alike (e.perform fault unlocked unread method).2 := by
  unfold Disk.perform
  rw [h.file, h.marker]
  cases method e.file e.marker with
  | error x => rcases fault with _ | _ | _ | fault <;> exact ⟨rfl, h⟩
  | ok decision =>
    rcases fault with _ | _ | _ | fault
    · exact h.conclude unlocked none decision
    · exact ⟨rfl, h⟩
    · exact ⟨rfl, h⟩
    · exact h.conclude unlocked (some fault) decision

/-- What a method does to the disk. -/
inductive Effect (d : Disk α) (decided : Except ε (Decision α β)) : Disk α → Prop
  | nothing : Effect d decided d
  | marked {b : β} (decides : decided = .ok (.mark b)) (fault : Option Bool) : Effect d decided (d.markUntil fault)
  | written {a : α} {b : β} (decides : decided = .ok (.write a b)) (fault : Option WriteFault) :
      Effect d decided (d.write a fault)

theorem perform_effect (d : Disk α) (fault : Option Fault) (unlocked unread : ε)
    (method : Option α → Bool → Except ε (Decision α β)) :
    Effect d (method d.file d.marker) (d.perform fault unlocked unread method).2 := by
  rcases perform_cases d fault unlocked unread method with ⟨e, h⟩ | ⟨decision, writing, hdecided, h⟩
  · rw [h]
    exact .nothing
  · rw [h]
    cases decision with
    | answer b => exact .nothing
    | mark b =>
      unfold conclude
      cases writing.bind WriteFault.marking with
      | none => exact .marked hdecided none
      | some created => exact .marked hdecided (some created)
    | write a b =>
      cases writing with
      | none => exact .written hdecided none
      | some fault => exact .written hdecided (some fault)

/-- What a method that answers has decided, and done. -/
inductive Answers (d : Disk α) (decided : Except ε (Decision α β)) (b : β) : Disk α → Prop
  | answer (decides : decided = .ok (.answer b)) : Answers d decided b d
  | mark (decides : decided = .ok (.mark b)) : Answers d decided b d.mark
  | write {a : α} (decides : decided = .ok (.write a b)) : Answers d decided b (d.write a none)

theorem perform_ok {fault : Option Fault} (hok : (d.perform fault unlocked unread method).1 = .ok b) :
    Answers d (method d.file d.marker) b (d.perform fault unlocked unread method).2 := by
  rcases perform_cases d fault unlocked unread method with ⟨e, h⟩ | ⟨decision, writing, hdecided, h⟩
  · rw [h] at hok
    cases hok
  · rw [h] at hok ⊢
    cases decision with
    | answer b' =>
      obtain rfl := Except.ok.inj hok
      exact .answer hdecided
    | mark b' =>
      unfold conclude at hok ⊢
      cases hmarking : writing.bind WriteFault.marking with
      | none =>
        rw [hmarking] at hok
        obtain rfl := Except.ok.inj hok
        exact .mark hdecided
      | some created =>
        rw [hmarking] at hok
        cases hok
    | write a b' =>
      cases writing with
      | none =>
        obtain rfl := Except.ok.inj hok
        exact .write hdecided
      | some fault => cases hok

namespace Effect
variable {d' : Disk α} {decided : Except ε (Decision α β)} {P : Option α → Prop}

theorem guarded (h : Effect d decided d') (hd : d.Guarded) : d'.Guarded := by
  cases h with
  | nothing => exact hd
  | marked _ fault => exact hd.markUntil fault
  | written _ fault => exact hd.write _ fault

theorem armed (h : Effect d decided d') (hd : d.Armed) : d'.Armed := by
  cases h with
  | nothing => exact hd
  | marked _ fault => exact hd.markUntil fault
  | written _ fault => exact hd.write _ fault

/-- What the file may show, if what is written keeps to it. -/
theorem shows (h : Effect d decided d') (hd : d.Shows P) (hwritten : ∀ a b, decided = .ok (.write a b) → P (some a)) :
    d'.Shows P := by
  cases h with
  | nothing => exact hd
  | marked _ fault => exact hd.markUntil fault
  | written hdecided fault => exact hd.write (hwritten _ _ hdecided) fault

/-- What the file shows is what it showed, or what was written. -/
theorem file (h : Effect d decided d') : d'.file = d.file ∨ ∃ a b, decided = .ok (.write a b) ∧ d'.file = some a := by
  cases h with
  | nothing => exact .inl rfl
  | marked _ fault => exact .inl (file_markUntil d fault)
  | written hdecided fault => exact (file_write d _ fault).imp_right fun hfile => ⟨_, _, hdecided, hfile⟩

end Effect
end Disk
end Persistence
