import IRLight.Session.Effects

/-! # Counting a user's slots

How many of a user's Sessions occupy a slot, and how committing one record changes that number. -/

namespace IRLight

/-! ### Counting the entries of a finite map -/

section
variable {α : Type} [DecidableEq α] {β : α → Type} {p : Sigma β → Bool} {a : α}

theorem countP_kerase (l : List (Sigma β)) :
    (l.kerase a).countP (fun e => e.1 ≠ a && p e) = l.countP fun e => e.1 ≠ a && p e := by
  induction l with
  | nil => rfl
  | cons e l ih =>
    by_cases he : a = e.1
    · rw [List.kerase_cons_eq he, List.countP_cons_of_neg (by simp [he])]
    · rw [List.kerase_cons_ne he, List.countP_cons, List.countP_cons, ih]

/-- The entry under one key counts apart from the others. -/
theorem countP_entries {l : List (Sigma β)} (hl : l.NodupKeys) :
    l.countP p = (l.countP fun e => e.1 ≠ a && p e) + ((l.dlookup a).any fun b => p ⟨a, b⟩).toNat := by
  induction l with
  | nil => rfl
  | cons e l ih =>
    obtain ⟨hnot, hl⟩ := List.nodupKeys_cons.mp hl
    by_cases he : a = e.1
    · subst he
      have hsame : (l.countP fun e' => e'.1 ≠ e.1 && p e') = l.countP p :=
        List.countP_congr fun e' he' => by
          have hne : e'.1 ≠ e.1 := fun h => hnot (h ▸ List.mem_keys_of_mem he')
          simp [hne]
      rw [List.countP_cons, List.countP_cons_of_neg (by simp), hsame, List.dlookup_cons_eq, Option.any_some]
      cases p ⟨e.1, e.2⟩ <;> rfl
    · have hne : e.1 ≠ a := fun h => he h.symm
      rw [List.countP_cons, List.countP_cons, ih hl, List.dlookup_cons_ne _ _ he]
      simp [hne]
      omega

end

namespace SessionStore
variable {s : SessionStore} {sid user : String} {r : Session}

/-- Whether the Session occupies a slot of the user. -/
def holdsSlot (s : SessionStore) (sid user : String) : Bool :=
  (s.session? sid).any fun r => r.userId = user && r.occupies

/-- How many of the user's Sessions occupy a slot. -/
def occupiedBy (s : SessionStore) (user : String) : ℕ :=
  s.sessions.entries.countP fun e => e.2.userId = user && e.2.occupies

theorem occupiedBy_eq (s : SessionStore) (sid user : String) :
    s.occupiedBy user = s.occupied sid user + (s.holdsSlot sid user).toNat := by
  rw [occupiedBy, countP_entries (a := sid) s.sessions.nodupKeys, occupied, ← List.countP_eq_length_filter]
  simp only [Bool.and_assoc]
  rfl

theorem occupied_put : (s.put sid r).occupied sid user = s.occupied sid user := by
  simp only [occupied, ← List.countP_eq_length_filter, put, AList.entries_insert, Bool.and_assoc]
  rw [List.countP_cons_of_neg (by simp)]
  exact countP_kerase s.sessions.entries

theorem holdsSlot_put : (s.put sid r).holdsSlot sid user = (r.userId = user && r.occupies) := by
  simp [holdsSlot]

/-- Committing a record changes the count by that record alone. -/
theorem occupiedBy_put :
    (s.put sid r).occupiedBy user = s.occupied sid user + (decide (r.userId = user) && r.occupies).toNat := by
  rw [occupiedBy_eq _ sid, occupied_put, holdsSlot_put]

end SessionStore
end IRLight
