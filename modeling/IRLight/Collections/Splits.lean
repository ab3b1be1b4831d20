import Mathlib.Data.List.DropRight
import Mathlib.Data.List.Induction

/-! # Lists and what comes before an item -/

namespace IRLight.Splits

variable {α : Type*} {l : List α} {x : α}

/-- What holds of every item after what comes before it, one item at the end at a time. -/
theorem forall_concat {φ : List α → α → Prop} :
    (∀ before a after, l ++ [x] = before ++ a :: after → φ before a) ↔
      (∀ before a after, l = before ++ a :: after → φ before a) ∧ φ l x := by
  constructor
  · intro h
    refine ⟨fun before a after hsplit => h before a (after ++ [x]) ?_, h l x [] rfl⟩
    rw [hsplit, List.append_assoc, List.cons_append]
  · rintro ⟨hbefore, hlast⟩ before a after hsplit
    rcases List.eq_nil_or_concat after with rfl | ⟨after, y, rfl⟩
    · obtain ⟨rfl, ha⟩ := List.append_inj' hsplit rfl
      obtain rfl := List.singleton_inj.mp ha
      exact hlast
    · rw [List.concat_eq_append, ← List.cons_append, ← List.append_assoc] at hsplit
      exact hbefore before a after (List.append_inj' hsplit rfl).1

/-- So many items at the end satisfy the predicate. -/
theorem le_length_rtakeWhile_iff {p : α → Bool} {n : ℕ} : n ≤ (l.rtakeWhile p).length ↔
    ∃ front last, l = front ++ last ∧ last.length = n ∧ ∀ a ∈ last, p a = true := by
  constructor
  · intro h
    refine ⟨l.rdropWhile p ++ (l.rtakeWhile p).take ((l.rtakeWhile p).length - n),
      (l.rtakeWhile p).drop ((l.rtakeWhile p).length - n), ?_, ?_, fun a ha => ?_⟩
    · rw [List.append_assoc, List.take_append_drop, List.rdropWhile_append_rtakeWhile]
    · rw [List.length_drop, Nat.sub_sub_self h]
    · exact List.mem_rtakeWhile_imp (List.mem_of_mem_drop ha)
  · rintro ⟨front, last, rfl, rfl, hlast⟩
    induction last using List.reverseRecOn with
    | nil => exact Nat.zero_le _
    | append_singleton last a ih =>
      rw [← List.append_assoc, List.rtakeWhile_concat_pos _ _ _ (hlast a (List.mem_append_right _ (List.mem_singleton_self a))),
        List.length_append, List.length_append]
      exact Nat.add_le_add_right (ih fun b hb => hlast b (List.mem_append_left _ hb)) _

end IRLight.Splits
