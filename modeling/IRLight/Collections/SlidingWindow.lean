import Mathlib.Data.List.Infix

/-! # Searching a stream piece by piece

A word that is not in what was read so far, but in it with the next piece, ends in that piece. So the last items that were
read are all that the search has to keep of them. -/

namespace SlidingWindow

variable {α : Type*} {k : ℕ} {before piece word : List α}

/-- The last `k` items. -/
def lastOf (k : ℕ) (l : List α) : List α := l.drop (l.length - k)

/-- The last items with the next piece are the last items of all. -/
theorem lastOf_append : lastOf k (lastOf k before ++ piece) = lastOf k (before ++ piece) := by
  unfold lastOf
  rw [← List.drop_append_of_le_length (Nat.sub_le before.length k), List.drop_drop]
  congr 1
  rw [List.length_drop, List.length_append]
  omega

theorem lastOf_append_suffix : lastOf k before ++ piece <:+ before ++ piece := by
  unfold lastOf
  rw [← List.drop_append_of_le_length (Nat.sub_le before.length k)]
  exact List.drop_suffix _ _

/-- A new occurrence of a word of at most `k + 1` items lies in the last `k` items and the next piece. -/
theorem infix_window (hlength : word.length ≤ k + 1) (hbefore : ¬word <:+: before) :
    word <:+: lastOf k before ++ piece ↔ word <:+: before ++ piece := by
  constructor
  · exact fun h => h.trans lastOf_append_suffix.isInfix
  · rintro ⟨start, rest, h⟩
    have hends : before.length < (start ++ word).length := by
      by_contra hle
      have hfront : start ++ word <+: before :=
        List.prefix_of_prefix_length_le ⟨rest, h⟩ (List.prefix_append before piece) (not_lt.mp hle)
      exact hbefore ((List.suffix_append start word).isInfix.trans hfront.isInfix)
    rw [List.length_append] at hends
    have hstart : before.length - k ≤ start.length := by omega
    refine ⟨start.drop (before.length - k), rest, ?_⟩
    unfold lastOf
    rw [← List.drop_append_of_le_length (Nat.sub_le before.length k), ← h, List.append_assoc, List.append_assoc,
      List.drop_append_of_le_length hstart]

end SlidingWindow
