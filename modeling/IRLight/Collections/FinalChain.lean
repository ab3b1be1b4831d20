import Mathlib.Data.List.Chain

/-! # The chain that a list ends with

Lists whose neighbours are related are chains. Every list ends with a longest chain, and one more item either prolongs
it or begins a new one. -/

variable {α : Type*} {R : α → α → Prop} {l chain chain' : List α} {a : α}

/-- The longest chain that the list ends with. -/
structure IsFinalChain (R : α → α → Prop) (l chain : List α) : Prop where
  suffix : chain <:+ l
  isChain : chain.IsChain R
  longest : ∀ other, other <:+ l → other.IsChain R → other <:+ chain

namespace IsFinalChain

theorem nil : IsFinalChain R [] [] := ⟨List.suffix_rfl, .nil, fun _ h _ => h⟩

theorem unique (h : IsFinalChain R l chain) (h' : IsFinalChain R l chain') : chain = chain' := by
  have hle := h'.longest chain h.suffix h.isChain
  have hge := h.longest chain' h'.suffix h'.isChain
  exact hle.eq_of_length (Nat.le_antisymm hle.length_le hge.length_le)

/-- The last item is in the chain. -/
theorem getLast?_eq (h : IsFinalChain R l chain) : chain.getLast? = l.getLast? := by
  rcases List.eq_nil_or_concat l with rfl | ⟨front, a, rfl⟩
  · rw [List.suffix_nil.mp h.suffix]
  · rw [List.concat_eq_append]
    obtain ⟨before, hbefore⟩ := h.longest [a] ⟨front, by rw [List.concat_eq_append]⟩ (.singleton a)
    rw [← hbefore, List.getLast?_append, List.getLast?_append]
    rfl

/-- A related item prolongs the chain. -/
theorem concat (h : IsFinalChain R l chain) (hrel : ∀ last ∈ l.getLast?, R last a) :
    IsFinalChain R (l ++ [a]) (chain ++ [a]) where
  suffix := List.suffix_append_self_iff.mpr h.suffix
  isChain := by
    refine List.isChain_append.mpr ⟨h.isChain, .singleton a, fun last hlast b hb => ?_⟩
    obtain rfl := Option.some.inj hb
    exact hrel last (h.getLast?_eq ▸ hlast)
  longest other hother hchain := by
    rcases List.suffix_concat_iff.mp hother with rfl | ⟨t, rfl, ht⟩
    · exact List.nil_suffix
    · exact List.suffix_append_self_iff.mpr (h.longest t ht (List.isChain_append.mp hchain).1)

/-- An item that is not related to the last one begins a new chain. -/
theorem concat_new (hrel : ∀ last ∈ l.getLast?, ¬R last a) : IsFinalChain R (l ++ [a]) [a] where
  suffix := List.suffix_append l [a]
  isChain := .singleton a
  longest other hother hchain := by
    rcases List.suffix_concat_iff.mp hother with rfl | ⟨t, rfl, ht⟩
    · exact List.nil_suffix
    rcases List.eq_nil_or_concat t with rfl | ⟨front, last, rfl⟩
    · exact List.suffix_rfl
    rw [List.concat_eq_append] at ht hchain
    have hlast : l.getLast? = some last := by
      obtain ⟨before, rfl⟩ := ht
      rw [← List.append_assoc, List.getLast?_append]
      rfl
    have hrelated := (List.isChain_append.mp hchain).2.2 last (by simp) a (by simp)
    exact absurd hrelated (hrel last hlast)

end IsFinalChain
