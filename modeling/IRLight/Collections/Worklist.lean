import Mathlib.Algebra.BigOperators.Group.List.Basic
import Mathlib.Algebra.GroupWithZero.Nat
import Mathlib.Algebra.Order.Monoid.Defs
import Mathlib.Data.List.Perm.Basic

/-! # Traversals with a work list

A traversal takes one pending node after another, in any order, and leaves the children of the node pending. It stops at a
node that is not allowed, and when the nodes together cost more than the budget. What it says depends on the nodes alone. -/

universe u

/-- A forest to traverse. The children of a node are smaller than it. -/
structure Walk (α : Type u) where
  next : α → List α
  size : α → ℕ
  size_lt : ∀ {a b}, b ∈ next a → size b < size a
  allowed : α → Prop
  cost : α → ℕ
  budget : ℕ

namespace Walk
variable {α : Type u}

/-- The node and everything below it. -/
def nodes (w : Walk α) (a : α) : List α := a :: (w.next a).attach.flatMap fun b => w.nodes b.1
termination_by w.size a
decreasing_by exact w.size_lt b.2

variable {w : Walk α} {a : α} {spent : ℕ} {pending pending' rest more : List α} {verdict : Bool}

theorem nodes_eq (a : α) : w.nodes a = a :: (w.next a).flatMap w.nodes := by
  rw [nodes, List.flatMap_subtype]
  · rw [List.unattach_attach]
  · intro b hb
    rfl

/-- The node may be visited when so much is spent. -/
def Admits (w : Walk α) (spent : ℕ) (a : α) : Prop := w.allowed a ∧ spent + w.cost a ≤ w.budget

/-- The traversal from the pending nodes may end with the verdict. -/
inductive Traverses (w : Walk α) : ℕ → List α → Bool → Prop
  | done {spent : ℕ} : Traverses w spent [] true
  | stop {spent : ℕ} {pending rest : List α} {a : α} (hpending : pending.Perm (a :: rest)) (h : ¬w.Admits spent a) :
      Traverses w spent pending false
  | visit {spent : ℕ} {pending rest more : List α} {a : α} {verdict : Bool} (hpending : pending.Perm (a :: rest))
      (h : w.Admits spent a) (hmore : more.Perm (w.next a ++ rest)) (hrest : Traverses w (spent + w.cost a) more verdict) :
      Traverses w spent pending verdict

/-- Everything below the pending nodes is allowed, and together with what is spent it costs no more than the budget. -/
def Affords (w : Walk α) (spent : ℕ) (pending : List α) : Prop :=
  (∀ a ∈ pending.flatMap w.nodes, w.allowed a) ∧ spent + ((pending.flatMap w.nodes).map w.cost).sum ≤ w.budget

theorem Affords.perm (h : w.Affords spent pending) (hperm : pending.Perm pending') : w.Affords spent pending' := by
  obtain ⟨hallowed, hcost⟩ := h
  have hnodes := hperm.flatMap_right w.nodes
  constructor
  · intro a ha
    exact hallowed a (hnodes.mem_iff.mpr ha)
  · rw [← (hnodes.map w.cost).sum_eq]
    exact hcost

theorem affords_perm (hperm : pending.Perm pending') : w.Affords spent pending ↔ w.Affords spent pending' :=
  ⟨fun h => h.perm hperm, fun h => h.perm hperm.symm⟩

/-- To visit a node is to admit it and to go on with its children. -/
theorem affords_cons : w.Affords spent (a :: rest) ↔ w.Admits spent a ∧ w.Affords (spent + w.cost a) (w.next a ++ rest) := by
  unfold Affords Admits
  rw [List.flatMap_cons, nodes_eq, List.flatMap_append, List.cons_append, List.map_cons, List.sum_cons, List.forall_mem_cons]
  constructor
  · rintro ⟨⟨ha, hallowed⟩, hcost⟩
    exact ⟨⟨ha, by omega⟩, hallowed, by omega⟩
  · rintro ⟨⟨ha, -⟩, hallowed, hcost⟩
    exact ⟨⟨ha, hallowed⟩, by omega⟩

/-- **The verdict depends on the nodes alone**, not on the order in which they are taken. -/
theorem Traverses.verdict_iff (h : w.Traverses spent pending verdict) (hspent : spent ≤ w.budget) :
    verdict = true ↔ w.Affords spent pending := by
  induction h with
  | done =>
    refine iff_of_true rfl ⟨fun a ha => ?_, hspent⟩
    cases ha
  | stop hpending h =>
    rw [affords_perm hpending, affords_cons]
    exact iff_of_false Bool.false_ne_true fun hfalse => h hfalse.1
  | visit hpending h hmore _ ih =>
    rw [ih h.2, affords_perm hmore, affords_perm hpending, affords_cons]
    exact ⟨fun hlater => ⟨h, hlater⟩, fun hall => hall.2⟩

end Walk
