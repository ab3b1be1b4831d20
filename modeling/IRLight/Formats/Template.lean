import Mathlib.Data.List.Basic
import Mathlib.Data.List.Infix
import Mathlib.Data.List.TakeWhile

/-! # Texts with holes

A text in which every occurrence of a pattern is a hole. To replace the pattern is to fill the holes. -/

/-- A text, with `none` for each hole. -/
abbrev Template (α : Type) := List (Option α)

namespace Template
variable {α : Type}

/-- The text with the same value in every hole. -/
def fill (value : List α) : Template α → List α
  | [] => []
  | none :: t => value ++ fill value t
  | some a :: t => a :: fill value t

section
variable [DecidableEq α]

/-- The holes that `old` leaves in a text, from the left, once `skip` more places of an occurrence have passed. -/
def holesFrom (old : List α) : ℕ → List α → Template α
  | _, [] => []
  | skip + 1, _ :: text => holesFrom old skip text
  | 0, a :: text =>
    if old.isPrefixOf (a :: text) then none :: holesFrom old (old.length - 1) text
    else some a :: holesFrom old 0 text

def holes (old text : List α) : Template α := holesFrom old 0 text

/-- The text with `new` for every occurrence of `old`. -/
def replace (old new text : List α) : List α := fill new (holes old text)

end

/-! ### What is filled in -/

section
variable {value : List α} {s t : Template α} {a : α} {p : α → Bool}

theorem fill_append : fill value (s ++ t) = fill value s ++ fill value t := by
  induction s with
  | nil => rfl
  | cons o s ih =>
    cases o with
    | none => exact (congrArg (value ++ ·) ih).trans (List.append_assoc _ _ _).symm
    | some a => exact congrArg (a :: ·) ih

theorem fill_map_some (text : List α) : fill value (text.map some) = text := by
  induction text with
  | nil => rfl
  | cons a text ih => exact congrArg (a :: ·) ih

theorem mem_fill (h : a ∈ fill value t) : some a ∈ t ∨ a ∈ value := by
  induction t with
  | nil => cases h
  | cons o t ih =>
    cases o with
    | none =>
      rcases List.mem_append.mp h with h | h
      · exact .inr h
      · exact (ih h).imp_left (List.mem_cons_of_mem _)
    | some b =>
      rcases List.mem_cons.mp h with rfl | h
      · exact .inl List.mem_cons_self
      · exact (ih h).imp_left (List.mem_cons_of_mem _)

theorem mem_fill_of_mem (h : some a ∈ t) : a ∈ fill value t := by
  obtain ⟨front, back, rfl⟩ := List.append_of_mem h
  rw [fill_append]
  exact List.mem_append_right _ List.mem_cons_self

theorem eq_nil_of_fill (hvalue : value ≠ []) (h : fill value t = []) : t = [] := by
  cases t with
  | nil => rfl
  | cons o t =>
    cases o with
    | none => exact absurd (List.append_eq_nil_iff.mp h).1 hvalue
    | some a => cases h

/-- What is filled in is kept by a filter that keeps the value. -/
theorem filter_fill (h : ∀ a ∈ value, p a = true) : (fill value t).filter p = fill value (t.filter (Option.all p)) := by
  induction t with
  | nil => rfl
  | cons o t ih =>
    cases o with
    | none =>
      rw [fill, List.filter_append, List.filter_eq_self.mpr h, ih]
      rfl
    | some a =>
      rw [fill, List.filter_cons, List.filter_cons, ih]
      change _ = fill value (if p a = true then _ else _)
      split <;> rfl

theorem takeWhile_fill (h : ∀ a ∈ value, p a = true) :
    (fill value t).takeWhile p = fill value (t.takeWhile (Option.all p)) := by
  induction t with
  | nil => rfl
  | cons o t ih =>
    cases o with
    | none =>
      rw [fill, List.takeWhile_append_of_pos h, ih]
      rfl
    | some a =>
      rw [fill, List.takeWhile_cons, List.takeWhile_cons, ih]
      change _ = fill value (if p a = true then _ else _)
      split <;> rfl

theorem dropWhile_fill (h : ∀ a ∈ value, p a = true) :
    (fill value t).dropWhile p = fill value (t.dropWhile (Option.all p)) := by
  induction t with
  | nil => rfl
  | cons o t ih =>
    cases o with
    | none =>
      rw [fill, List.dropWhile_append_of_pos h, ih]
      rfl
    | some a =>
      rw [fill, List.dropWhile_cons, List.dropWhile_cons, ih]
      change _ = fill value (if p a = true then _ else _)
      split <;> rfl

/-- What the value does not hold was in the text. -/
theorem count_fill [DecidableEq α] : (fill value t).count a = t.count (some a) + t.count none * value.count a := by
  induction t with
  | nil => simp [fill]
  | cons o t ih =>
    cases o with
    | none =>
      rw [fill, List.count_append, ih, List.count_cons_of_ne (by simp), List.count_cons_self, Nat.add_mul]
      omega
    | some b =>
      rw [fill, List.count_cons, ih, List.count_cons, List.count_cons_of_ne (by simp)]
      by_cases hb : b = a
      · subst hb
        simp only [beq_self_eq_true, if_true]
        omega
      · simp [hb]

end

/-! ### Where the holes are -/

section
variable [DecidableEq α] {old new xs ys text : List α} {a : α}

theorem fill_holesFrom (hold : old ≠ []) (skip : ℕ) (text : List α) :
    fill old (holesFrom old skip text) = text.drop skip := by
  induction text generalizing skip with
  | nil => simp [holesFrom, fill]
  | cons a text ih =>
    cases skip with
    | succ skip => exact ih skip
    | zero =>
      unfold holesFrom
      split
      · rename_i h
        obtain ⟨rest, hrest⟩ := List.isPrefixOf_iff_prefix.mp h
        obtain ⟨b, old, rfl⟩ := List.exists_cons_of_ne_nil hold
        obtain ⟨rfl, rfl⟩ := List.cons.inj hrest
        rw [fill, ih]
        change _ :: (old ++ (old ++ rest).drop old.length) = _
        rw [List.drop_left]
        rfl
      · rw [fill, ih]
        rfl

/-- A text is what its holes held. -/
theorem fill_holes (hold : old ≠ []) (text : List α) : fill old (holes old text) = text := fill_holesFrom hold 0 text

theorem mem_of_mem_holes (hold : old ≠ []) (h : some a ∈ holes old text) : a ∈ text :=
  fill_holes hold text ▸ mem_fill_of_mem h

omit [DecidableEq α] in
/-- An occurrence does not reach something that `old` does not hold. -/
theorem prefix_append_iff (xs : List α) (hys : ∀ a ∈ ys.head?, a ∉ old) : old <+: xs ++ ys ↔ old <+: xs := by
  constructor
  · intro h
    rcases Nat.le_total old.length xs.length with hle | hle
    · exact List.prefix_of_prefix_length_le h (List.prefix_append xs ys) hle
    · obtain ⟨z, rfl⟩ := List.prefix_of_prefix_length_le (List.prefix_append xs ys) h hle
      cases z with
      | nil => rw [List.append_nil]
      | cons a z =>
        obtain ⟨rest, hrest⟩ := h
        rw [List.append_assoc, List.cons_append] at hrest
        have hhead := List.append_cancel_left hrest
        exact absurd (List.mem_append_right xs List.mem_cons_self) (hys a (hhead ▸ rfl))
  · exact fun h => h.trans (List.prefix_append xs ys)

theorem holesFrom_append (hys : ∀ a ∈ ys.head?, a ∉ old) {skip : ℕ} (hskip : skip ≤ xs.length) :
    holesFrom old skip (xs ++ ys) = holesFrom old skip xs ++ holes old ys := by
  induction xs generalizing skip with
  | nil =>
    obtain rfl := Nat.le_zero.mp hskip
    rfl
  | cons a xs ih =>
    cases skip with
    | succ skip => exact ih (Nat.le_of_succ_le_succ hskip)
    | zero =>
      have hlead : old <+: a :: (xs ++ ys) ↔ old <+: a :: xs := prefix_append_iff (a :: xs) hys
      rw [List.cons_append, holesFrom, holesFrom]
      by_cases h : old <+: a :: xs
      · have hlen := h.length_le
        rw [if_pos (List.isPrefixOf_iff_prefix.mpr (hlead.mpr h)), if_pos (List.isPrefixOf_iff_prefix.mpr h),
          ih (by simp only [List.length_cons] at hlen; omega)]
        rfl
      · rw [if_neg fun hp => h (hlead.mp (List.isPrefixOf_iff_prefix.mp hp)),
          if_neg fun hp => h (List.isPrefixOf_iff_prefix.mp hp), ih (Nat.zero_le _)]
        rfl

/-- The holes before and after something that `old` does not hold. -/
theorem holes_append (hys : ∀ a ∈ ys.head?, a ∉ old) : holes old (xs ++ ys) = holes old xs ++ holes old ys :=
  holesFrom_append hys (Nat.zero_le _)

/-- A text without `old` has no holes. -/
theorem holes_eq (h : ¬old <:+: text) : holes old text = text.map some := by
  induction text with
  | nil => rfl
  | cons a text ih =>
    have hlead : ¬old.isPrefixOf (a :: text) = true := fun hp => h (List.isPrefixOf_iff_prefix.mp hp).isInfix
    unfold holes holesFrom
    rw [if_neg hlead]
    exact congrArg (some a :: ·) (ih fun hi => h (hi.trans (List.suffix_cons a text).isInfix))

theorem none_mem_holes (hold : old ≠ []) (h : old <:+: text) : none ∈ holes old text := by
  induction text with
  | nil => exact absurd (List.infix_nil.mp h) hold
  | cons a text ih =>
    unfold holes holesFrom
    split
    · exact List.mem_cons_self
    · rename_i hlead
      rcases List.infix_cons_iff.mp h with h | h
      · exact absurd (List.isPrefixOf_iff_prefix.mpr h) hlead
      · exact List.mem_cons_of_mem _ (ih h)

/-- There are no holes in what `old` cannot begin. -/
theorem holes_append_left (xs : List α) (hxs : ∀ a ∈ old.head?, a ∉ xs) (hold : old ≠ []) :
    holes old (xs ++ ys) = xs.map some ++ holes old ys := by
  induction xs with
  | nil => rfl
  | cons a xs ih =>
    have hlead : ¬old.isPrefixOf (a :: (xs ++ ys)) = true := by
      intro hp
      obtain ⟨b, old, rfl⟩ := List.exists_cons_of_ne_nil hold
      obtain ⟨rest, hrest⟩ := List.isPrefixOf_iff_prefix.mp hp
      obtain ⟨rfl, -⟩ := List.cons.inj hrest
      exact hxs b rfl List.mem_cons_self
    have hrest := ih fun b hb hmem => hxs b hb (List.mem_cons_of_mem _ hmem)
    rw [List.cons_append, List.map_cons, List.cons_append, ← hrest, holes, holesFrom, if_neg hlead]
    rfl

end
end Template
