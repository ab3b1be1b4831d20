import Mathlib.Data.List.Nodup
import Mathlib.Data.List.Sort

/-! # Dictionaries in insertion order

A dictionary that lists its items in the order in which their keys were first written. Assigning to a present
key keeps the key's place. What a reader of the dictionary sees is `get?`, and `get?_eq_some` says that it is
membership among the items. -/

@[ext] structure Dict (κ α : Type) where
  items : List (κ × α)
  nodup : (items.map Prod.fst).Nodup

namespace Dict
variable {κ α β : Type}

def empty : Dict κ α := ⟨[], .nil⟩

def keys (d : Dict κ α) : List κ := d.items.map Prod.fst

def size (d : Dict κ α) : ℕ := d.items.length

/-- The items that `p` keeps. -/
def filter (d : Dict κ α) (p : κ → α → Bool) : Dict κ α :=
  ⟨d.items.filter fun i => p i.1 i.2, d.nodup.sublist (List.filter_sublist.map _)⟩

/-- `f` applied to every value. -/
def mapVal (d : Dict κ α) (f : κ → α → β) : Dict κ β :=
  ⟨d.items.map fun i => (i.1, f i.1 i.2), by
    have hfst : Prod.fst ∘ (fun i : κ × α => (i.1, f i.1 i.2)) = Prod.fst := rfl
    rw [List.map_map, hfst]
    exact d.nodup⟩

/-- The same items in the order of `r`. -/
def sort (d : Dict κ α) (r : κ × α → κ × α → Prop) [DecidableRel r] : Dict κ α :=
  ⟨d.items.insertionSort r, ((List.perm_insertionSort r d.items).map _).nodup_iff.mpr d.nodup⟩

/-- All but the first `n` items. -/
def drop (d : Dict κ α) (n : ℕ) : Dict κ α :=
  ⟨d.items.drop n, d.nodup.sublist ((List.drop_sublist n _).map _)⟩

section
variable [DecidableEq κ]

def get? (d : Dict κ α) (k : κ) : Option α := (d.items.find? fun i => i.1 = k).map Prod.snd

/-- `d.pop(k, None)`. -/
def erase (d : Dict κ α) (k : κ) : Dict κ α := d.filter fun k' _ => k' ≠ k

/-- A new key goes to the end. -/
def append (d : Dict κ α) (k : κ) (v : α) : Dict κ α :=
  ⟨(d.erase k).items ++ [(k, v)], by
    rw [List.map_append]
    refine List.nodup_append.mpr ⟨(d.erase k).nodup, by simp, ?_⟩
    rintro a ha b hb rfl
    obtain ⟨i, hi, rfl⟩ := List.mem_map.mp ha
    obtain rfl := List.mem_singleton.mp hb
    simp [erase, filter] at hi⟩

/-- `d[k] = v`. -/
def set (d : Dict κ α) (k : κ) (v : α) : Dict κ α :=
  if (d.get? k).isSome then d.mapVal fun k' v' => if k' = k then v else v' else d.append k v

/-- `d.move_to_end(k)`. -/
def moveToEnd (d : Dict κ α) (k : κ) : Dict κ α :=
  match d.get? k with
  | some v => d.append k v
  | none => d

variable {d : Dict κ α} {k k' : κ} {v : α}

theorem get?_eq_some : d.get? k = some v ↔ (k, v) ∈ d.items := by
  unfold get?
  constructor
  · intro h
    obtain ⟨i, hi, rfl⟩ := Option.map_eq_some_iff.mp h
    have hk : i.1 = k := by simpa using List.find?_some hi
    subst hk
    exact List.mem_of_find?_eq_some hi
  · intro h
    obtain ⟨i, hi⟩ : ∃ i, d.items.find? (fun i => i.1 = k) = some i := by
      rw [← Option.isSome_iff_exists, List.find?_isSome]
      exact ⟨_, h, by simp⟩
    have hk : i.1 = k := by simpa using List.find?_some hi
    have heq : i = (k, v) := List.inj_on_of_nodup_map d.nodup (List.mem_of_find?_eq_some hi) h hk
    rw [hi, heq]
    rfl

/-- Dictionaries with the same items have the same values. -/
theorem get?_congr {e : Dict κ α} (h : ∀ i, i ∈ d.items ↔ i ∈ e.items) : d.get? k = e.get? k := by
  apply Option.ext
  intro v
  rw [get?_eq_some, get?_eq_some]
  exact h _

@[simp] theorem get?_empty : (empty : Dict κ α).get? k = none := rfl

theorem get?_filter {p : κ → α → Bool} : (d.filter p).get? k = (d.get? k).filter (p k) := by
  apply Option.ext
  intro v
  rw [get?_eq_some, Option.filter_eq_some_iff, get?_eq_some]
  simp [filter]

@[simp] theorem get?_mapVal {f : κ → α → β} : (d.mapVal f).get? k = (d.get? k).map (f k) := by
  apply Option.ext
  intro v
  rw [get?_eq_some, Option.map_eq_some_iff]
  simp only [mapVal, List.mem_map, Prod.mk.injEq]
  constructor
  · rintro ⟨i, hi, rfl, rfl⟩
    exact ⟨i.2, get?_eq_some.mpr hi, rfl⟩
  · rintro ⟨a, ha, rfl⟩
    exact ⟨(k, a), get?_eq_some.mp ha, rfl, rfl⟩

@[simp] theorem get?_sort {r : κ × α → κ × α → Prop} [DecidableRel r] : (d.sort r).get? k = d.get? k :=
  get?_congr fun _ => List.mem_insertionSort r

@[simp] theorem get?_erase_self : (d.erase k).get? k = none := by
  rw [erase, get?_filter, Option.filter_eq_none_iff]
  simp

theorem get?_erase_ne (h : k' ≠ k) : (d.erase k).get? k' = d.get? k' := by
  rw [erase, get?_filter]
  cases d.get? k' <;> simp [h]

@[simp] theorem get?_append_self : (d.append k v).get? k = some v := by
  rw [get?_eq_some]
  simp [append]

theorem get?_append_ne (h : k' ≠ k) : (d.append k v).get? k' = d.get? k' := by
  rw [← get?_erase_ne (d := d) h]
  apply Option.ext
  intro v'
  rw [get?_eq_some, get?_eq_some]
  simp [append, h]

@[simp] theorem get?_set_self : (d.set k v).get? k = some v := by
  unfold set
  split
  · rename_i h
    obtain ⟨v', hv'⟩ := Option.isSome_iff_exists.mp h
    simp [hv']
  · exact get?_append_self

theorem get?_set_ne (h : k' ≠ k) : (d.set k v).get? k' = d.get? k' := by
  unfold set
  split
  · rw [get?_mapVal]
    simp [h]
  · exact get?_append_ne h

theorem get?_moveToEnd : (d.moveToEnd k).get? k' = d.get? k' := by
  unfold moveToEnd
  split
  · rename_i v hv
    by_cases h : k' = k
    · rw [h, get?_append_self, hv]
    · exact get?_append_ne h
  · rfl

/-- What is left after dropping items was there before. -/
theorem get?_drop {n : ℕ} (h : (d.drop n).get? k = some v) : d.get? k = some v :=
  get?_eq_some.mpr (List.mem_of_mem_drop (get?_eq_some.mp h))

end

/-! ### Sizes -/

variable {d : Dict κ α}

theorem size_filter_le {p : κ → α → Bool} : (d.filter p).size ≤ d.size := List.length_filter_le _ _

theorem size_erase_le [DecidableEq κ] {k : κ} : (d.erase k).size ≤ d.size := size_filter_le

@[simp] theorem size_mapVal {f : κ → α → β} : (d.mapVal f).size = d.size := List.length_map _

@[simp] theorem size_sort {r : κ × α → κ × α → Prop} [DecidableRel r] : (d.sort r).size = d.size :=
  List.length_insertionSort r _

/-- Erasing a key removes one item. -/
theorem size_erase_of_get? [DecidableEq κ] {k : κ} {v : α} (h : d.get? k = some v) : (d.erase k).size + 1 = d.size := by
  have hmem : k ∈ d.items.map Prod.fst := List.mem_map_of_mem (get?_eq_some.mp h)
  have hone : d.items.countP (fun i => i.1 = k) = 1 := by
    rw [← List.count_eq_one_of_mem d.nodup hmem, List.count, List.countP_map]
    exact List.countP_congr fun i _ => by simp
  have hsplit := List.length_eq_countP_add_countP (fun i : κ × α => decide (i.1 = k)) (l := d.items)
  rw [hone] at hsplit
  unfold size erase filter
  rw [hsplit, Nat.add_comm, List.countP_eq_length_filter]
  simp

/-- A filter that drops no item leaves all. -/
theorem filter_of_size_eq {p : κ → α → Bool} (h : (d.filter p).size = d.size) : d.filter p = d := by
  have hself := List.filter_eq_self.mpr (List.length_filter_eq_length_iff.mp h)
  cases d
  rw [filter, mk.injEq]
  exact hself

@[simp] theorem size_moveToEnd [DecidableEq κ] {k : κ} : (d.moveToEnd k).size = d.size := by
  unfold moveToEnd
  split
  · rename_i v hv
    rw [← size_erase_of_get? hv]
    exact List.length_append
  · rfl

/-- Without the keys of its first `n` items a dictionary has its other items. -/
theorem filter_notMem_take [DecidableEq κ] {n : ℕ} :
    (d.items.filter fun i => i.1 ∉ (d.items.take n).map Prod.fst) = d.items.drop n := by
  have hnodup := d.nodup
  rw [← List.take_append_drop n d.items, List.map_append] at hnodup
  have htake : ((d.items.take n).filter fun i => i.1 ∉ (d.items.take n).map Prod.fst) = [] := by
    rw [List.filter_eq_nil_iff]
    intro i hi
    rw [decide_eq_true_eq, not_not]
    exact List.mem_map_of_mem hi
  have hdrop : ((d.items.drop n).filter fun i => i.1 ∉ (d.items.take n).map Prod.fst) = d.items.drop n := by
    rw [List.filter_eq_self]
    intro i hi
    have hne := (List.nodup_append.mp hnodup).2.2
    rw [decide_eq_true_eq]
    intro hmem
    exact hne _ hmem _ (List.mem_map_of_mem hi) rfl
  calc (d.items.filter fun i => i.1 ∉ (d.items.take n).map Prod.fst)
      = (d.items.take n ++ d.items.drop n).filter fun i => i.1 ∉ (d.items.take n).map Prod.fst := by
        rw [List.take_append_drop]
    _ = d.items.drop n := by rw [List.filter_append, htake, hdrop, List.nil_append]

/-- Dropping the keys of the first `n` items of some order leaves all but `n` items. -/
theorem size_filter_notMem_take [DecidableEq κ] {r : κ × α → κ × α → Prop} [DecidableRel r] {n : ℕ} :
    (d.filter fun k _ => k ∉ ((d.sort r).items.take n).map Prod.fst).size = d.size - n := by
  let p : κ × α → Bool := fun i => i.1 ∉ ((d.sort r).items.take n).map Prod.fst
  calc (d.items.filter p).length
      = ((d.sort r).items.filter p).length := ((List.perm_insertionSort r d.items).filter p).length_eq.symm
    _ = ((d.sort r).items.drop n).length := by rw [filter_notMem_take]
    _ = (d.sort r).size - n := List.length_drop
    _ = d.size - n := by rw [size_sort]

@[simp] theorem size_drop {n : ℕ} : (d.drop n).size = d.size - n := List.length_drop

end Dict
