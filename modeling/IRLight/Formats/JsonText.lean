import IRLight.Formats.Double
import Mathlib.Algebra.BigOperators.Group.List.Basic
import Mathlib.Algebra.Order.Group.Nat
import Mathlib.Algebra.Order.BigOperators.Group.List

/-! # JSON values and their compact text

A value is a scalar, or a container of values. What is computed of a value is computed of the values in it. -/

universe u

inductive Scalar where
  | null
  | bool (value : Bool)
  | int (value : ℤ)
  | float (value : Double)
  | str (value : String)

/-- The keys of an object stand in the order in which they were written. -/
inductive JsonValue where
  | scalar (value : Scalar)
  | arr (items : List JsonValue)
  | obj (fields : List (String × JsonValue))

namespace JsonValue

section
variable {α : Type u} (leaf : Scalar → α) (array : List α → α) (object : List (String × α) → α)

mutual

/-- What the values in a container give, put together. -/
def fold : JsonValue → α
  | scalar s => leaf s
  | arr items => array (foldItems items)
  | obj fields => object (foldFields fields)

def foldItems : List JsonValue → List α
  | [] => []
  | v :: items => fold v :: foldItems items

def foldFields : List (String × JsonValue) → List (String × α)
  | [] => []
  | (key, v) :: fields => (key, fold v) :: foldFields fields

end

theorem foldItems_eq (items : List JsonValue) : foldItems leaf array object items = items.map (fold leaf array object) := by
  induction items with
  | nil => rfl
  | cons v items ih => rw [foldItems, ih, List.map_cons]

theorem foldFields_eq (fields : List (String × JsonValue)) :
    foldFields leaf array object fields = fields.map fun field => (field.1, fold leaf array object field.2) := by
  induction fields with
  | nil => rfl
  | cons field fields ih => rw [foldFields, ih, List.map_cons]

end

/-! ### Children -/

def isContainer : JsonValue → Bool
  | scalar _ => false
  | _ => true

/-- The values in a container. -/
def children : JsonValue → List JsonValue
  | scalar _ => []
  | arr items => items
  | obj fields => fields.map Prod.snd

section
variable {α : Type u} (leaf : Scalar → α) (node : List α → α)

/-- What is computed of a value without its keys. -/
def collect (v : JsonValue) : α := fold leaf node (fun fields => node (fields.map Prod.snd)) v

theorem collect_scalar (s : Scalar) : collect leaf node (scalar s) = leaf s := by
  unfold collect
  rw [fold]

theorem collect_container {v : JsonValue} (h : v.isContainer) : collect leaf node v = node (v.children.map (collect leaf node)) := by
  cases v with
  | scalar s => cases h
  | arr items =>
    unfold collect
    rw [fold, foldItems_eq]
    rfl
  | obj fields =>
    unfold collect
    rw [fold, foldFields_eq, children, List.map_map, List.map_map]
    rfl

end

/-- How deep the containers are nested: a container of scalars has depth 1. -/
def nesting (v : JsonValue) : ℕ := v.collect (fun _ => 0) fun depths => 1 + depths.foldr max 0

/-- The entries of all objects and the items of all arrays. -/
def elements (v : JsonValue) : ℕ := v.collect (fun _ => 0) fun counts => counts.length + counts.sum

/-- The scalars in the value. -/
def scalars (v : JsonValue) : List Scalar := v.collect (fun s => [s]) List.flatten

def size (v : JsonValue) : ℕ := v.collect (fun _ => 1) fun sizes => 1 + sizes.sum

theorem size_container {v : JsonValue} (h : v.isContainer) : v.size = 1 + (v.children.map size).sum := by
  unfold size
  rw [collect_container _ _ h]

theorem isContainer_of_mem {v child : JsonValue} (h : child ∈ v.children) : v.isContainer := by
  cases v with
  | scalar s => cases h
  | arr items => rfl
  | obj fields => rfl

theorem size_lt {v child : JsonValue} (h : child ∈ v.children) : child.size < v.size := by
  rw [size_container (isContainer_of_mem h)]
  exact Nat.lt_one_add_iff.mpr (List.le_sum_of_mem (List.mem_map_of_mem (f := size) h))

/-! ### The text -/

/-- `int.__repr__` raises at more digits. -/
def maxStrDigits : ℕ := 4300

end JsonValue

namespace Scalar

/-- Whether `json.dumps(..., allow_nan=False)` accepts the scalar. -/
def dumpable : Scalar → Bool
  | int n => (Nat.toDigits 10 n.natAbs).length ≤ JsonValue.maxStrDigits
  | float x => x.isFinite
  | _ => true

end Scalar

namespace JsonValue

/-- A character in a JSON string, with `ensure_ascii=False`. -/
def escape (c : Char) : List Char :=
  if c = '"' then ['\\', '"']
  else if c = '\\' then ['\\', '\\']
  else if c = '\n' then ['\\', 'n']
  else if c = '\r' then ['\\', 'r']
  else if c = '\t' then ['\\', 't']
  else if c.toNat = 0x0C then ['\\', 'f']
  else if c.toNat = 0x08 then ['\\', 'b']
  else if c.toNat < 0x20 then ['\\', 'u', '0', '0', Nat.digitChar (c.toNat / 16), Nat.digitChar (c.toNat % 16)]
  else [c]

def quote (s : String) : String := "\"" ++ String.ofList (s.toList.flatMap escape) ++ "\""

def scalarText : Scalar → String
  | .null => "null"
  | .bool true => "true"
  | .bool false => "false"
  | .int n => toString n
  | .float x => x.repr
  | .str s => quote s

/-- The compact text, with `separators=(",", ":")`. -/
def text (v : JsonValue) : String :=
  v.fold scalarText (fun items => "[" ++ ",".intercalate items ++ "]")
    fun fields => "\x7b" ++ ",".intercalate (fields.map fun field => quote field.1 ++ ":" ++ field.2) ++ "\x7d"

/-- `json.dumps(value, ensure_ascii=False, allow_nan=False, separators=(",", ":"))`. -/
def dumps (v : JsonValue) : Option String := if v.scalars.all Scalar.dumpable then some v.text else none

end JsonValue
