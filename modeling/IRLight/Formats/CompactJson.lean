import IRLight.Formats.JsonText
import IRLight.Python
import Mathlib.Data.List.Sort
import Mathlib.Data.String.Basic

/-! # Compact JSON texts and their sizes

What `json.dumps` writes with `sort_keys=True` and `separators=(",", ":")`, for any texts of the floats. -/

namespace IRLight
namespace Json

/-- `value.get(key)`, of a dictionary. -/
def get? (key : String) : Json → Option Json
  | .obj fields => fields.lookup key
  | _ => none

theorem get?_cons {key k : String} {v : Json} {fields : List (String × Json)} :
    (obj ((k, v) :: fields)).get? key = if key = k then some v else (obj fields).get? key := by
  rw [get?, List.lookup_cons]
  by_cases h : key = k
  · rw [if_pos h, beq_iff_eq.mpr h]
  · rw [if_neg h, beq_eq_false_iff_ne.mpr h, get?]

mutual

/-- `sort_keys=True`. -/
def sorted : Json → Json
  | arr items => arr (sortedItems items)
  | obj fields => obj ((sortedFields fields).insertionSort fun i j => i.1 ≤ j.1)
  | v => v

def sortedItems : List Json → List Json
  | [] => []
  | v :: items => v.sorted :: sortedItems items

def sortedFields : List (String × Json) → List (String × Json)
  | [] => []
  | (key, v) :: fields => (key, v.sorted) :: sortedFields fields

end

theorem sortedFields_eq (fields : List (String × Json)) : sortedFields fields = fields.map fun i => (i.1, i.2.sorted) := by
  induction fields with
  | nil => rfl
  | cons field fields ih => rw [sortedFields, ih, List.map_cons]

section
variable (floatText : PyFloat → String)

mutual

/-- The text, with `ensure_ascii=False`. -/
def compact : Json → String
  | null => "null"
  | bool true => "true"
  | bool false => "false"
  | int n => toString n
  | float x => floatText x
  | str s => JsonValue.quote s
  | arr items => "[" ++ ",".intercalate (compactItems items) ++ "]"
  | obj fields => "\x7b" ++ ",".intercalate (compactFields fields) ++ "\x7d"

def compactItems : List Json → List String
  | [] => []
  | v :: items => v.compact :: compactItems items

def compactFields : List (String × Json) → List String
  | [] => []
  | (key, v) :: fields => (JsonValue.quote key ++ ":" ++ v.compact) :: compactFields fields

end

theorem compactFields_eq (fields : List (String × Json)) :
    compactFields floatText fields = fields.map fun i => JsonValue.quote i.1 ++ ":" ++ i.2.compact floatText := by
  induction fields with
  | nil => rfl
  | cons field fields ih => rw [compactFields, ih, List.map_cons]

end

/-! ### Sizes -/

end Json
end IRLight
