import IRLight.Formats.JsonText

/-! # Payloads of user events

What a user may put into the payload of a Session event. The validator keeps the containers that it has still to visit on a
stack. -/

namespace IRLight.UserEvents
open JsonValue

/-- `UserEventPayloadError`. -/
structure PayloadError where
  message : String
  deriving DecidableEq

def maxPayloadBytes : ℕ := 8 * 1024
def maxDepth : ℕ := 8
def maxElements : ℕ := 128

/-- `_validate_scalar`. JSON has no other values. -/
def validateScalar : Scalar → Except PayloadError Unit
  | .float x => if x.isFinite then .ok () else .error ⟨"payload contains a non-finite number"⟩
  | _ => .ok ()

/-- The containers to visit, with their depths. `stack.pop()` takes the head. -/
abbrev Stack := List (JsonValue × ℕ)

/-- The loop over the children of a container at the depth: containers are pushed, scalars are validated at once. -/
def pushChildren (depth : ℕ) : Stack → List JsonValue → Except PayloadError Stack
  | stack, [] => .ok stack
  | stack, .scalar s :: children => validateScalar s >>= fun _ => pushChildren depth stack children
  | stack, .arr items :: children => pushChildren depth ((.arr items, depth + 1) :: stack) children
  | stack, .obj fields :: children => pushChildren depth ((.obj fields, depth + 1) :: stack) children

/-- What is pushed are the containers, the last one on top. -/
theorem pushChildren_ok {depth : ℕ} {stack stack' : Stack} {children : List JsonValue}
    (h : pushChildren depth stack children = .ok stack') :
    stack' = ((children.filter isContainer).map fun child => (child, depth + 1)).reverse ++ stack := by
  induction children generalizing stack with
  | nil => exact (Except.ok.inj h).symm
  | cons child children ih =>
    cases child with
    | scalar s =>
      rw [pushChildren] at h
      cases hscalar : validateScalar s with
      | error e =>
        rw [hscalar] at h
        cases h
      | ok u =>
        rw [hscalar] at h
        exact ih h
    | arr items =>
      rw [pushChildren] at h
      rw [ih h, List.filter_cons_of_pos rfl, List.map_cons, List.reverse_cons, List.append_assoc]
      rfl
    | obj fields =>
      rw [pushChildren] at h
      rw [ih h, List.filter_cons_of_pos rfl, List.map_cons, List.reverse_cons, List.append_assoc]
      rfl

/-- How much is left to visit. -/
def Stack.size (stack : Stack) : ℕ := (stack.map fun entry => entry.1.size).sum

theorem Stack.size_cons (v : JsonValue) (depth : ℕ) (stack : Stack) : Stack.size ((v, depth) :: stack) = v.size + stack.size :=
  List.sum_cons

/-- What a container at the depth is checked for, and the stack after it: its elements are counted, and its containers are
pushed. -/
def enter (elements depth : ℕ) (rest : Stack) (children : List JsonValue) : Except PayloadError Stack :=
  if maxDepth < depth then .error ⟨"payload nesting is too deep"⟩
  else if maxElements < elements + children.length then .error ⟨"payload contains too many elements"⟩
  else pushChildren depth rest children

/-- A container is visited if it is not too deep, its elements are within the limit and its scalars are good. -/
theorem enter_eq_ok {elements depth : ℕ} {rest stack : Stack} {children : List JsonValue} :
    enter elements depth rest children = .ok stack ↔
      depth ≤ maxDepth ∧ elements + children.length ≤ maxElements ∧ pushChildren depth rest children = .ok stack := by
  unfold enter
  by_cases hdeep : maxDepth < depth
  · rw [if_pos hdeep]
    exact iff_of_false (by intro h; cases h) fun h => not_le.mpr hdeep h.1
  · rw [if_neg hdeep]
    by_cases hmany : maxElements < elements + children.length
    · rw [if_pos hmany]
      exact iff_of_false (by intro h; cases h) fun h => not_le.mpr hmany h.2.1
    · rw [if_neg hmany]
      exact ⟨fun h => ⟨not_lt.mp hdeep, not_lt.mp hmany, h⟩, fun h => h.2.2⟩

/-- A container is larger than all that is pushed for it. -/
theorem Stack.size_enter {v : JsonValue} {elements depth : ℕ} {rest stack : Stack} (hcontainer : v.isContainer)
    (h : enter elements depth rest v.children = .ok stack) : stack.size < Stack.size ((v, depth) :: rest) := by
  have hle : ((v.children.filter isContainer).map JsonValue.size).sum ≤ (v.children.map JsonValue.size).sum :=
    (List.filter_sublist.map JsonValue.size).sum_le_sum fun n _ => Nat.zero_le n
  rw [pushChildren_ok (enter_eq_ok.mp h).2.2, Stack.size_cons, size_container hcontainer]
  unfold Stack.size
  rw [List.map_append, List.sum_append, List.map_reverse, List.sum_reverse, List.map_map]
  exact Nat.add_lt_add_right (Nat.lt_one_add_iff.mpr hle) _

/-- The loop over the stack, with the elements counted so far. -/
def visit (elements : ℕ) (stack : Stack) : Except PayloadError Unit :=
  match stack with
  | [] => .ok ()
  | (.scalar s, _) :: rest => validateScalar s >>= fun _ => visit elements rest
  | (.obj fields, depth) :: rest =>
    match _henter : enter elements depth rest (fields.map Prod.snd) with
    | .error e => .error e
    | .ok stack => visit (elements + fields.length) stack
  | (.arr items, depth) :: rest =>
    match _henter : enter elements depth rest items with
    | .error e => .error e
    | .ok stack => visit (elements + items.length) stack
termination_by stack.size
decreasing_by
  · rw [Stack.size_cons]
    exact Nat.lt_add_of_pos_left Nat.one_pos
  · exact Stack.size_enter (v := .obj fields) rfl _henter
  · exact Stack.size_enter (v := .arr items) rfl _henter

theorem visit_nil {elements : ℕ} : visit elements [] = .ok () := by
  rw [visit]

theorem visit_scalar {elements depth : ℕ} {s : Scalar} {rest : Stack} :
    visit elements ((.scalar s, depth) :: rest) = validateScalar s >>= fun _ => visit elements rest := by
  rw [visit]

/-- One container is entered, and the loop goes on with what is on the stack then. -/
theorem visit_container {v : JsonValue} {elements depth : ℕ} {rest : Stack} (h : v.isContainer) :
    visit elements ((v, depth) :: rest) =
      enter elements depth rest v.children >>= visit (elements + v.children.length) := by
  cases v with
  | scalar s => cases h
  | obj fields =>
    rw [visit, children, List.length_map]
    split
    · rename_i e henter
      rw [henter]
      rfl
    · rename_i stack henter
      rw [henter]
      rfl
  | arr items =>
    rw [visit, children]
    split
    · rename_i e henter
      rw [henter]
      rfl
    · rename_i stack henter
      rw [henter]
      rfl

/-- The size of the compact text is checked last. -/
def checkEncoded (payload : JsonValue) : Except PayloadError Unit :=
  match payload.dumps with
  | none => .error ⟨"payload is not bounded JSON"⟩
  | some encoded => if maxPayloadBytes < encoded.utf8ByteSize then .error ⟨"payload is too large"⟩ else .ok ()

/-- `validate_user_event_payload`. -/
def validateUserEventPayload (payload : JsonValue) : Except PayloadError Unit :=
  match payload with
  | .obj fields => do
    visit 0 [(.obj fields, 1)]
    checkEncoded (.obj fields)
  | _ => .error ⟨"payload must be an object"⟩

end IRLight.UserEvents
