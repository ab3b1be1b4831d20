import IRLight.Collections.Worklist
import IRLight.ControlPlane.EventPayload
import IRLight.Python

/-! # The validator of user event payloads

The validator on a stack accepts what the definition by recursion allows, and so does every other order of visiting the
containers. -/

namespace IRLight.UserEvents
open JsonValue

/-- A scalar that JSON can hold. -/
def Finite (s : Scalar) : Prop := ∀ x, s = .float x → x.isFinite = true

/-- What a payload may be, by recursion on it. -/
structure Bounded (payload : JsonValue) : Prop where
  isObject : ∃ fields, payload = .obj fields
  nesting : payload.nesting ≤ maxDepth
  elements : payload.elements ≤ maxElements
  scalars : ∀ s ∈ payload.scalars, Finite s
  bytes : payload.text.utf8ByteSize ≤ maxPayloadBytes

/-- The integers of the payload have texts. -/
def WithinDigits (payload : JsonValue) : Prop :=
  ∀ n, Scalar.int n ∈ payload.scalars → (Nat.toDigits 10 n.natAbs).length ≤ JsonValue.maxStrDigits

/-! ### Visiting containers in any order -/

/-- What is checked of one value at a depth. -/
def Visitable (entry : JsonValue × ℕ) : Prop :=
  (entry.1.isContainer → entry.2 ≤ maxDepth) ∧ (∀ s, .scalar s ∈ entry.1.children → Finite s) ∧
    ∀ s, entry.1 = .scalar s → Finite s

/-- The containers in a value, one deeper. -/
def below (entry : JsonValue × ℕ) : Stack := (entry.1.children.filter isContainer).map fun child => (child, entry.2 + 1)

theorem size_below {entry child : JsonValue × ℕ} (h : child ∈ below entry) : child.1.size < entry.1.size := by
  obtain ⟨v, hv, rfl⟩ := List.mem_map.mp h
  exact size_lt (List.mem_filter.mp hv).1

/-- The payload as a forest: the children of a container are the containers in it, and it costs its elements. -/
def walk : Walk (JsonValue × ℕ) where
  next := below
  size entry := entry.1.size
  size_lt := size_below
  allowed := Visitable
  cost entry := entry.1.children.length
  budget := maxElements

section
variable {v child payload : JsonValue} {children : List JsonValue} {stack stack' rest : Stack} {depth elements : ℕ}
  {verdict : Bool}

theorem validateScalar_float {x : Double} :
    validateScalar (.float x) = if x.isFinite then .ok () else .error ⟨"payload contains a non-finite number"⟩ := rfl

theorem validateScalar_eq_ok {s : Scalar} : validateScalar s = .ok () ↔ Finite s := by
  unfold Finite
  cases s with
  | float x =>
    rw [validateScalar_float]
    by_cases hx : x.isFinite
    · rw [if_pos hx]
      refine iff_of_true rfl fun y hy => ?_
      obtain rfl := Scalar.float.inj hy
      exact hx
    · rw [if_neg hx]
      exact iff_of_false (by intro h; cases h) fun h => hx (h x rfl)
  | null => exact iff_of_true rfl fun x hx => by cases hx
  | bool b => exact iff_of_true rfl fun x hx => by cases hx
  | int n => exact iff_of_true rfl fun x hx => by cases hx
  | str s => exact iff_of_true rfl fun x hx => by cases hx

/-- The loop over the children goes through if their scalars are finite. -/
theorem pushChildren_isOk : (∃ stack', pushChildren depth stack children = .ok stack') ↔
    ∀ s, .scalar s ∈ children → Finite s := by
  induction children generalizing stack with
  | nil => exact iff_of_true ⟨stack, rfl⟩ fun s hs => by cases hs
  | cons child children ih =>
    simp only [List.mem_cons]
    cases child with
    | scalar s =>
      rw [pushChildren]
      cases hs : validateScalar s with
      | ok u =>
        have hfinite := validateScalar_eq_ok.mp hs
        refine (@ih stack).trans ⟨fun h s' hs' => ?_, fun h s' hs' => h s' (.inr hs')⟩
        rcases hs' with hs' | hs'
        · obtain rfl := JsonValue.scalar.inj hs'
          exact hfinite
        · exact h s' hs'
      | error e =>
        refine iff_of_false ?_ fun h => ?_
        · rintro ⟨stack', hstack⟩
          cases hstack
        · have hok := validateScalar_eq_ok.mpr (h s (.inl rfl))
          rw [hs] at hok
          cases hok
    | arr items =>
      rw [pushChildren, ih]
      exact ⟨fun h s hs => h s (hs.resolve_left (by intro hfalse; cases hfalse)), fun h s hs => h s (.inr hs)⟩
    | obj fields =>
      rw [pushChildren, ih]
      exact ⟨fun h s hs => h s (hs.resolve_left (by intro hfalse; cases hfalse)), fun h s hs => h s (.inr hs)⟩

/-- A container may be visited if the loop enters it. -/
theorem admits_container (hcontainer : v.isContainer) : walk.Admits elements (v, depth) ↔
    ∃ stack, enter elements depth rest v.children = .ok stack := by
  constructor
  · rintro ⟨⟨hdepth, hscalars, -⟩, hcost⟩
    obtain ⟨stack, hpush⟩ := pushChildren_isOk.mpr hscalars
    exact ⟨stack, enter_eq_ok.mpr ⟨hdepth hcontainer, hcost, hpush⟩⟩
  · rintro ⟨stack, henter⟩
    obtain ⟨hdepth, hcost, hpush⟩ := enter_eq_ok.mp henter
    refine ⟨⟨fun _ => hdepth, pushChildren_isOk.mp ⟨stack, hpush⟩, fun s hs => ?_⟩, hcost⟩
    obtain rfl : v = .scalar s := hs
    cases hcontainer

theorem admits_scalar {s : Scalar} (h : elements ≤ maxElements) : walk.Admits elements (.scalar s, depth) ↔ Finite s := by
  constructor
  · rintro ⟨⟨-, -, hscalar⟩, -⟩
    exact hscalar s rfl
  · intro hs
    refine ⟨⟨fun hfalse => absurd hfalse Bool.false_ne_true, fun s' hs' => absurd hs' List.not_mem_nil, fun s' hs' => ?_⟩, h⟩
    obtain rfl := JsonValue.scalar.inj hs'
    exact hs

/-- The loop is one of the traversals. -/
theorem visit_traverses (h : elements ≤ maxElements) :
    ∃ verdict, walk.Traverses elements stack verdict ∧ (verdict = true ↔ visit elements stack = .ok ()) := by
  induction hsize : stack.size using Nat.strong_induction_on generalizing elements stack with
  | _ n ih =>
    cases stack with
    | nil => exact ⟨true, .done, iff_of_true rfl visit_nil⟩
    | cons entry rest =>
      obtain ⟨v, depth⟩ := entry
      by_cases hcontainer : v.isContainer
      · rw [visit_container hcontainer]
        cases henter : enter elements depth rest v.children with
        | error e =>
          refine ⟨false, .stop (.refl _) fun hadmits => ?_, iff_of_false Bool.false_ne_true (by intro hfalse; cases hfalse)⟩
          obtain ⟨stack, hok⟩ : ∃ stack, enter elements depth rest v.children = .ok stack :=
            (admits_container hcontainer).mp hadmits
          rw [henter] at hok
          cases hok
        | ok stack =>
          have hadmits := (admits_container hcontainer).mpr ⟨stack, henter⟩
          obtain ⟨verdict, htraverses, hverdict⟩ := ih _ (hsize ▸ Stack.size_enter hcontainer henter) hadmits.2 rfl
          refine ⟨verdict, .visit (.refl _) hadmits ?_ htraverses, hverdict⟩
          rw [pushChildren_ok (enter_eq_ok.mp henter).2.2]
          exact (List.reverse_perm _).append_right rest
      · cases v with
        | arr items => exact absurd rfl hcontainer
        | obj fields => exact absurd rfl hcontainer
        | scalar s =>
          rw [visit_scalar]
          cases hs : validateScalar s with
          | error e =>
            refine ⟨false, .stop (.refl _) fun hadmits => ?_, iff_of_false Bool.false_ne_true (by intro hfalse; cases hfalse)⟩
            have hok := validateScalar_eq_ok.mpr ((admits_scalar h).mp hadmits)
            rw [hs] at hok
            cases hok
          | ok u =>
            have hadmits : walk.Admits elements (.scalar s, depth) := (admits_scalar h).mpr (validateScalar_eq_ok.mp hs)
            have hlt : Stack.size rest < n := by
              rw [← hsize, Stack.size_cons]
              exact Nat.lt_add_of_pos_left Nat.one_pos
            obtain ⟨verdict, htraverses, hverdict⟩ := ih _ hlt h rfl
            exact ⟨verdict, .visit (.refl _) hadmits (.refl _) htraverses, hverdict⟩

/-! ### The recursion -/

theorem nesting_container (h : v.isContainer) : v.nesting = 1 + (v.children.map nesting).foldr max 0 := collect_container _ _ h

theorem elements_container (h : v.isContainer) : v.elements = v.children.length + (v.children.map JsonValue.elements).sum := by
  refine (collect_container _ _ h).trans ?_
  rw [List.length_map]
  rfl

theorem scalars_container (h : v.isContainer) : v.scalars = (v.children.map JsonValue.scalars).flatten := collect_container _ _ h

/-- A property of the nodes below a list of values, and a sum over them. -/
theorem sum_below {l : List JsonValue}
    (h : ∀ c ∈ l, ((walk.nodes (c, depth)).map walk.cost).sum = c.elements) :
    ((((l.filter isContainer).map fun c => (c, depth)).flatMap walk.nodes).map walk.cost).sum =
      (l.map JsonValue.elements).sum := by
  induction l with
  | nil => rfl
  | cons c l ih =>
    obtain ⟨hc, hl⟩ := List.forall_mem_cons.mp h
    rw [List.map_cons, List.sum_cons]
    by_cases hcontainer : c.isContainer
    · rw [List.filter_cons_of_pos hcontainer, List.map_cons, List.flatMap_cons, List.map_append, List.sum_append, ih hl, hc]
    · rw [List.filter_cons_of_neg hcontainer, ih hl]
      cases c with
      | scalar s => exact (Nat.zero_add _).symm
      | arr items => exact absurd rfl hcontainer
      | obj fields => exact absurd rfl hcontainer

/-- All visits together count the elements of the value. -/
theorem sum_cost : ((walk.nodes (v, depth)).map walk.cost).sum = v.elements := by
  induction hsize : v.size using Nat.strong_induction_on generalizing v depth with
  | _ n ih =>
    rw [Walk.nodes_eq, List.map_cons, List.sum_cons]
    by_cases hcontainer : v.isContainer
    · rw [elements_container hcontainer]
      have hbelow := @sum_below (depth + 1) v.children fun c hc => ih _ (hsize ▸ size_lt hc) rfl
      exact congrArg (v.children.length + ·) hbelow
    · cases v with
      | scalar s => rfl
      | arr items => exact absurd rfl hcontainer
      | obj fields => exact absurd rfl hcontainer

theorem foldr_max_le {l : List ℕ} {k : ℕ} : l.foldr max 0 ≤ k ↔ ∀ n ∈ l, n ≤ k := by
  induction l with
  | nil => exact iff_of_true (Nat.zero_le k) fun n hn => absurd hn List.not_mem_nil
  | cons n l ih => rw [List.foldr_cons, Nat.max_le, ih, List.forall_mem_cons]

theorem scalar_of_not_container (h : ¬v.isContainer) : ∃ s, v = .scalar s := by
  cases v with
  | scalar s => exact ⟨s, rfl⟩
  | arr items => exact absurd rfl h
  | obj fields => exact absurd rfl h

/-- All visits of a container are good if it is not nested too deep and its scalars are finite. -/
theorem forall_visitable (hcontainer : v.isContainer) : (∀ entry ∈ walk.nodes (v, depth), Visitable entry) ↔
    v.nesting + depth ≤ maxDepth + 1 ∧ ∀ s ∈ v.scalars, Finite s := by
  induction hsize : v.size using Nat.strong_induction_on generalizing v depth with
  | _ n ih =>
    have hbelow : (∀ entry ∈ (walk.next (v, depth)).flatMap walk.nodes, Visitable entry) ↔
        ∀ c ∈ v.children, c.isContainer → c.nesting + (depth + 1) ≤ maxDepth + 1 ∧ ∀ s ∈ c.scalars, Finite s := by
      constructor
      · intro h c hc hcc
        refine (ih _ (hsize ▸ size_lt hc) hcc rfl).mp fun entry hentry => h entry ?_
        exact List.mem_flatMap.mpr ⟨_, List.mem_map_of_mem (List.mem_filter.mpr ⟨hc, hcc⟩), hentry⟩
      · intro h entry hentry
        obtain ⟨below, hb, hentry⟩ := List.mem_flatMap.mp hentry
        obtain ⟨c, hc, rfl⟩ := List.mem_map.mp hb
        obtain ⟨hc, hcc⟩ := List.mem_filter.mp hc
        exact (ih _ (hsize ▸ size_lt hc) hcc rfl).mpr (h c hc hcc) entry hentry
    rw [Walk.nodes_eq, List.forall_mem_cons, hbelow, nesting_container hcontainer, scalars_container hcontainer]
    constructor
    · rintro ⟨⟨hdepth, hscalars, -⟩, hchildren⟩
      have hdepth : depth ≤ maxDepth := hdepth hcontainer
      have hmax : (v.children.map nesting).foldr max 0 ≤ maxDepth - depth := by
        refine foldr_max_le.mpr fun k hk => ?_
        obtain ⟨c, hc, rfl⟩ := List.mem_map.mp hk
        by_cases hcc : c.isContainer
        · have hnesting := (hchildren c hc hcc).1
          omega
        · obtain ⟨s, rfl⟩ := scalar_of_not_container hcc
          exact Nat.zero_le _
      refine ⟨by omega, fun s hs => ?_⟩
      obtain ⟨found, hfound, hs⟩ := List.mem_flatten.mp hs
      obtain ⟨c, hc, rfl⟩ := List.mem_map.mp hfound
      by_cases hcc : c.isContainer
      · exact (hchildren c hc hcc).2 s hs
      · obtain ⟨s', rfl⟩ := scalar_of_not_container hcc
        obtain rfl := List.mem_singleton.mp hs
        exact hscalars s hc
    · rintro ⟨hnesting, hscalars⟩
      have hmem {c : JsonValue} {s : Scalar} (hc : c ∈ v.children) (hs : s ∈ c.scalars) : Finite s :=
        hscalars s (List.mem_flatten.mpr ⟨_, List.mem_map_of_mem hc, hs⟩)
      refine ⟨⟨fun _ => ?_, fun s hs => hmem hs (List.mem_singleton_self s), fun s hs => ?_⟩, fun c hc hcc => ⟨?_, fun s => hmem hc⟩⟩
      · change depth ≤ maxDepth
        omega
      · obtain rfl : v = .scalar s := hs
        cases hcontainer
      · have hle := foldr_max_le.mp le_rfl c.nesting (List.mem_map_of_mem hc)
        omega

/-- What the traversals accept. -/
theorem affords_iff (hcontainer : payload.isContainer) : walk.Affords 0 [(payload, 1)] ↔
    payload.nesting ≤ maxDepth ∧ payload.elements ≤ maxElements ∧ ∀ s ∈ payload.scalars, Finite s := by
  have hall := @forall_visitable payload 1 hcontainer
  rw [Nat.add_le_add_iff_right] at hall
  unfold Walk.Affords
  rw [List.flatMap_singleton, sum_cost, Nat.zero_add]
  change (∀ entry ∈ walk.nodes (payload, 1), Visitable entry) ∧ payload.elements ≤ maxElements ↔ _
  rw [hall]
  exact ⟨fun ⟨⟨h₁, h₂⟩, h₃⟩ => ⟨h₁, h₃, h₂⟩, fun ⟨h₁, h₂, h₃⟩ => ⟨⟨h₁, h₃⟩, h₂⟩⟩

/-- The traversals of the payload give the verdict that the recursion gives, in whatever order. -/
theorem traverses_iff (hcontainer : payload.isContainer) (h : walk.Traverses 0 [(payload, 1)] verdict) : verdict = true ↔
    payload.nesting ≤ maxDepth ∧ payload.elements ≤ maxElements ∧ ∀ s ∈ payload.scalars, Finite s := by
  rw [h.verdict_iff (Nat.zero_le _), affords_iff hcontainer]

theorem visit_iff (hcontainer : payload.isContainer) : visit 0 [(payload, 1)] = .ok () ↔
    payload.nesting ≤ maxDepth ∧ payload.elements ≤ maxElements ∧ ∀ s ∈ payload.scalars, Finite s := by
  obtain ⟨verdict, htraverses, hverdict⟩ := @visit_traverses [(payload, 1)] 0 (Nat.zero_le maxElements)
  rw [← hverdict, traverses_iff hcontainer htraverses]

/-- A payload whose scalars are good has a text. -/
theorem dumps_eq_some (hdigits : WithinDigits payload) (hscalars : ∀ s ∈ payload.scalars, Finite s) :
    payload.dumps = some payload.text := by
  refine if_pos (List.all_eq_true.mpr fun s hs => ?_)
  cases s with
  | int n => exact decide_eq_true (hdigits n hs)
  | float x => exact hscalars _ hs x rfl
  | null => rfl
  | bool b => rfl
  | str s => rfl

theorem checkEncoded_iff (hdumps : payload.dumps = some payload.text) :
    checkEncoded payload = .ok () ↔ payload.text.utf8ByteSize ≤ maxPayloadBytes := by
  unfold checkEncoded
  rw [hdumps]
  change (if _ then _ else _) = _ ↔ _
  by_cases hlong : maxPayloadBytes < payload.text.utf8ByteSize
  · rw [if_pos hlong]
    exact iff_of_false (by intro h; cases h) (not_le.mpr hlong)
  · rw [if_neg hlong]
    exact iff_of_true rfl (not_lt.mp hlong)

theorem bind_ok_iff {x y : Except PayloadError Unit} : (x >>= fun _ => y) = .ok () ↔ x = .ok () ∧ y = .ok () := by
  rw [bind_eq_ok]
  exact ⟨fun ⟨_, hx, hy⟩ => ⟨hx, hy⟩, fun ⟨hx, hy⟩ => ⟨_, hx, hy⟩⟩

theorem validate_iff (hdigits : WithinDigits payload) : validateUserEventPayload payload = .ok () ↔ Bounded payload := by
  cases payload with
  | scalar s =>
    refine iff_of_false (by intro h; cases h) fun h => ?_
    obtain ⟨fields, hfields⟩ := h.isObject
    cases hfields
  | arr items =>
    refine iff_of_false (by intro h; cases h) fun h => ?_
    obtain ⟨fields, hfields⟩ := h.isObject
    cases hfields
  | obj fields =>
    rw [validateUserEventPayload, bind_ok_iff, visit_iff rfl]
    constructor
    · rintro ⟨⟨hnesting, helements, hscalars⟩, hencoded⟩
      exact ⟨⟨fields, rfl⟩, hnesting, helements, hscalars, (checkEncoded_iff (dumps_eq_some hdigits hscalars)).mp hencoded⟩
    · rintro ⟨-, hnesting, helements, hscalars, hbytes⟩
      exact ⟨⟨hnesting, helements, hscalars⟩, (checkEncoded_iff (dumps_eq_some hdigits hscalars)).mpr hbytes⟩

/-- **The validator accepts what the recursion allows.** It visits the containers in one order, and every order gives its
verdict. -/
theorem payload_validator_exact (payload : JsonValue) (hdigits : WithinDigits payload) :
    (validateUserEventPayload payload = .ok () ↔ Bounded payload) ∧
    ∀ verdict, walk.Traverses 0 [(payload, 1)] verdict → (verdict = true ↔ visit 0 [(payload, 1)] = .ok ()) := by
  refine ⟨validate_iff hdigits, fun verdict hverdict => ?_⟩
  obtain ⟨verdict', htraverses, hvisit⟩ := @visit_traverses [(payload, 1)] 0 (Nat.zero_le maxElements)
  rw [← hvisit, hverdict.verdict_iff (Nat.zero_le _), htraverses.verdict_iff (Nat.zero_le _)]

/-- A payload with a nested array and an integer. -/
def scorePayload : JsonValue := .obj [("note", .scalar (.str "goal")), ("score", .arr [.scalar (.int 2), .scalar (.int 1)])]

theorem payload_validator_score : (validateUserEventPayload scorePayload = .ok () ↔ Bounded scorePayload) ∧
    ∀ verdict, walk.Traverses 0 [(scorePayload, 1)] verdict → (verdict = true ↔ visit 0 [(scorePayload, 1)] = .ok ()) := by
  refine payload_validator_exact scorePayload fun n hn => ?_
  have hint : n = 2 ∨ n = 1 := by
    simpa [scorePayload, scalars, collect, fold, foldItems, foldFields] using hn
  rcases hint with rfl | rfl
  · decide
  · decide

end
end IRLight.UserEvents
