import IRLight.ControlPlane.NodeHandlers

/-! # Records of the Node authority

The shape that every record of the document keeps, whatever a handler does to it, and the numbers that it holds. The
checks of `validate_node_authority` ask for no more. -/

namespace IRLight

/-! ### Numbers of a tree -/

namespace Json

mutual

/-- Every number of the value has a finite float. -/
def finiteTree : Json → Bool
  | int n => n.natAbs < floatOverflow
  | float x => x.isFinite
  | arr items => finiteItems items
  | obj fields => finiteFields fields
  | _ => true

def finiteItems : List Json → Bool
  | [] => true
  | v :: items => v.finiteTree && finiteItems items

def finiteFields : List (String × Json) → Bool
  | [] => true
  | (_, v) :: fields => v.finiteTree && finiteFields fields

end

variable {items : List Json} {fields : List (String × Json)} {key : String} {v : Json}

theorem finiteItems_iff : finiteItems items = true ↔ ∀ v ∈ items, v.finiteTree = true := by
  induction items with
  | nil => simp [finiteItems]
  | cons v items ih => rw [finiteItems, Bool.and_eq_true, ih, List.forall_mem_cons]

theorem finiteFields_iff : finiteFields fields = true ↔ ∀ i ∈ fields, i.2.finiteTree = true := by
  induction fields with
  | nil => simp [finiteFields]
  | cons i fields ih => rw [finiteFields, Bool.and_eq_true, ih, List.forall_mem_cons]

@[simp] theorem finiteTree_null : null.finiteTree = true := rfl
@[simp] theorem finiteTree_bool (b : Bool) : (Json.bool b).finiteTree = true := rfl
@[simp] theorem finiteTree_str (text : String) : (str text).finiteTree = true := rfl
@[simp] theorem finiteTree_float (q : ℚ) : (float (.finite q)).finiteTree = true := rfl

theorem finiteTree_int {n : ℤ} : (int n).finiteTree = true ↔ n.natAbs < floatOverflow := by
  rw [finiteTree, decide_eq_true_iff]

theorem finiteTree_arr : (arr items).finiteTree = true ↔ ∀ v ∈ items, v.finiteTree = true := finiteItems_iff

theorem finiteTree_obj : (obj fields).finiteTree = true ↔ ∀ i ∈ fields, i.2.finiteTree = true := finiteFields_iff

theorem finiteTree_ofOption {α : Type} {f : α → Json} {o : Option α} :
    (ofOption f o).finiteTree = true ↔ ∀ a ∈ o, (f a).finiteTree = true := by
  cases o with
  | none => simp [ofOption]
  | some a => simp [ofOption]

/-- What a tree of finite numbers holds is one. -/
theorem finiteTree_get? (h : v.finiteTree = true) {w : Json} (hw : v.get? key = some w) : w.finiteTree = true := by
  cases v with
  | obj fields =>
    obtain ⟨l, r, hsplit, -⟩ := List.lookup_eq_some_iff.mp hw
    exact finiteTree_obj.mp h (key, w) (hsplit ▸ List.mem_append_right l List.mem_cons_self)
  | _ => cases hw

end Json

namespace NodeState
open Json

theorem require_eq_ok {ok : Bool} {label : String} : require ok label = .ok () ↔ ok = true := by
  rw [require, raiseIf_eq_ok, Bool.not_eq_true', Bool.not_eq_false]

/-- One statement after another succeeds when both do. -/
theorem seq_eq_ok {α : Type} {x : Except Exc Unit} {y : Except Exc α} {a : α} :
    (x >>= fun _ => y) = .ok a ↔ x = .ok () ∧ y = .ok a := by
  rw [bind_eq_ok]
  constructor
  · rintro ⟨⟨⟩, hx, hy⟩
    exact ⟨hx, hy⟩
  · rintro ⟨hx, hy⟩
    exact ⟨(), hx, hy⟩

mutual

/-- The check of the numbers refuses a tree exactly when one of them has no finite float. -/
theorem rejectNonfiniteTree_eq_ok (label : String) : ∀ v : Json, rejectNonfiniteTree label v = .ok () ↔ v.finiteTree = true
  | .null => by simp [rejectNonfiniteTree, finiteTree]
  | .bool _ => by simp [rejectNonfiniteTree, finiteTree]
  | .str _ => by simp [rejectNonfiniteTree, finiteTree]
  | .int n => by simp [rejectNonfiniteTree, finiteTree, requireFiniteNumber, require_eq_ok, finiteNumber]
  | .float x => by cases x <;> simp [rejectNonfiniteTree, finiteTree, requireFiniteNumber, require_eq_ok, finiteNumber, PyFloat.isFinite]
  | .arr items => by
    rw [rejectNonfiniteTree, finiteTree]
    exact rejectNonfiniteItems_eq_ok label 0 items
  | .obj fields => by
    rw [rejectNonfiniteTree, finiteTree]
    exact rejectNonfiniteFields_eq_ok label fields

theorem rejectNonfiniteItems_eq_ok (label : String) (index : ℕ) :
    ∀ items : List Json, rejectNonfiniteItems label index items = .ok () ↔ finiteItems items = true
  | [] => by simp [rejectNonfiniteItems, finiteItems]
  | item :: items => by
    rw [rejectNonfiniteItems, finiteItems, Bool.and_eq_true, seq_eq_ok, rejectNonfiniteTree_eq_ok _ item,
      rejectNonfiniteItems_eq_ok label (index + 1) items]

theorem rejectNonfiniteFields_eq_ok (label : String) :
    ∀ fields : List (String × Json), rejectNonfiniteFields label fields = .ok () ↔ finiteFields fields = true
  | [] => by simp [rejectNonfiniteFields, finiteFields]
  | (key, item) :: fields => by
    rw [rejectNonfiniteFields, finiteFields, Bool.and_eq_true, seq_eq_ok, rejectNonfiniteTree_eq_ok _ item,
      rejectNonfiniteFields_eq_ok label fields]

end

/-! ### The log of a Node -/

/-- An event of a Node's log. -/
structure LoggedEvent where
  sequence : ℤ
  type : String
  occurredAt : Timestamp
  payload : List (String × Json)

def LoggedEvent.json (e : LoggedEvent) : Json := event e.sequence e.type e.occurredAt (.obj e.payload)

/-- The events that a Node retains and the sequence number of its next one. -/
structure Log (node : Fields) (log : List LoggedEvent) (next : ℤ) : Prop where
  events : node.get? "events" = some (.arr (log.map LoggedEvent.json))
  upcoming : node.get? "next_event_seq" = some (.int next)
  increasing : (log.map (·.sequence)).Pairwise (· < ·)
  recorded : ∀ e ∈ log, 1 ≤ e.sequence ∧ e.sequence < next ∧ e.type ≠ ""
  retained : log.length ≤ 100
  positive : 1 ≤ next

variable {node node' : Fields} {log : List LoggedEvent} {next sequence previous : ℤ} {occurredAt : Timestamp}
  {payload : List (String × Json)} {eventTypes : List String}

/-- The events that `appendEvents` adds. -/
def newLog (sequence : ℤ) (occurredAt : Timestamp) (payload : List (String × Json)) : List String → List LoggedEvent
  | [] => []
  | eventType :: eventTypes =>
    ⟨sequence, eventType, occurredAt, payload⟩ :: newLog (sequence + 1) occurredAt payload eventTypes

theorem newEvents_eq : newEvents sequence occurredAt (.obj payload) eventTypes =
    (newLog sequence occurredAt payload eventTypes).map LoggedEvent.json := by
  induction eventTypes generalizing sequence with
  | nil => rfl
  | cons eventType eventTypes ih =>
    rw [newEvents, ih]
    rfl

theorem mem_newLog {e : LoggedEvent} (h : e ∈ newLog sequence occurredAt payload eventTypes) :
    sequence ≤ e.sequence ∧ e.sequence < sequence + eventTypes.length ∧ e.type ∈ eventTypes := by
  induction eventTypes generalizing sequence with
  | nil => cases h
  | cons eventType eventTypes ih =>
    rcases List.mem_cons.mp h with rfl | h
    · simp only [List.length_cons]
      exact ⟨le_rfl, by omega, List.mem_cons_self⟩
    · obtain ⟨hle, hlt, htype⟩ := ih h
      simp only [List.length_cons]
      exact ⟨by omega, by omega, List.mem_cons_of_mem _ htype⟩

theorem mem_newLog_payload {e : LoggedEvent} (h : e ∈ newLog sequence occurredAt payload eventTypes) : e.payload = payload := by
  induction eventTypes generalizing sequence with
  | nil => cases h
  | cons eventType eventTypes ih =>
    rcases List.mem_cons.mp h with rfl | h
    · rfl
    · exact ih h

theorem newLog_increasing : ((newLog sequence occurredAt payload eventTypes).map (·.sequence)).Pairwise (· < ·) := by
  induction eventTypes generalizing sequence with
  | nil => exact .nil
  | cons eventType eventTypes ih =>
    refine .cons (fun n hn => ?_) ih
    obtain ⟨e, he, rfl⟩ := List.mem_map.mp hn
    have hle := (mem_newLog he).1
    change sequence < e.sequence
    omega

/-- The checks of the events accept a log. -/
theorem validateEvents_log (hincreasing : (log.map (·.sequence)).Pairwise (· < ·))
    (h : ∀ e ∈ log, 1 ≤ e.sequence ∧ previous < e.sequence ∧ e.type ≠ "") :
    validateEvents previous (log.map LoggedEvent.json) = .ok () := by
  induction log generalizing previous with
  | nil => rfl
  | cons e log ih =>
    obtain ⟨⟨hone, hlt, htype⟩, hrest⟩ := List.forall_mem_cons.mp h
    obtain ⟨hhead, htail⟩ := List.pairwise_cons.mp hincreasing
    have hevent : validateEvent previous e.json = .ok e.sequence := by
      have hsequence : requireNonnegativeInt (.int e.sequence) "event sequence" 1 = .ok e.sequence := if_neg (not_lt.mpr hone)
      have hnumber : finiteNumber (some 0) (.float (.finite e.occurredAt)) = true := by simp [finiteNumber]
      have hname : nonemptyString (.str e.type) = true := by simp [nonemptyString, htype]
      simp only [validateEvent, LoggedEvent.json, event, Json.get?_cons, String.reduceEq, reduceIte, Option.getD_some]
      exact bind_eq_ok.mpr ⟨_, hsequence, seq_eq_ok.mpr ⟨raiseIf_eq_ok.mpr (not_le.mpr hlt), seq_eq_ok.mpr
        ⟨require_eq_ok.mpr hname, seq_eq_ok.mpr ⟨require_eq_ok.mpr hnumber, rfl⟩⟩⟩⟩
    rw [List.map_cons, validateEvents, hevent]
    refine ih htail fun e' he' => ?_
    exact ⟨(hrest e' he').1, hhead _ (List.mem_map_of_mem he'), (hrest e' he').2.2⟩

theorem Log.lastSequence (h : Log node log next) : ∀ n ∈ lastSequence (valueOf node "events"), n < next := by
  intro n hn
  rw [valueOf, h.events, Option.getD_some, NodeState.lastSequence, List.getLast?_map] at hn
  cases hlast : log.getLast? with
  | none => simp [hlast] at hn
  | some e =>
    simp only [hlast, Option.map_some, Option.bind_some, LoggedEvent.json, event, Json.get?_cons, reduceIte, Option.mem_def,
      Option.some.injEq] at hn
    exact hn ▸ (h.recorded e (List.mem_of_getLast? hlast)).2.1

theorem lastItems_map {α β : Type} (f : α → β) (n : ℕ) (l : List α) : lastItems n (l.map f) = (lastItems n l).map f := by
  unfold lastItems
  split
  · rfl
  · rw [List.length_map, List.map_drop]

theorem length_lastItems {α : Type} {n : ℕ} (hn : n ≠ 0) (l : List α) : (lastItems n l).length ≤ n := by
  rw [lastItems, if_neg hn, List.length_drop]
  omega

/-! ### The shape of a Node -/

def requiredFields : List String :=
  ["session_id", "provider_server_id", "boot_id", "agent_version", "access_token_sha256", "status", "desired_state",
    "absolute_deadline", "created_at"]

def flagFields : List String :=
  ["session_assigned", "active_publisher", "egress_connected", "ingest_ever_online", "egress_ever_connected",
    "relay_client_ever_connected"]

def measureFields : List String :=
  ["cpu_percent", "memory_mb", "deadline_remaining_seconds", "media_unhealthy_since", "pipeline_failure_latched_at"]

/-- The observation passes its check. -/
def observes (rules : ObservationRules) (observation : Json) : Bool := validateObservation rules observation = .ok ()

/-- What the value of a field satisfies wherever the field is present. -/
def checks : List (String × (Json → Bool)) :=
  [("session_id", nonemptyString), ("provider_server_id", nonemptyString), ("boot_id", nonemptyString),
    ("agent_version", nonemptyString), ("access_token_sha256", isDigest), ("status", oneOf nodeStatuses),
    ("desired_state", oneOf nodeDesiredStates), ("egress_mode", oneOf nodeEgressModes),
    ("destination_id", nullOr nonemptyString), ("absolute_deadline", finiteNumber (some 0)),
    ("created_at", finiteNumber (some 0)), ("last_heartbeat_at", nullOr (finiteNumber (some 0))),
    ("ingest", observes ingestRules), ("egress", observes egressRules), ("relay_client", observes relayClientRules)] ++
  flagFields.map (fun key => (key, isBool)) ++ measureFields.map (fun key => (key, nullOr (finiteNumber (some 0))))

def Admits (key : String) (value : Json) : Prop := ∀ check, (key, check) ∈ checks → check value = true

/-- What a record keeps, whatever a handler does to it. -/
structure Shape (nodeId : String) (node : Fields) : Prop where
  own : node.get? "node_id" = some (.str nodeId)
  required : ∀ key ∈ requiredFields, (node.get? key).isSome
  admits : ∀ key value, node.get? key = some value → Admits key value
  log : ∃ log next, Log node log next

variable {nodeId key : String} {check : Json → Bool} {value : Json}

theorem Shape.get? (h : Shape nodeId node) (hc : (key, check) ∈ checks) (hvalue : node.get? key = some value) :
    check value = true :=
  h.admits key value hvalue check hc

theorem Shape.valueOf (h : Shape nodeId node) (hc : (key, check) ∈ checks) (hmissing : key ∈ requiredFields ∨ check .null = true) :
    check (valueOf node key) = true := by
  cases hvalue : node.get? key with
  | some value =>
    rw [NodeState.valueOf, hvalue]
    exact h.get? hc hvalue
  | none =>
    rw [NodeState.valueOf, hvalue]
    refine hmissing.resolve_left fun hrequired => ?_
    have hsome := h.required key hrequired
    rw [hvalue] at hsome
    cases hsome

theorem mem_checks_of_flag (h : key ∈ flagFields) : (key, isBool) ∈ checks :=
  List.mem_append_left _ (List.mem_append_right _ (List.mem_map_of_mem h))

theorem mem_checks_of_measure (h : key ∈ measureFields) : (key, nullOr (finiteNumber (some 0))) ∈ checks :=
  List.mem_append_right _ (List.mem_map_of_mem h)

theorem Shape.all (h : Shape nodeId node) (hc : (key, check) ∈ checks) : (node.get? key).all check = true := by
  cases hvalue : node.get? key with
  | none => rfl
  | some value => exact h.get? hc hvalue

/-- The checks of a Node ask for no more than its shape. -/
theorem validateNode_ok (h : Shape nodeId node) : validateNode nodeId node = .ok () := by
  obtain ⟨log, next, hlog⟩ := h.log
  have hown : sameText (.str nodeId) (NodeState.valueOf node "node_id") = true := by
    rw [NodeState.valueOf, h.own]
    exact decide_eq_true rfl
  have hevents : validateNodeEvents (NodeState.valueOf node "events") = .ok () := by
    rw [NodeState.valueOf, hlog.events]
    refine validateEvents_log hlog.increasing fun e he => ?_
    obtain ⟨hone, -, htype⟩ := hlog.recorded e he
    exact ⟨hone, by omega, htype⟩
  have hnext : validateNextSequence node = .ok () := by
    have hpositive : requireNonnegativeInt (.int next) "event sequence" 1 = .ok next := if_neg (not_lt.mpr hlog.positive)
    simp only [validateNextSequence, hlog.upcoming]
    refine bind_eq_ok.mpr ⟨next, hpositive, raiseIf_eq_ok.mpr fun hany => ?_⟩
    obtain ⟨n, hn, hle⟩ := (Option.any_eq_true _ _).mp hany
    exact absurd (hlog.lastSequence n hn) (not_lt.mpr (of_decide_eq_true hle))
  unfold validateNode
  refine seq_eq_ok.mpr ⟨raiseIf_eq_ok.mpr (by simp [hown]), seq_eq_ok.mpr ⟨forM_eq_ok.mpr fun i hi => ?_, ?_⟩⟩
  · simp only [List.mem_cons, List.not_mem_nil, or_false] at hi
    rcases hi with rfl | rfl | rfl | rfl <;>
      exact require_eq_ok.mpr (h.valueOf (by simp [checks]) (.inl (by simp [requiredFields])))
  refine seq_eq_ok.mpr ⟨require_eq_ok.mpr (h.valueOf (by simp [checks]) (.inl (by simp [requiredFields]))), ?_⟩
  refine seq_eq_ok.mpr ⟨require_eq_ok.mpr (h.valueOf (by simp [checks]) (.inl (by simp [requiredFields]))), ?_⟩
  refine seq_eq_ok.mpr ⟨require_eq_ok.mpr (h.valueOf (by simp [checks]) (.inl (by simp [requiredFields]))), ?_⟩
  refine seq_eq_ok.mpr ⟨require_eq_ok.mpr (h.all (by simp [checks])), ?_⟩
  refine seq_eq_ok.mpr ⟨require_eq_ok.mpr (h.valueOf (by simp [checks]) (.inr rfl)), ?_⟩
  refine seq_eq_ok.mpr ⟨require_eq_ok.mpr (h.valueOf (by simp [checks]) (.inl (by simp [requiredFields]))), ?_⟩
  refine seq_eq_ok.mpr ⟨require_eq_ok.mpr (h.valueOf (by simp [checks]) (.inl (by simp [requiredFields]))), ?_⟩
  refine seq_eq_ok.mpr ⟨require_eq_ok.mpr (h.valueOf (by simp [checks]) (.inr rfl)), ?_⟩
  refine seq_eq_ok.mpr ⟨forM_eq_ok.mpr fun key hkey => require_eq_ok.mpr (h.all (mem_checks_of_flag hkey)), ?_⟩
  refine seq_eq_ok.mpr
    ⟨forM_eq_ok.mpr fun key hkey => require_eq_ok.mpr (h.valueOf (mem_checks_of_measure hkey) (.inr rfl)), ?_⟩
  refine seq_eq_ok.mpr ⟨hevents, seq_eq_ok.mpr ⟨hnext, seq_eq_ok.mpr ⟨?_, seq_eq_ok.mpr ⟨?_, ?_⟩⟩⟩⟩
  · exact of_decide_eq_true (h.valueOf (show ("ingest", observes ingestRules) ∈ checks by simp [checks]) (.inr rfl))
  · exact of_decide_eq_true (h.valueOf (show ("egress", observes egressRules) ∈ checks by simp [checks]) (.inr rfl))
  · exact of_decide_eq_true (h.valueOf (show ("relay_client", observes relayClientRules) ∈ checks by simp [checks]) (.inr rfl))

/-! ### Changes of a Node -/

/-- The sequence number of the next event of a Node. -/
def nextOf (node : Fields) : ℤ := intOf (valueOf node "next_event_seq")

/-- Every number of the record has a finite float. -/
def Finite (node : Fields) : Prop := ∀ key value, node.get? key = some value → value.finiteTree = true

/-- The fields that only a new Node and its events set. -/
def ownFields : List String := ["node_id", "events", "next_event_seq"]

/-- A record with other values of the given fields and so many more events. Its numbers are finite if what was added `fits`. -/
structure Revised (nodeId : String) (keys : List String) (count : ℕ) (fits : Prop) (node node' : Fields) : Prop where
  frame : ∀ key, key ∉ keys → node'.get? key = node.get? key
  shape : Shape nodeId node'
  next : nextOf node' = nextOf node + count
  finite : fits → Finite node → Finite node'

namespace Revised
variable {node'' : Fields} {keys keys' : List String} {count count' : ℕ} {fits fits' : Prop}

theorem refl (h : Shape nodeId node) : Revised nodeId keys 0 fits node node :=
  ⟨fun _ _ => rfl, h, (Int.add_zero _).symm, fun _ hfinite => hfinite⟩

theorem trans (h : Revised nodeId keys count fits node node') (h' : Revised nodeId keys' count' fits' node' node'') :
    Revised nodeId (keys ++ keys') (count + count') (fits ∧ fits') node node'' where
  frame key hkey := by
    rw [List.mem_append, not_or] at hkey
    exact (h'.frame key hkey.2).trans (h.frame key hkey.1)
  shape := h'.shape
  next := by
    rw [h'.next, h.next]
    push_cast
    omega
  finite hfits hfinite := h'.finite hfits.2 (h.finite hfits.1 hfinite)

theorem mono (h : Revised nodeId keys count fits node node') (hkeys : keys ⊆ keys') (hfits : fits' → fits) :
    Revised nodeId keys' count fits' node node' where
  frame key hkey := h.frame key fun hmem => hkey (hkeys hmem)
  shape := h.shape
  next := h.next
  finite hfits' hfinite := h.finite (hfits hfits') hfinite

theorem valueOf (h : Revised nodeId keys count fits node node') (hkey : key ∉ keys) :
    NodeState.valueOf node' key = NodeState.valueOf node key := by
  rw [NodeState.valueOf, NodeState.valueOf, h.frame key hkey]

end Revised

theorem Log.congr (h : Log node log next) (hevents : node'.get? "events" = node.get? "events")
    (hnext : node'.get? "next_event_seq" = node.get? "next_event_seq") : Log node' log next :=
  { h with events := hevents.trans h.events, upcoming := hnext.trans h.upcoming }

theorem nextOf_congr (h : node'.get? "next_event_seq" = node.get? "next_event_seq") : nextOf node' = nextOf node := by
  rw [nextOf, nextOf, valueOf, valueOf, h]

theorem Log.nextOf (h : Log node log next) : nextOf node = next := by
  rw [NodeState.nextOf, valueOf, h.upcoming]
  rfl

theorem ne_of_notMem_ownFields (h : key ∉ ownFields) : "node_id" ≠ key ∧ "events" ≠ key ∧ "next_event_seq" ≠ key := by
  simp only [ownFields, List.mem_cons, List.not_mem_nil, or_false, not_or] at h
  exact ⟨Ne.symm h.1, Ne.symm h.2.1, Ne.symm h.2.2⟩

/-- `node[key] = value`. -/
theorem revised_set (h : Shape nodeId node) (key : String) (value : Json) (hkey : key ∉ ownFields)
    (hadmits : Admits key value) :
    Revised nodeId [key] 0 (value.finiteTree = true) node (node.set key value) := by
  obtain ⟨hid, hevents, hnext⟩ := ne_of_notMem_ownFields hkey
  have hget : ∀ {k w}, (node.set key value).get? k = some w → k = key ∧ w = value ∨ node.get? k = some w := by
    intro k w hw
    by_cases hk : k = key
    · subst hk
      rw [Dict.get?_set_self] at hw
      exact .inl ⟨rfl, (Option.some.inj hw).symm⟩
    · rw [Dict.get?_set_ne hk] at hw
      exact .inr hw
  refine ⟨fun k hk => Dict.get?_set_ne (List.ne_of_not_mem_cons hk), ?_, ?_, fun hvalue hfinite k w hw => ?_⟩
  · obtain ⟨log, next, hlog⟩ := h.log
    refine ⟨(Dict.get?_set_ne hid).trans h.own, fun k hk => ?_, fun k w hw => ?_,
      log, next, hlog.congr (Dict.get?_set_ne hevents) (Dict.get?_set_ne hnext)⟩
    · by_cases hsame : k = key
      · rw [hsame, Dict.get?_set_self]
        rfl
      · rw [Dict.get?_set_ne hsame]
        exact h.required k hk
    · rcases hget hw with ⟨rfl, rfl⟩ | hw
      · exact hadmits
      · exact h.admits k w hw
  · rw [nextOf_congr (Dict.get?_set_ne hnext)]
    exact (Int.add_zero _).symm
  · rcases hget hw with ⟨-, rfl⟩ | hw
    · exact hvalue
    · exact hfinite k w hw

/-- `node.pop(key, None)`. -/
theorem revised_erase (h : Shape nodeId node) (key : String) (hkey : key ∉ ownFields) (hrequired : key ∉ requiredFields) :
    Revised nodeId [key] 0 True node (node.erase key) := by
  obtain ⟨hid, hevents, hnext⟩ := ne_of_notMem_ownFields hkey
  have hget : ∀ {k w}, (node.erase key).get? k = some w → node.get? k = some w := by
    intro k w hw
    by_cases hk : k = key
    · rw [hk, Dict.get?_erase_self] at hw
      cases hw
    · rwa [Dict.get?_erase_ne hk] at hw
  refine ⟨fun k hk => Dict.get?_erase_ne (List.ne_of_not_mem_cons hk), ?_, ?_, fun _ hfinite k w hw => hfinite k w (hget hw)⟩
  · obtain ⟨log, next, hlog⟩ := h.log
    refine ⟨(Dict.get?_erase_ne hid).trans h.own, fun k hk => ?_, fun k w hw => h.admits k w (hget hw),
      log, next, hlog.congr (Dict.get?_erase_ne hevents) (Dict.get?_erase_ne hnext)⟩
    have hne : k ≠ key := ne_of_mem_of_not_mem hk hrequired
    rw [Dict.get?_erase_ne hne]
    exact h.required k hk
  · rw [nextOf_congr (Dict.get?_erase_ne hnext)]
    exact (Int.add_zero _).symm

theorem admits_of_ownField (h : key ∈ ownFields) (value : Json) : Admits key value := by
  intro check hcheck
  simp only [ownFields, List.mem_cons, List.not_mem_nil, or_false] at h
  rcases h with rfl | rfl | rfl <;> simp [checks, flagFields, measureFields] at hcheck

theorem eventsOf_log (h : Log node log next) : eventsOf node = log.map LoggedEvent.json := by
  rw [eventsOf, h.events]

theorem nextSequence_log (h : Log node log next) (events : List Json) : nextSequence node events = next := by
  rw [nextSequence, h.upcoming]
  rfl

/-- The log after the events of `appendEvents`. -/
theorem Log.append (h : Log node log next) (payload : List (String × Json)) (occurredAt : Timestamp)
    (htypes : ∀ t ∈ eventTypes, t ≠ "") :
    Log (appendEvents node eventTypes (.obj payload) occurredAt)
      (lastItems 100 (log ++ newLog next occurredAt payload eventTypes)) (next + eventTypes.length) := by
  have hpositive := h.positive
  have hmem : ∀ e ∈ log ++ newLog next occurredAt payload eventTypes,
      1 ≤ e.sequence ∧ e.sequence < next + eventTypes.length ∧ e.type ≠ "" := by
    intro e he
    rcases List.mem_append.mp he with he | he
    · obtain ⟨hone, hlt, htype⟩ := h.recorded e he
      exact ⟨hone, by omega, htype⟩
    · obtain ⟨hle, hlt, htype⟩ := mem_newLog he
      exact ⟨by omega, hlt, htypes _ htype⟩
  have hincreasing : ((log ++ newLog next occurredAt payload eventTypes).map (·.sequence)).Pairwise (· < ·) := by
    rw [List.map_append, List.pairwise_append]
    refine ⟨h.increasing, newLog_increasing, fun a ha b hb => ?_⟩
    obtain ⟨e, he, rfl⟩ := List.mem_map.mp ha
    obtain ⟨e', he', rfl⟩ := List.mem_map.mp hb
    exact lt_of_lt_of_le (h.recorded e he).2.1 (mem_newLog he').1
  have hsub := lastItems_sublist 100 (log ++ newLog next occurredAt payload eventTypes)
  simp only [appendEvents, eventsOf_log h, nextSequence_log h, newEvents_eq, ← List.map_append, lastItems_map]
  refine ⟨?_, Dict.get?_set_self, hincreasing.sublist (hsub.map _), fun e he => hmem e (hsub.subset he),
    length_lastItems (by decide) _, by omega⟩
  rw [Dict.get?_set_ne (by decide), Dict.get?_set_self]

/-- An event has a finite float for every number when its sequence number and its payload do. -/
theorem finiteTree_event {e : LoggedEvent} (hsequence : e.sequence.natAbs < floatOverflow)
    (hpayload : (Json.obj e.payload).finiteTree = true) : e.json.finiteTree = true := by
  rw [LoggedEvent.json, event, finiteTree_obj]
  simp only [List.mem_cons, List.not_mem_nil, or_false, forall_eq_or_imp, forall_eq]
  exact ⟨finiteTree_int.mpr hsequence, rfl, rfl, hpayload⟩

/-- `appendEvents`, of events with names. -/
theorem revised_append (h : Shape nodeId node) (payload : List (String × Json)) (occurredAt : Timestamp)
    (htypes : ∀ t ∈ eventTypes, t ≠ "") :
    Revised nodeId ["events", "next_event_seq"] eventTypes.length
      (nextOf node + eventTypes.length < floatOverflow ∧ (Json.obj payload).finiteTree = true)
      node (appendEvents node eventTypes (.obj payload) occurredAt) := by
  obtain ⟨log, next, hlog⟩ := h.log
  have hlog' := hlog.append payload occurredAt htypes
  have hframe : ∀ k ∉ ["events", "next_event_seq"],
      (appendEvents node eventTypes (.obj payload) occurredAt).get? k = node.get? k := by
    intro k hk
    simp only [List.mem_cons, List.not_mem_nil, or_false, not_or] at hk
    rw [appendEvents, Dict.get?_set_ne hk.2, Dict.get?_set_ne hk.1]
  have hpositive := hlog.positive
  refine ⟨hframe, ⟨?_, fun k hk => ?_, fun k w hw => ?_, _, _, hlog'⟩, ?_, fun ⟨hnext, hpayload⟩ hfinite k w hw => ?_⟩
  · rw [hframe "node_id" (by decide)]
    exact h.own
  · have hlogged : ∀ k ∈ requiredFields, k ∉ ["events", "next_event_seq"] := by decide
    rw [hframe k (hlogged k hk)]
    exact h.required k hk
  · by_cases hk : k ∈ ["events", "next_event_seq"]
    · exact admits_of_ownField (List.mem_cons_of_mem _ hk) w
    · rw [hframe k hk] at hw
      exact h.admits k w hw
  · rw [hlog'.nextOf, hlog.nextOf]
  · rw [hlog.nextOf] at hnext
    by_cases hk : k ∈ ["events", "next_event_seq"]
    · simp only [List.mem_cons, List.not_mem_nil, or_false] at hk
      rcases hk with rfl | rfl
      · obtain rfl := Option.some.inj (hlog'.events.symm.trans hw)
        refine finiteTree_arr.mpr fun v hv => ?_
        obtain ⟨e, he, rfl⟩ := List.mem_map.mp hv
        rcases List.mem_append.mp ((lastItems_sublist _ _).subset he) with he | he
        · exact finiteTree_arr.mp (hfinite _ _ hlog.events) _ (List.mem_map_of_mem he)
        · obtain ⟨hle, hlt, -⟩ := mem_newLog he
          exact finiteTree_event (by omega) (mem_newLog_payload he ▸ hpayload)
      · obtain rfl := Option.some.inj (hlog'.upcoming.symm.trans hw)
        exact finiteTree_int.mpr (by omega)
    · rw [hframe k hk] at hw
      exact hfinite k w hw

end NodeState
end IRLight
