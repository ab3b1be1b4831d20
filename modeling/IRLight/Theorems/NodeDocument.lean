import IRLight.ControlPlane.NodeReports
import IRLight.ControlPlane.Registry

/-! # Documents that pass their own checks

Runs of bootstraps, heartbeats and stops on the files of the Node authority, with I/O errors at any write. -/

namespace IRLight.NodeState
open Json
open Egress (truthy)

/-! ### The shape of a document -/

/-- What a document keeps, whatever a handler does to it. -/
structure Document.Shape (d : Document) : Prop where
  nodes : ∀ id node, d.nodes.get? id = some node → NodeState.Shape id node
  sequence : 1 ≤ d.nextNodeSeq
  issued : ∀ id node, d.nodes.get? id = some node → (NodeAuthority.issuedSequence id : ℤ) < d.nextNodeSeq
  tokens : ∀ digest record, d.tokens.get? digest = some record → validateToken (some d.nodes) digest record = .ok ()

variable {d : Document} {node node' record : Fields} {nodeId digest key : String} {nodes nodes' tokens fuse : Dict String Fields}

theorem finite_iff : (obj node.items).finiteTree = true ↔ Finite node := by
  rw [finiteTree_obj]
  constructor
  · intro h key value hvalue
    exact h (key, value) (Dict.get?_eq_some.mp hvalue)
  · rintro h ⟨key, value⟩ hi
    exact h key value (Dict.get?_eq_some.mpr hi)

/-- The numbers of a document. -/
theorem finiteTree_document : d.json.finiteTree = true ↔ d.nextNodeSeq.natAbs < floatOverflow ∧
    (∀ id node, d.nodes.get? id = some node → Finite node) ∧
      ∀ digest record, d.tokens.get? digest = some record → Finite record := by
  have hrecords : ∀ records : Dict String Fields,
      (obj (records.items.map fun i => (i.1, obj i.2.items))).finiteTree = true ↔
        ∀ key record, records.get? key = some record → Finite record := by
    intro records
    rw [finiteTree_obj, List.forall_mem_map]
    constructor
    · intro h key record hrecord
      exact finite_iff.mp (h (key, record) (Dict.get?_eq_some.mp hrecord))
    · rintro h ⟨key, record⟩ hi
      exact finite_iff.mpr (h key record (Dict.get?_eq_some.mpr hi))
  rw [Document.json, finiteTree_obj, ← hrecords, ← hrecords, ← finiteTree_int]
  simp only [List.forall_mem_cons, List.not_mem_nil, false_imp_iff, implies_true, and_true]
  exact and_left_comm

theorem validateTokens_eq_ok {nodes : Option (Dict String Fields)} : validateTokens nodes tokens = .ok () ↔
    ∀ digest record, tokens.get? digest = some record → validateToken nodes digest record = .ok () := by
  rw [validateTokens, forM_eq_ok]
  constructor
  · intro h digest record hrecord
    exact h (digest, record) (Dict.get?_eq_some.mp hrecord)
  · rintro h ⟨digest, record⟩ hi
    exact h digest record (Dict.get?_eq_some.mpr hi)

theorem foldl_max_lt {ids : List String} {bound : ℤ} {highest : ℕ} (hhighest : (highest : ℤ) < bound)
    (h : ∀ id ∈ ids, (NodeAuthority.issuedSequence id : ℤ) < bound) :
    ((ids.foldl (fun highest id => max highest (NodeAuthority.issuedSequence id)) highest : ℕ) : ℤ) < bound := by
  induction ids generalizing highest with
  | nil => exact hhighest
  | cons id ids ih =>
    obtain ⟨hid, hids⟩ := List.forall_mem_cons.mp h
    refine ih ?_ hids
    change ((max highest (NodeAuthority.issuedSequence id) : ℕ) : ℤ) < bound
    omega

/-- The checks accept a document of this shape exactly when every number of it has a finite float. -/
theorem validateNodeAuthority_eq_ok (h : d.Shape) : validateNodeAuthority d = .ok () ↔ d.json.finiteTree = true := by
  have hsequence : requireNonnegativeInt (.int d.nextNodeSeq) "sequence" 1 = .ok d.nextNodeSeq := if_neg (not_lt.mpr h.sequence)
  have hhighest : ¬d.nextNodeSeq ≤ highestIssuedSequence d := by
    rw [not_le]
    refine foldl_max_lt (by have := h.sequence; omega) fun id hid => ?_
    obtain ⟨⟨id, node⟩, hi, rfl⟩ := List.mem_map.mp hid
    exact h.issued id node (Dict.get?_eq_some.mpr hi)
  rw [validateNodeAuthority, seq_eq_ok, validateTokens_eq_ok, validateNodes, seq_eq_ok, rejectNonfiniteTree_eq_ok]
  constructor
  · exact fun hvalid => hvalid.1.1
  · intro hfinite
    refine ⟨⟨hfinite, bind_eq_ok.mpr ⟨_, hsequence, seq_eq_ok.mpr ⟨forM_eq_ok.mpr ?_, raiseIf_eq_ok.mpr hhighest⟩⟩⟩, h.tokens⟩
    rintro ⟨id, node⟩ hi
    exact validateNode_ok (h.nodes id node (Dict.get?_eq_some.mpr hi))

/-! ### Changing a Node -/

/-- The fields by which a consumed token knows its Node. -/
def bindingFields : List String := ["session_id", "provider_server_id", "boot_id", "access_token_sha256"]

/-- A token stays valid while the Nodes that it may name stay the same ones. -/
theorem validateToken_mono (h : ∀ id node, nodes.get? id = some node →
      ∃ node', nodes'.get? id = some node' ∧ ∀ key ∈ bindingFields, valueOf node' key = valueOf node key)
    (hvalid : validateToken (some nodes) digest record = .ok ()) : validateToken (some nodes') digest record = .ok () := by
  have hreference : validateReference nodes record = .ok () → validateReference nodes' record = .ok () := by
    intro hvalid
    unfold validateReference at hvalid ⊢
    split at hvalid
    · rename_i id _
      cases hnode : nodes.get? id with
      | none =>
        rw [hnode] at hvalid
        cases hvalid
      | some node =>
        obtain ⟨node', hnode', hsame⟩ := h id node hnode
        simp only [bindingFields, List.forall_mem_cons] at hsame
        obtain ⟨hsession, hserver, hboot, haccess, -⟩ := hsame
        simp only [hnode, hnode', raiseIf_eq_ok] at hvalid ⊢
        simpa [hsession, hserver, hboot, haccess] using hvalid
    · cases hvalid
  unfold validateToken at hvalid ⊢
  simp only [seq_eq_ok] at hvalid ⊢
  refine ⟨hvalid.1, hvalid.2.1, hvalid.2.2.1, hvalid.2.2.2.1, hvalid.2.2.2.2.1, ?_⟩
  have hattempt := hvalid.2.2.2.2.2
  split at hattempt
  · rename_i hnone
    rw [if_pos hnone]
  · rename_i hsome
    rw [if_neg hsome]
    simp only [validateAttempt, seq_eq_ok] at hattempt ⊢
    exact ⟨hattempt.1, hattempt.2.1, hreference hattempt.2.2⟩

/-- A Node of the document in its new shape. -/
theorem Document.Shape.withNode {keys : List String} {count : ℕ} {fits : Prop} (h : d.Shape)
    (hnode : d.nodes.get? nodeId = some node) (hrevised : Revised nodeId keys count fits node node')
    (hkeys : ∀ key ∈ bindingFields, key ∉ keys) : (d.withNode nodeId node').Shape where
  nodes id n hn := by
    by_cases hid : id = nodeId
    · subst hid
      rw [Document.withNode, Dict.get?_set_self] at hn
      exact Option.some.inj hn ▸ hrevised.shape
    · rw [Document.withNode, Dict.get?_set_ne hid] at hn
      exact h.nodes id n hn
  sequence := h.sequence
  issued id n hn := by
    by_cases hid : id = nodeId
    · exact hid ▸ h.issued nodeId node hnode
    · rw [Document.withNode, Dict.get?_set_ne hid] at hn
      exact h.issued id n hn
  tokens digest record hrecord := by
    refine validateToken_mono (fun id n hn => ?_) (h.tokens digest record hrecord)
    by_cases hid : id = nodeId
    · subst hid
      obtain rfl := Option.some.inj (hnode.symm.trans hn)
      exact ⟨node', Dict.get?_set_self, fun key hkey => hrevised.valueOf (hkeys key hkey)⟩
    · exact ⟨n, (Dict.get?_set_ne hid).trans hn, fun _ _ => rfl⟩

/-- The numbers of a document in which one Node has changed. -/
theorem finiteTree_withNode (hfinite : d.json.finiteTree = true) :
    (d.withNode nodeId node').json.finiteTree = true ↔ Finite node' := by
  obtain ⟨hsequence, hnodes, htokens⟩ := finiteTree_document.mp hfinite
  rw [finiteTree_document]
  constructor
  · intro h
    exact h.2.1 nodeId node' Dict.get?_set_self
  · intro h
    refine ⟨hsequence, fun id n hn => ?_, htokens⟩
    by_cases hid : id = nodeId
    · subst hid
      rw [Document.withNode, Dict.get?_set_self] at hn
      exact Option.some.inj hn ▸ h
    · rw [Document.withNode, Dict.get?_set_ne hid] at hn
      exact hnodes id n hn

/-! ### What the handlers build -/

/-- The condition under which the document of a call passes its checks: the integers that the schema leaves unbounded, and
the next sequence numbers, have floats. -/
def Call.Fits (d : Document) : Call → Prop
  | .bootstrap .. => d.nextNodeSeq + 1 < floatOverflow
  | .heartbeat nodeId request _ _ =>
    Representable request.integers ∧
      ∀ node, d.nodes.get? nodeId = some node → nextOf node + newEventCount node request < floatOverflow
  | .stop _ => True

theorem findNode_eq_ok : findNode d nodeId = .ok node ↔ d.nodes.get? nodeId = some node := by
  unfold findNode
  cases d.nodes.get? nodeId <;> simp

/-- A heartbeat keeps the shape of the document, and its numbers fit. -/
theorem heartbeat_builds {d' : Document} {request : HeartbeatRequest} {authorization : NodeApi.Authorization}
    {answers : HeartbeatAnswers} (h : d.Shape) (hfinite : d.json.finiteTree = true)
    (hbuilt : heartbeat d nodeId request authorization answers = .ok d') :
    d'.Shape ∧ d'.nextNodeSeq = d.nextNodeSeq ∧
      (d'.json.finiteTree = true ↔ Representable request.integers ∧
        ∀ node, d.nodes.get? nodeId = some node → nextOf node + newEventCount node request < floatOverflow) := by
  obtain ⟨node, hfound, hbuilt⟩ := bind_eq_ok.mp hbuilt
  obtain ⟨-, hbuilt⟩ := seq_eq_ok.mp hbuilt
  obtain ⟨observedAt, -, hbuilt⟩ := bind_eq_ok.mp hbuilt
  obtain ⟨node', hbeat, hbuilt⟩ := bind_eq_ok.mp hbuilt
  obtain rfl := pure_eq_ok.mp hbuilt
  have hnode := findNode_eq_ok.mp hfound
  obtain ⟨hrevised, hingest, hegress, hrelay⟩ := heartbeatNode_revised (h.nodes nodeId node hnode) hbeat
  refine ⟨h.withNode hnode hrevised (by decide), rfl, ?_⟩
  rw [finiteTree_withNode hfinite]
  constructor
  · intro hfits
    refine ⟨representable_integers.mpr ⟨fun o ho => hfits _ _ (hingest o ho), fun o ho => hfits _ _ (hegress o ho),
      fun o ho => hfits _ _ (hrelay o ho)⟩, fun n hn => ?_⟩
    obtain rfl := Option.some.inj (hnode.symm.trans hn)
    obtain ⟨log, next, hlog⟩ := hrevised.shape.log
    have hsmall := finiteTree_int.mp (hfits _ _ hlog.upcoming)
    have hnext := hrevised.next
    rw [hlog.nextOf] at hnext
    omega
  · rintro ⟨hintegers, hsmall⟩
    exact hrevised.finite ⟨hintegers, hsmall node hnode⟩ ((finiteTree_document.mp hfinite).2.1 nodeId node hnode)

/-- A stop keeps the shape of the document, and its numbers fit. -/
theorem stopNode_builds {d' : Document} (h : d.Shape) (hfinite : d.json.finiteTree = true)
    (hbuilt : stopNode d nodeId = .ok d') :
    d'.Shape ∧ d'.nextNodeSeq = d.nextNodeSeq ∧ d'.json.finiteTree = true := by
  obtain ⟨node, hfound, hbuilt⟩ := bind_eq_ok.mp hbuilt
  obtain rfl := pure_eq_ok.mp hbuilt
  have hnode := findNode_eq_ok.mp hfound
  have hstopped := revised_set (h.nodes nodeId node hnode) "desired_state" _ (by decide)
    (admits_desiredState "STOPPED" (by decide))
  have hstopping := hstopped.trans (revised_set hstopped.shape "status" _ (by decide)
    (admits_status ⟨"STOPPING", by decide⟩))
  refine ⟨h.withNode hnode hstopping (by decide), rfl, (finiteTree_withNode hfinite).mpr ?_⟩
  exact hstopping.finite ⟨rfl, rfl⟩ ((finiteTree_document.mp hfinite).2.1 nodeId node hnode)

theorem nonemptyString_text {lo hi : ℕ} (hlo : 0 < lo) (text : Text lo hi) : nonemptyString text.json = true := by
  refine decide_eq_true fun hempty => ?_
  have hlength := text.2.1
  rw [hempty] at hlength
  exact absurd hlength (not_le.mpr hlo)

theorem nonemptyString_name (name : Name) : nonemptyString (.str name.1) = true := decide_eq_true name.2

theorem admits_name (h : key ∈ ["session_id", "provider_server_id", "boot_id", "agent_version"]) {value : Json}
    (hvalue : nonemptyString value = true) : Admits key value := by
  refine admits_of_unique nonemptyString (fun check' hcheck' => ?_) hvalue
  simp only [List.mem_cons, List.not_mem_nil, or_false] at h
  rcases h with rfl | rfl | rfl | rfl <;> simpa [checks, flagFields, measureFields] using hcheck'

theorem admits_time (h : key ∈ ["absolute_deadline", "created_at"]) (t : Timestamp) : Admits key (.float (.finite t)) := by
  refine admits_of_unique (finiteNumber (some 0)) (fun check' hcheck' => ?_) (finiteNumber_timestamp t)
  simp only [List.mem_cons, List.not_mem_nil, or_false] at h
  rcases h with rfl | rfl <;> simpa [checks, flagFields, measureFields] using hcheck'

theorem admits_destination (destination : Option Name) :
    Admits "destination_id" (.ofOption (fun name : Name => .str name.1) destination) :=
  admits_of_unique (nullOr nonemptyString) (by simp [checks, flagFields, measureFields])
    (nullOr_ofOption nonemptyString_name destination)

theorem admits_egressMode (relayOnly : Bool) :
    Admits "egress_mode" (.str (if relayOnly then "RELAY_ONLY" else "DIRECT_PUSH")) :=
  admits_of_unique (oneOf nodeEgressModes) (by simp [checks, flagFields, measureFields])
    (by cases relayOnly <;> decide)

theorem admits_digest (digest : Sha256) : Admits "access_token_sha256" (.str digest.1) :=
  admits_of_unique isDigest (by simp [checks, flagFields, measureFields]) digest.2

theorem admits_null (h : key ∈ ["last_heartbeat_at", "ingest", "egress", "relay_client"]) : Admits key .null := by
  intro check hcheck
  simp only [List.mem_cons, List.not_mem_nil, or_false] at h
  rcases h with rfl | rfl | rfl | rfl <;>
    · simp [checks, flagFields, measureFields] at hcheck
      subst hcheck
      rfl

/-- The record of a new Node has the shape. -/
theorem newNode_shape (id sessionId : Name) (session : Option AssignedSession) (request : BootstrapRequest)
    (deadline bootstrapAt : Timestamp) : Shape id.1 (newNode id sessionId session request deadline bootstrapAt) := by
  have hitems : ∀ i ∈ (newNode id sessionId session request deadline bootstrapAt).items, Admits i.1 i.2 := by
    simp only [newNode, List.forall_mem_cons]
    exact ⟨admits_of_free (by decide) _, admits_name (by decide) (nonemptyString_name sessionId),
      admits_flag (by decide) _, admits_destination _, admits_egressMode _,
      admits_name (by decide) (nonemptyString_text (by decide) _), admits_name (by decide) (nonemptyString_text (by decide) _),
      admits_name (by decide) (nonemptyString_text (by decide) _), admits_of_free (by decide) _, admits_of_free (by decide) _,
      admits_status ⟨"BOOTSTRAPPING", by decide⟩, admits_desiredState _ (by decide), admits_time (by decide) _,
      admits_null (by decide), admits_null (by decide), admits_flag (by decide) _, admits_null (by decide),
      admits_flag (by decide) _, admits_null (by decide), admits_flag (by decide) _, admits_of_ownField (by decide) _,
      admits_of_ownField (by decide) _, admits_time (by decide) _, admits_digest _, fun _ h => absurd h List.not_mem_nil⟩
  have hkeys : ∀ key ∈ requiredFields, key ∈ (newNode id sessionId session request deadline bootstrapAt).keys := by
    simp [requiredFields, Dict.keys, newNode]
  have hget : ∀ {key value}, (key, value) ∈ (newNode id sessionId session request deadline bootstrapAt).items →
      (newNode id sessionId session request deadline bootstrapAt).get? key = some value := Dict.get?_eq_some.mpr
  refine ⟨hget (by simp [newNode]), fun key hkey => ?_, fun key value hvalue => hitems _ (Dict.get?_eq_some.mp hvalue), [], 1, ?_⟩
  · obtain ⟨i, hi, rfl⟩ := List.mem_map.mp (hkeys key hkey)
    rw [hget hi]
    rfl
  · exact ⟨hget (by simp [newNode]), hget (by simp [newNode]), .nil, fun e he => absurd he List.not_mem_nil,
      by decide, le_rfl⟩

theorem newNode_finite (id sessionId : Name) (session : Option AssignedSession) (request : BootstrapRequest)
    (deadline bootstrapAt : Timestamp) : Finite (newNode id sessionId session request deadline bootstrapAt) := by
  have haddress : ∀ address : Option (Text 0 200), (ofOption Text.json address).finiteTree = true :=
    finiteTree_ofOption_of_forall finiteTree_text
  have hdestination : ∀ destination : Option Name,
      (ofOption (fun name : Name => .str name.1) destination).finiteTree = true := by
    intro destination
    exact finiteTree_ofOption_of_forall (fun _ => rfl) destination
  have hevents : (arr []).finiteTree = true := rfl
  have hone : (int 1).finiteTree = true := finiteTree_int.mpr (by decide +kernel)
  refine finite_iff.mp (finiteTree_obj.mpr ?_)
  simp [newNode, finiteTree_text, haddress, hdestination, hevents, hone]

/-! ### Consumed tokens -/

theorem validateToken_fuse {nodes : Option (Dict String Fields)} (digest : Sha256) (id sessionId : Name) (consumedAt : Timestamp) :
    validateToken nodes digest.1 (fuseRecord id sessionId consumedAt) = .ok () := by
  have hdigest : isSha256 digest.1 = true := digest.2
  have hid := nonemptyString_name id
  have hsession := nonemptyString_name sessionId
  have htime := finiteNumber_timestamp consumedAt
  simp [validateToken, valueOf, Dict.get?, fuseRecord, canonicalFields, raiseIf, require, requireFiniteNumber, hdigest, hid,
    hsession, htime]
  rfl

theorem fuseRecord_finite (id sessionId : Name) (consumedAt : Timestamp) : Finite (fuseRecord id sessionId consumedAt) := by
  refine finite_iff.mp (finiteTree_obj.mpr ?_)
  simp [fuseRecord]

theorem tokenRecord_finite (id sessionId : Name) (request : BootstrapRequest) (consumedAt : Timestamp) :
    Finite (tokenRecord id sessionId request consumedAt) := by
  refine finite_iff.mp (finiteTree_obj.mpr ?_)
  simp [tokenRecord, finiteTree_text]

/-- The token of a new Node names it. -/
theorem validateToken_new {id sessionId : Name} {session : Option AssignedSession} {request : BootstrapRequest}
    {deadline bootstrapAt : Timestamp} (digest : Sha256)
    (hnode : nodes.get? id.1 = some (newNode id sessionId session request deadline bootstrapAt)) :
    validateToken (some nodes) digest.1 (tokenRecord id sessionId request bootstrapAt) = .ok () := by
  have hdigest : isSha256 digest.1 = true := digest.2
  have haccess : isDigest (.str request.nodeAccessTokenSha256.1) = true := request.nodeAccessTokenSha256.2
  have hid := nonemptyString_name id
  have hsession := nonemptyString_name sessionId
  have hrequest := nonemptyString_text (by decide) request.bootstrapRequestId
  have hserver := nonemptyString_text (by decide) request.providerServerId
  have hboot := nonemptyString_text (by decide) request.bootId
  have htime := finiteNumber_timestamp bootstrapAt
  have hsame : ∀ text, sameText (.str text) (.str text) = true := fun text => decide_eq_true rfl
  have hreference : validateReference nodes (tokenRecord id sessionId request bootstrapAt) = .ok () := by
    have hnamed : valueOf (tokenRecord id sessionId request bootstrapAt) "node_id" = .str id.1 := by
      simp [valueOf, Dict.get?, tokenRecord]
    simp only [validateReference, hnamed, hnode, raiseIf_eq_ok]
    simp [valueOf, Dict.get?, tokenRecord, newNode, Text.json, hsame]
  have hattempt : validateAttempt (some nodes) (tokenRecord id sessionId request bootstrapAt) = .ok () := by
    refine seq_eq_ok.mpr ⟨raiseIf_eq_ok.mpr ?_, seq_eq_ok.mpr ⟨raiseIf_eq_ok.mpr ?_, hreference⟩⟩
    · simp [valueOf, Dict.get?, tokenRecord, hrequest, hserver, hboot]
    · simp [valueOf, Dict.get?, tokenRecord, haccess]
  unfold validateToken
  refine seq_eq_ok.mpr ⟨raiseIf_eq_ok.mpr (by simp [hdigest]), seq_eq_ok.mpr ⟨raiseIf_eq_ok.mpr ?_, ?_⟩⟩
  · simp [valueOf, Dict.get?, tokenRecord]
  refine seq_eq_ok.mpr ⟨require_eq_ok.mpr ?_, seq_eq_ok.mpr ⟨raiseIf_eq_ok.mpr ?_, seq_eq_ok.mpr ⟨raiseIf_eq_ok.mpr ?_, ?_⟩⟩⟩
  · simpa [valueOf, Dict.get?, tokenRecord] using htime
  · simp [valueOf, Dict.get?, tokenRecord, hid, hsession]
  · simp [Dict.get?, tokenRecord, canonicalFields]
  · split
    · rfl
    · exact hattempt

theorem issuedSequence_issueNodeId (h : 1 ≤ d.nextNodeSeq) :
    (NodeAuthority.issuedSequence (issueNodeId d).1 : ℤ) = d.nextNodeSeq := by
  rw [issueNodeId, NodeAuthority.issuedSequence_nodeId]
  omega

/-- The id that is issued next is nobody's. -/
theorem Document.Shape.fresh (h : d.Shape) {id : String} (hnode : d.nodes.get? id = some node) : id ≠ (issueNodeId d).1 := by
  rintro rfl
  have hlt := h.issued _ node hnode
  rw [issuedSequence_issueNodeId h.sequence] at hlt
  exact absurd hlt (lt_irrefl _)

/-- A document keeps its shape when a Node of the shape and its token come to it. -/
theorem Document.Shape.register {digest : Sha256} (h : d.Shape) (hnode : NodeState.Shape (issueNodeId d).1 node)
    (htoken : validateToken (some (d.register digest node record).nodes) digest.1 record = .ok ()) :
    (d.register digest node record).Shape where
  nodes id n hn := by
    by_cases hid : id = (issueNodeId d).1
    · subst hid
      rw [Document.register, Dict.get?_set_self] at hn
      exact Option.some.inj hn ▸ hnode
    · rw [Document.register, Dict.get?_set_ne hid] at hn
      exact h.nodes id n hn
  sequence := h.sequence.trans (Int.le_add_one le_rfl)
  issued id n hn := by
    refine Int.lt_add_one_iff.mpr ?_
    by_cases hid : id = (issueNodeId d).1
    · rw [hid, issuedSequence_issueNodeId h.sequence]
    · rw [Document.register, Dict.get?_set_ne hid] at hn
      exact (h.issued id n hn).le
  tokens token r hr := by
    by_cases hdigest : token = digest.1
    · subst hdigest
      rw [Document.register, Dict.get?_set_self] at hr
      exact Option.some.inj hr ▸ htoken
    · rw [Document.register, Dict.get?_set_ne hdigest] at hr
      refine validateToken_mono (fun id n hn => ?_) (h.tokens token r hr)
      exact ⟨n, (Dict.get?_set_ne (h.fresh hn)).trans hn, fun _ _ => rfl⟩

theorem finiteTree_register {digest : Sha256} (h : d.Shape) (hfinite : d.json.finiteTree = true) (hnode : Finite node)
    (htoken : Finite record) :
    (d.register digest node record).json.finiteTree = true ↔ d.nextNodeSeq + 1 < floatOverflow := by
  obtain ⟨-, hnodes, htokens⟩ := finiteTree_document.mp hfinite
  have hpositive := h.sequence
  rw [finiteTree_document]
  constructor
  · rintro ⟨hsmall, -⟩
    change (d.nextNodeSeq + 1).natAbs < _ at hsmall
    omega
  · intro hsmall
    refine ⟨?_, fun id n hn => ?_, fun token r hr => ?_⟩
    · change (d.nextNodeSeq + 1).natAbs < _
      omega
    · by_cases hid : id = (issueNodeId d).1
      · subst hid
        rw [Document.register, Dict.get?_set_self] at hn
        exact Option.some.inj hn ▸ hnode
      · rw [Document.register, Dict.get?_set_ne hid] at hn
        exact hnodes id n hn
    · by_cases hdigest : token = digest.1
      · subst hdigest
        rw [Document.register, Dict.get?_set_self] at hr
        exact Option.some.inj hr ▸ htoken
      · rw [Document.register, Dict.get?_set_ne hdigest] at hr
        exact htokens token r hr

/-- A bootstrap keeps the shape of the document, and its numbers fit. -/
theorem createNode_builds {digest : Sha256} {request : BootstrapRequest} {answers : BootstrapAnswers} {made : Bootstrapped}
    (h : d.Shape) (hfinite : d.json.finiteTree = true) (hbuilt : createNode d digest request answers = .ok made) :
    made.document.Shape ∧ made.document.nextNodeSeq = d.nextNodeSeq + 1 ∧
      (made.document.json.finiteTree = true ↔ d.nextNodeSeq + 1 < floatOverflow) ∧
      ∃ id sessionId consumedAt, made.fuse = fuseRecord id sessionId consumedAt := by
  obtain ⟨bootstrapAt, -, hbuilt⟩ := bind_eq_ok.mp hbuilt
  obtain ⟨configured, -, hbuilt⟩ := bind_eq_ok.mp hbuilt
  obtain ⟨session, -, hbuilt⟩ := bind_eq_ok.mp hbuilt
  obtain ⟨-, hbuilt⟩ := seq_eq_ok.mp hbuilt
  obtain rfl := pure_eq_ok.mp hbuilt
  refine ⟨h.register (newNode_shape _ _ _ _ _ _) (validateToken_new digest Dict.get?_set_self), rfl,
    finiteTree_register h hfinite (newNode_finite _ _ _ _ _ _) (tokenRecord_finite _ _ _ _), _, _, _, rfl⟩

/-! ### The files -/

/-- What the files keep. The ledger of the former build only holds what a bootstrap writes there. -/
structure State.Shape (s : State) : Prop where
  authority : s.authority.Shape
  fuse : ∀ ledger ∈ s.fuse, ∀ digest record, ledger.get? digest = some record →
    isSha256 digest = true ∧ ∃ id sessionId consumedAt, record = fuseRecord id sessionId consumedAt

theorem get?_mergeFuse (h : (mergeFuse tokens fuse).get? digest = some record) :
    tokens.get? digest = some record ∨ fuse.get? digest = some record := by
  have hfold : ∀ (items : List (String × Fields)) (tokens : Dict String Fields),
      (items.foldl (fun tokens i =>
        if !truthy (valueOf i.2 "consumed") || (tokens.get? i.1).any (fun record => truthy (valueOf record "consumed")) then
          tokens
        else tokens.set i.1 i.2) tokens).get? digest = some record →
      tokens.get? digest = some record ∨ (digest, record) ∈ items := by
    intro items
    induction items with
    | nil => exact fun _ h => .inl h
    | cons i items ih =>
      intro tokens h
      rw [List.foldl_cons] at h
      rcases ih _ h with h | h
      · split at h
        · exact .inl h
        · by_cases hdigest : digest = i.1
          · rw [hdigest, Dict.get?_set_self] at h
            refine .inr (List.mem_cons.mpr (.inl ?_))
            rw [hdigest, ← Option.some.inj h]
          · rw [Dict.get?_set_ne hdigest] at h
            exact .inl h
      · exact .inr (List.mem_cons_of_mem _ h)
  rw [Dict.get?_eq_some (d := fuse)]
  exact hfold fuse.items tokens h

/-- What is read keeps its shape, with the numbers of a document that was accepted. -/
theorem readAuthority_shape {s : State} (h : s.Shape) (hread : readAuthority s = .ok d) :
    d.Shape ∧ d.json.finiteTree = true ∧ d.nodes = s.authority.nodes ∧ d.nextNodeSeq = s.authority.nextNodeSeq := by
  obtain ⟨hvalid, hread⟩ := seq_eq_ok.mp hread
  have hfinite := (validateNodeAuthority_eq_ok h.authority).mp hvalid
  cases hfuse : s.fuse with
  | none =>
    rw [hfuse] at hread
    obtain ⟨-, hread⟩ := seq_eq_ok.mp hread
    obtain rfl := pure_eq_ok.mp hread
    exact ⟨h.authority, hfinite, rfl, rfl⟩
  | some ledger =>
    rw [hfuse] at hread
    obtain ⟨-, hread⟩ := seq_eq_ok.mp hread
    obtain rfl := pure_eq_ok.mp hread
    obtain ⟨hsequence, hnodes, htokens⟩ := finiteTree_document.mp hfinite
    refine ⟨⟨h.authority.nodes, h.authority.sequence, h.authority.issued, fun digest record hrecord => ?_⟩,
      finiteTree_document.mpr ⟨hsequence, hnodes, fun digest record hrecord => ?_⟩, rfl, rfl⟩
    · rcases get?_mergeFuse hrecord with hrecord | hrecord
      · exact h.authority.tokens digest record hrecord
      · obtain ⟨hdigest, id, sessionId, consumedAt, rfl⟩ := h.fuse ledger hfuse digest record hrecord
        exact validateToken_fuse ⟨digest, hdigest⟩ id sessionId consumedAt
    · rcases get?_mergeFuse hrecord with hrecord | hrecord
      · exact htokens digest record hrecord
      · obtain ⟨-, id, sessionId, consumedAt, rfl⟩ := h.fuse ledger hfuse digest record hrecord
        exact fuseRecord_finite id sessionId consumedAt

/-- What a handler builds. -/
structure Sound (s : State) (a : Attempt) (built : Built) : Prop where
  document : ∀ d ∈ built.document?, d.Shape ∧ s.authority.nextNodeSeq ≤ d.nextNodeSeq ∧
    (validateNodeAuthority d = .ok () ↔ a.call.Fits s.authority)
  fuse : ∀ digest made, built = .bootstrapped digest made →
    ∃ id sessionId consumedAt, made.fuse = fuseRecord id sessionId consumedAt

theorem build_sound {s : State} {a : Attempt} {built : Built} (h : s.Shape) (hbuilt : a.build s = .ok built) :
    Sound s a built := by
  obtain ⟨-, hbuilt⟩ := seq_eq_ok.mp hbuilt
  obtain ⟨authority, hread, hbuilt⟩ := bind_eq_ok.mp hbuilt
  obtain ⟨hshape, hfinite, hnodes, hsequence⟩ := readAuthority_shape h hread
  cases hcall : a.call with
  | bootstrap digest request answers =>
    rw [hcall] at hbuilt
    obtain ⟨made, hmade, hbuilt⟩ := bind_eq_ok.mp hbuilt
    obtain rfl := pure_eq_ok.mp hbuilt
    unfold bootstrap at hmade
    split at hmade
    · split at hmade
      · obtain ⟨-, -, rfl⟩ := map_eq_ok.mp hmade
        exact ⟨fun d hd => absurd hd (Option.not_mem_none d), fun digest made h => by cases h⟩
      · cases hmade
    · obtain ⟨created, hcreated, rfl⟩ := map_eq_ok.mp hmade
      obtain ⟨hdocument, hnext, hfits, hfuse⟩ := createNode_builds hshape hfinite hcreated
      refine ⟨fun d hd => ?_, fun digest made' hmade' => ?_⟩
      · obtain rfl := Option.some.inj hd
        refine ⟨hdocument, ?_, ?_⟩
        · rw [hnext, hsequence]
          omega
        · rw [validateNodeAuthority_eq_ok hdocument, hfits, hcall, hsequence]
          rfl
      · cases hmade'
        exact hfuse
  | heartbeat nodeId request authorization answers =>
    rw [hcall] at hbuilt
    obtain ⟨d', hmade, rfl⟩ := map_eq_ok.mp hbuilt
    obtain ⟨hdocument, hnext, hfits⟩ := heartbeat_builds hshape hfinite hmade
    refine ⟨fun d hd => ?_, fun digest made h => by cases h⟩
    obtain rfl := Option.some.inj hd
    refine ⟨hdocument, (hnext.trans hsequence).ge, ?_⟩
    rw [validateNodeAuthority_eq_ok hdocument, hfits, hcall, hnodes]
    rfl
  | stop nodeId =>
    rw [hcall] at hbuilt
    obtain ⟨d', hmade, rfl⟩ := map_eq_ok.mp hbuilt
    obtain ⟨hdocument, hnext, hfits⟩ := stopNode_builds hshape hfinite hmade
    refine ⟨fun d hd => ?_, fun digest made h => by cases h⟩
    obtain rfl := Option.some.inj hd
    refine ⟨hdocument, (hnext.trans hsequence).ge, ?_⟩
    rw [validateNodeAuthority_eq_ok hdocument, hcall]
    exact iff_of_true hfits trivial

/-! ### Runs -/

theorem initial_shape : State.initial.Shape where
  authority :=
    { nodes := fun _ _ h => by cases h
      sequence := le_rfl
      issued := fun _ _ h => by cases h
      tokens := fun _ _ h => by cases h }
  fuse := fun _ h => by cases h

theorem writeAuthority_shape {s : State} {fault : Option WriteFault} (h : s.Shape) (hd : d.Shape)
    (hsequence : s.authority.nextNodeSeq ≤ d.nextNodeSeq) :
    (writeAuthority s d fault).1.Shape ∧ s.authority.nextNodeSeq ≤ (writeAuthority s d fault).1.authority.nextNodeSeq := by
  have hwritten : ({ s with authority := d } : State).Shape := ⟨hd, h.fuse⟩
  simp only [writeAuthority]
  cases validateNodeAuthority d with
  | error exc => exact ⟨h, le_rfl⟩
  | ok u =>
    rcases fault with _ | _ | _ | _
    · exact ⟨hwritten, hsequence⟩
    · exact ⟨h, le_rfl⟩
    · exact ⟨h, le_rfl⟩
    · exact ⟨hwritten, hsequence⟩

theorem writeFuse_shape {s : State} (h : s.Shape) (digest : Sha256) (fault : Option WriteFault)
    (hrecord : ∃ id sessionId consumedAt, record = fuseRecord id sessionId consumedAt) :
    (writeFuse s digest record fault).1.Shape ∧ (writeFuse s digest record fault).1.authority = s.authority := by
  have hledger : ∀ ledger ∈ some ((s.fuse.getD .empty).set digest.1 record), ∀ key r, ledger.get? key = some r →
      isSha256 key = true ∧ ∃ id sessionId consumedAt, r = fuseRecord id sessionId consumedAt := by
    intro ledger hledger key r hr
    obtain rfl := Option.some.inj hledger
    by_cases hkey : key = digest.1
    · subst hkey
      rw [Dict.get?_set_self] at hr
      exact ⟨digest.2, Option.some.inj hr ▸ hrecord⟩
    · rw [Dict.get?_set_ne hkey] at hr
      cases hfuse : s.fuse with
      | none =>
        rw [hfuse] at hr
        cases hr
      | some old =>
        rw [hfuse] at hr
        exact h.fuse old hfuse key r hr
  simp only [writeFuse]
  cases validateTokens none ((s.fuse.getD .empty).set digest.1 record) with
  | error exc => exact ⟨h, rfl⟩
  | ok u =>
    rcases fault with _ | _ | _ | _
    · exact ⟨⟨h.authority, hledger⟩, rfl⟩
    · exact ⟨h, rfl⟩
    · exact ⟨⟨h.authority, h.fuse⟩, rfl⟩
    · exact ⟨⟨h.authority, hledger⟩, rfl⟩

theorem step_shape {s : State} (h : s.Shape) (a : Attempt) :
    (step s a).1.Shape ∧ s.authority.nextNodeSeq ≤ (step s a).1.authority.nextNodeSeq := by
  cases hbuilt : a.build s with
  | error exc =>
    simp only [step, hbuilt]
    exact ⟨h, le_rfl⟩
  | ok built =>
    have hsound := build_sound h hbuilt
    cases built with
    | answer =>
      simp only [step, hbuilt]
      exact ⟨h, le_rfl⟩
    | document d =>
      obtain ⟨hd, hsequence, -⟩ := hsound.document d rfl
      simp only [step, hbuilt]
      exact writeAuthority_shape h hd hsequence
    | bootstrapped digest made =>
      obtain ⟨hd, hsequence, -⟩ := hsound.document made.document rfl
      obtain ⟨hfused, hsame⟩ := writeFuse_shape h digest a.fuse (hsound.fuse digest made rfl)
      simp only [step, hbuilt]
      generalize writeFuse s digest made.fuse a.fuse = fused at hfused hsame ⊢
      obtain ⟨s', answer⟩ := fused
      cases answer with
      | error exc => exact ⟨hfused, (congrArg Document.nextNodeSeq hsame).ge⟩
      | ok u =>
        dsimp only at hsame ⊢
        rw [← hsame] at hsequence ⊢
        exact writeAuthority_shape hfused hd hsequence

theorem foldl_shape {s : State} (h : s.Shape) (attempts : List Attempt) :
    (attempts.foldl (fun s a => (step s a).1) s).Shape ∧
      s.authority.nextNodeSeq ≤ (attempts.foldl (fun s a => (step s a).1) s).authority.nextNodeSeq := by
  induction attempts generalizing s with
  | nil => exact ⟨h, le_rfl⟩
  | cons a attempts ih =>
    obtain ⟨hstep, hle⟩ := step_shape h a
    obtain ⟨hrest, hle'⟩ := ih hstep
    exact ⟨hrest, hle.trans hle'⟩

/-- **The Node authority.** After any calls, the document that a further call builds passes its own checks exactly when its
unbounded integers and its next sequence numbers have floats. Every Node has a log of at most a hundred events with
increasing sequence numbers below the next one, and the next Node sequence number exceeds that of every Node id that was
ever written. -/
theorem node_authority (attempts : List Attempt) :
    (∀ (a : Attempt) built d, a.build (run attempts) = .ok built → built.document? = some d →
      (validateNodeAuthority d = .ok () ↔ a.call.Fits (run attempts).authority)) ∧
    (∀ id node, (run attempts).authority.nodes.get? id = some node → ∃ log next, Log node log next) ∧
    ∀ earlier later, attempts = earlier ++ later → ∀ id node, (run earlier).authority.nodes.get? id = some node →
      (NodeAuthority.issuedSequence id : ℤ) < (run attempts).authority.nextNodeSeq := by
  have hshape := (foldl_shape initial_shape attempts).1
  refine ⟨fun a built d hbuilt hd => ((build_sound hshape hbuilt).document d hd).2.2,
    fun id node hnode => (hshape.authority.nodes id node hnode).log, ?_⟩
  rintro earlier later rfl id node hnode
  have hearlier := (foldl_shape initial_shape earlier).1
  have hle := (foldl_shape hearlier later).2
  rw [← List.foldl_append] at hle
  exact (hearlier.authority.issued id node hnode).trans_le hle

/-! ### Sample -/

namespace Sample

def sha256 : Sha256 := ⟨String.ofList (List.replicate 64 '0'), by decide⟩

/-- A server that belongs to no Session bootstraps. -/
def firstBootstrap : Attempt where
  call := .bootstrap sha256
    { providerServerId := ⟨"server", by decide⟩
      bootId := ⟨"boot", by decide⟩
      agentVersion := ⟨"1", by decide⟩
      bootstrapRequestId := ⟨"0123456789abcdef", by decide⟩
      nodeAccessTokenSha256 := sha256
      publicAddress := none
      privateAddress := none }
    { time := .finite 0
      configuredDeadline := some (.finite 0)
      session := .ok none
      uuid := ⟨"session", by decide⟩
      bound := .ok ()
      response := .ok () }
  reading := none
  fuse := none
  authority := none

/-- The egress starts for the given time. -/
def request (attempt : ℕ) : HeartbeatRequest where
  status := ⟨"READY", by decide⟩
  mediaHealth := ⟨"running", by decide⟩
  activePublisher := false
  egressConnected := false
  cpuPercent := none
  memoryMb := none
  softwareVersion := none
  deadlineRemainingSeconds := none
  ingest := none
  egress := some
    { status := ⟨"STARTING", by decide⟩
      connected := false
      attempt := attempt
      reasonCode := none
      renderedBuffers := 0
      nextRetryAt := none
      destinationScheme := none
      destinationHost := none
      observedAt := ⟨0, le_rfl⟩ }
  relayClient := none

def egressHeartbeat (attempt : ℕ) : Attempt where
  call := .heartbeat "node-0001" (request attempt) (.bearer sha256.1)
    { time := .finite 0
      recorded := .ok true
      ingest := .ok ()
      egress := .ok ()
      relayClient := .ok ()
      graceSeconds := .finite 0
      session := .ok none
      transition := .ok ()
      appended := .ok () }
  reading := none
  fuse := none
  authority := none

/-- What the checks say of the document that the call builds. -/
def verdict (attempts : List Attempt) (a : Attempt) : Option (Except Exc Unit) :=
  (a.build (run attempts)).toOption.bind fun built => built.document?.map validateNodeAuthority

theorem verdict_eq_some {attempts : List Attempt} {a : Attempt} {answer : Except Exc Unit}
    (h : verdict attempts a = some answer) :
    ∃ built d, a.build (run attempts) = .ok built ∧ built.document? = some d ∧ validateNodeAuthority d = answer := by
  unfold verdict at h
  cases hbuilt : a.build (run attempts) with
  | error exc =>
    rw [hbuilt] at h
    cases h
  | ok built =>
    rw [hbuilt] at h
    obtain ⟨d, hd, hanswer⟩ := Option.map_eq_some_iff.mp h
    exact ⟨built, d, rfl, hd, hanswer⟩

end Sample

open Sample in
/-- The document of a Node's first heartbeat passes. -/
theorem node_authority_heartbeat : ∃ built d, (egressHeartbeat 1).build (run [firstBootstrap]) = .ok built ∧
    built.document? = some d ∧ validateNodeAuthority d = .ok () := by
  have hverdict : (verdict [firstBootstrap] (egressHeartbeat 1)).isSome = true := by decide +kernel
  obtain ⟨answer, hanswer⟩ := Option.isSome_iff_exists.mp hverdict
  obtain ⟨built, d, hbuilt, hd, -⟩ := verdict_eq_some hanswer
  have hintegers : ∀ n ∈ [(1 : ℤ), 0], n.natAbs < floatOverflow := by decide +kernel
  have hsmall : ((run [firstBootstrap]).authority.nodes.get? "node-0001").all
      (fun node => nextOf node + newEventCount node (request 1) < floatOverflow) = true := by
    decide +kernel
  refine ⟨built, d, hbuilt, hd, ((node_authority [firstBootstrap]).1 _ built d hbuilt hd).mpr ⟨?_, fun node hnode => ?_⟩⟩
  · exact hintegers
  · rw [hnode] at hsmall
    exact of_decide_eq_true hsmall

open Sample in
/-- The schema admits an attempt number that has no float. The document of the heartbeat is refused by its own check. -/
theorem huge_attempt_refused : ∃ attempts, ∃ a : Attempt, ∃ built d, a.build (run attempts) = .ok built ∧
    built.document? = some d ∧
    validateNodeAuthority d = .error (.nodeStateError "Node state has an invalid payload.nodes.node-0001.egress.attempt") := by
  have hverdict : verdict [firstBootstrap] (egressHeartbeat (10 ^ 400)) =
      some (.error (.nodeStateError "Node state has an invalid payload.nodes.node-0001.egress.attempt")) := by
    decide +kernel
  exact ⟨_, _, verdict_eq_some hverdict⟩

end IRLight.NodeState
