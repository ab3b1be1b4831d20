import IRLight.Interleaving.Exclusive
import IRLight.Interleaving.Trace
import IRLight.ControlPlane.Callers
import IRLight.ControlPlane.Discipline

/-! # The Node registry

The requests about Nodes share one exclusive lock, read the registry once and write it at their end. So
what such a request read is still current when it writes, and the registry only grows. -/

namespace IRLight
open Interleaving Status Call

/-! ### A registry and a later one -/

namespace Node

/-- What bootstrap fixes of a Node. -/
def fixed (n : Node) : String × String × Bool × EgressMode × String × String × Timestamp × Timestamp × String :=
  (n.nodeId, n.sessionId, n.sessionAssigned, n.egressMode, n.providerServerId, n.bootId, n.absoluteDeadline, n.createdAt,
    n.accessTokenSha256)

/-- One version of a Node's record and a later one. A Node that was told to stop does not run again. -/
structure Later (n n' : Node) : Prop where
  fixed : n'.fixed = n.fixed
  running : n'.desiredState = .running → n.desiredState = .running

namespace Later
variable {n n' n'' : Node}

theorem refl (n : Node) : n.Later n := ⟨rfl, id⟩

theorem trans (h : n.Later n') (h' : n'.Later n'') : n.Later n'' := ⟨h'.fixed.trans h.fixed, h.running ∘ h'.running⟩

theorem nodeId (h : n.Later n') : n'.nodeId = n.nodeId := congrArg (·.1) h.fixed
theorem sessionId (h : n.Later n') : n'.sessionId = n.sessionId := congrArg (·.2.1) h.fixed
theorem sessionAssigned (h : n.Later n') : n'.sessionAssigned = n.sessionAssigned := congrArg (·.2.2.1) h.fixed
theorem bootId (h : n.Later n') : n'.bootId = n.bootId := congrArg (·.2.2.2.2.2.1) h.fixed
theorem accessTokenSha256 (h : n.Later n') : n'.accessTokenSha256 = n.accessTokenSha256 := congrArg (·.2.2.2.2.2.2.2.2) h.fixed

end Later

theorem appendEvents_later (n : Node) (types : List String) (payload : Json) (occurredAt : Timestamp) :
    n.Later (n.appendEvents types payload occurredAt) := by
  unfold appendEvents
  induction types generalizing n with
  | nil => exact .refl n
  | cons type types ih =>
    rw [List.foldl_cons]
    refine Later.trans ?_ (ih _)
    exact ⟨rfl, id⟩

end Node

namespace NodeAuthority
variable {a a' : NodeAuthority} {fuse : TokenLedger} {digest id : String} {node n n' : Node} {token : TokenRecord}

/-- No Node is gone or has become another, and a token that was consumed stays so, by the same attempt. -/
structure Grows (a a' : NodeAuthority) : Prop where
  sequence : a.nextNodeSeq ≤ a'.nextNodeSeq
  node : ∀ id n, a.nodes.lookup id = some n → ∃ n', a'.nodes.lookup id = some n' ∧ n.Later n'
  token : ∀ digest t, a.tokens.lookup digest = some t →
    ∃ t', a'.tokens.lookup digest = some t' ∧ (t.attempt.isSome → t' = t)

theorem Grows.refl (a : NodeAuthority) : a.Grows a := ⟨le_rfl, fun _ n h => ⟨n, h, .refl n⟩, fun _ t h => ⟨t, h, fun _ => rfl⟩⟩

theorem Grows.trans {a'' : NodeAuthority} (h : a.Grows a') (h' : a'.Grows a'') : a.Grows a'' where
  sequence := h.sequence.trans h'.sequence
  node id n hn := by
    obtain ⟨n', hn', hl⟩ := h.node id n hn
    obtain ⟨n'', hn'', hl'⟩ := h'.node id n' hn'
    exact ⟨n'', hn'', hl.trans hl'⟩
  token digest t ht := by
    obtain ⟨t', ht', hsame⟩ := h.token digest t ht
    obtain ⟨t'', ht'', hsame'⟩ := h'.token digest t' ht'
    refine ⟨t'', ht'', fun hsome => ?_⟩
    obtain rfl := hsame hsome
    exact hsame' hsome

/-- A token that was consumed with an attempt keeps its record. -/
theorem Grows.consumed (h : a.Grows a') (ht : a.tokens.lookup digest = some token) (hsome : token.attempt.isSome) :
    a'.tokens.lookup digest = some token := by
  obtain ⟨t', ht', hsame⟩ := h.token digest token ht
  rwa [hsame hsome] at ht'

theorem withFuse_grows (a : NodeAuthority) (fuse : TokenLedger) : a.Grows (a.withFuse fuse) := by
  refine ⟨le_rfl, fun _ n h => ⟨n, h, .refl n⟩, fun digest t h => ⟨t, ?_, fun _ => rfl⟩⟩
  exact (AList.lookup_union_left (AList.lookup_isSome.mp (by simp [h]))).trans h

/-- The sequence number that an issued Node id carries. -/
theorem issuedSequence_nodeId (k : ℕ) : issuedSequence (nodeId k) = k := by
  have hdigits : ∀ c ∈ Nat.toDigits 10 k, c.isDigit = true := fun c hc =>
    Nat.isDigit_of_mem_toDigits (by decide) (by decide) hc
  have hzeros : ∀ m, (List.replicate m '0').all Char.isDigit = true := by
    intro m
    rw [List.all_eq_true]
    intro c hc
    rw [List.eq_of_mem_replicate hc]
    rfl
  have hlist : (nodeId k).toList = 'n' :: 'o' :: 'd' :: 'e' :: '-' ::
      (List.replicate (4 - (toString k).length) '0' ++ Nat.toDigits 10 k) := by
    have hprefix : "node-".toList = ['n', 'o', 'd', 'e', '-'] := by decide
    have htext : (toString k).toList = Nat.toDigits 10 k := Nat.toList_repr
    simp only [nodeId, String.toList_append, String.toList_ofList, hprefix, htext, List.cons_append, List.nil_append]
  unfold issuedSequence
  rw [hlist]
  simp only [List.all_append, hzeros, Bool.true_and, List.all_eq_true]
  rw [if_pos hdigits, Nat.ofDigitChars_append, Nat.ofDigitChars_replicate_zero, Nat.mul_zero, Nat.ofDigitChars_ten_toDigits]

/-- What a registry that was accepted satisfies. -/
structure Accepted (a : NodeAuthority) : Prop where
  own : ∀ id n, a.nodes.lookup id = some n → n.nodeId = id
  issued : ∀ id n, a.nodes.lookup id = some n → issuedSequence id < a.nextNodeSeq

theorem accepted_of_validate (h : a.validate = .ok ()) : a.Accepted := by
  obtain ⟨_, hnodes, _⟩ := bind_eq_ok.mp h
  obtain ⟨_, _, hnodes⟩ := bind_eq_ok.mp hnodes
  obtain ⟨_, hown, hissued⟩ := bind_eq_ok.mp hnodes
  simp only [raiseIf_eq_ok, List.any_eq_true, not_exists, not_and, decide_eq_true_eq, not_le, not_not] at hown hissued
  exact ⟨fun id n hn => hown ⟨id, n⟩ (AList.mem_lookup_iff.mp hn), fun id n hn => hissued ⟨id, n⟩ (AList.mem_lookup_iff.mp hn)⟩

/-- The next id that the registry issues is nobody's. -/
theorem Accepted.fresh (h : a.Accepted) : a.nodes.lookup (nodeId a.nextNodeSeq) = none := by
  cases hn : a.nodes.lookup (nodeId a.nextNodeSeq) with
  | none => rfl
  | some n =>
    have hlt := h.issued _ n hn
    rw [issuedSequence_nodeId] at hlt
    exact absurd hlt (lt_irrefl _)

/-- The registry with a new Node and its consumed token. -/
def register (a : NodeAuthority) (digest : String) (node : Node) (token : TokenRecord) : NodeAuthority :=
  { a with
    nextNodeSeq := a.nextNodeSeq + 1
    nodes := a.nodes.insert node.nodeId node
    tokens := a.tokens.insert digest token }

/-- The registry with a new record of a Node. -/
def revise (a : NodeAuthority) (id : String) (node : Node) : NodeAuthority := { a with nodes := a.nodes.insert id node }

theorem register_grows (h : a.Accepted) (hfree : a.tokens.lookup digest = none)
    (hid : node.nodeId = nodeId a.nextNodeSeq) : a.Grows (a.register digest node token) where
  sequence := Nat.le_succ _
  node id n hn := by
    have hne : id ≠ node.nodeId := by
      intro he
      rw [he, hid, h.fresh] at hn
      cases hn
    exact ⟨n, (AList.lookup_insert_ne hne).trans hn, .refl n⟩
  token d t ht := by
    have hne : d ≠ digest := by
      intro he
      rw [he, hfree] at ht
      cases ht
    exact ⟨t, (AList.lookup_insert_ne hne).trans ht, fun _ => rfl⟩

theorem revise_grows (hn : a.nodes.lookup id = some n) (hl : n.Later n') : a.Grows (a.revise id n') where
  sequence := le_rfl
  node id' m hm := by
    by_cases he : id' = id
    · subst he
      obtain rfl := Option.some.inj (hn.symm.trans hm)
      exact ⟨n', AList.lookup_insert _, hl⟩
    · exact ⟨m, (AList.lookup_insert_ne he).trans hm, .refl m⟩
  token d t ht := ⟨t, ht, fun _ => rfl⟩

end NodeAuthority

/-! ### What the handlers do -/

/-- The task has read the registry. -/
def Consulted (h : History) (a : NodeAuthority) : Prop := ∃ x, (⟨.readAuthority, x, .ok a⟩ : Event Op Op.Res Exc Input) ∈ h

/-- The task has written the registry. -/
def Wrote (h : History) (a : NodeAuthority) : Prop :=
  ∃ x, (⟨.writeAuthority a, x, .ok ()⟩ : Event Op Op.Res Exc Input) ∈ h

/-- The task has bound the Session to a Node. -/
def Bound (h : History) (sid nodeId bootId : String) : Prop :=
  ∃ server x r, (⟨.store (.bindNode sid nodeId bootId server), x, .ok r⟩ : Event Op Op.Res Exc Input) ∈ h

/-- The Session has accepted the heartbeat of its Node. -/
def Heard (h : History) (sid nodeId bootId : String) : Prop :=
  ∃ observed ready x, (⟨.store (.recordNodeHeartbeat sid nodeId bootId observed ready), x, .ok true⟩ :
    Event Op Op.Res Exc Input) ∈ h

/-- The registry that a request about a Node writes: one with a new Node, after its Session was bound to it, or one
    with a later record of a Node. -/
inductive Rewrites (h : History) : Request → NodeAuthority → Prop
  | register {digest : String} {request : NodeApi.BootstrapRequest} {delivery : Except Exc Unit} {a : NodeAuthority}
      {node : Node} {token : TokenRecord} (read : Consulted h a) (free : a.tokens.lookup digest = none)
      (id : node.nodeId = NodeAuthority.nodeId a.nextNodeSeq) (running : node.desiredState = .running)
      (tokenNode : token.nodeId = node.nodeId) (attempt : token.attempt = some request.attempt)
      (assigned : node.sessionAssigned → Bound h node.sessionId node.nodeId node.bootId) :
      Rewrites h (.bootstrap (.bearer digest) request delivery) (a.register digest node token)
  | heartbeat {id : String} {authorization : NodeApi.Authorization} {request : NodeApi.HeartbeatRequest}
      {a : NodeAuthority} {n n' : Node} (read : Consulted h a) (known : a.nodes.lookup id = some n) (later : n.Later n') :
      Rewrites h (.heartbeat id authorization request) (a.revise id n')
  | stop {id : String} {a : NodeAuthority} {n n' : Node} (read : Consulted h a) (known : a.nodes.lookup id = some n)
      (later : n.Later n') : Rewrites h (.stopNode id) (a.revise id n')

/-- What a request about a Node calls after its history. The other requests make none of these calls. -/
def Request.Permits (q : Request) (h : History) : Op → Prop
  | .readAuthority => q.isNode → h = []
  | .writeTokenFuse _ _ _ _ => q.isNode
  | .writeAuthority a => Rewrites h q a ∧ ∀ a', ¬Wrote h a'
  | .store (.bindNode _ nodeId _ _) =>
      q.isBootstrap ∧ (∀ sid nodeId bootId, ¬Bound h sid nodeId bootId) ∧ (∀ a, ¬Wrote h a) ∧
        ∃ a, Consulted h a ∧ nodeId = NodeAuthority.nodeId a.nextNodeSeq
  | .store (.recordNodeHeartbeat _ _ _ _ _) => q.isHeartbeat
  | .store (.applyIngestObservation sid nodeId _ _ _) | .store (.applyRelayClientObservation sid nodeId _ _) =>
      q.isHeartbeat ∧ ∃ bootId, Heard h sid nodeId bootId
  | _ => True

/-- How a bootstrap that succeeds answers: with the Node that it registered, or with the one that the same attempt
    registered before. -/
inductive Answered (h : History) (digest : String) (request : NodeApi.BootstrapRequest) (node : Node) : Prop
  | registered (a : NodeAuthority) (token : TokenRecord) (wrote : Wrote h (a.register digest node token))
      (tokenNode : token.nodeId = node.nodeId)
  | replayed {a : NodeAuthority} {token : TokenRecord} (read : Consulted h a)
      (consumed : a.tokens.lookup digest = some token) (attempt : token.attempt = some request.attempt)
      (known : a.nodes.lookup token.nodeId = some node)

/-- What a request about a Node ends with. -/
def Request.Ends (q : Request) (r : Except Exc Response) (h : History) : Prop :=
  ∀ authorization request delivery node, q = .bootstrap authorization request delivery → r = .ok (.node node) →
    ∃ digest, authorization = .bearer digest ∧ Answered h digest request node

/-- The bootstrap has read the registry, and it has not yet named a Session. -/
structure Resolving (h : History) (a : NodeAuthority) : Prop where
  read : Consulted h a
  unbound : ∀ sid nodeId bootId, ¬Bound h sid nodeId bootId
  unwritten : ∀ a', ¬Wrote h a'

/-- The bootstrap has named its Session, and bound the one that its server is assigned to. -/
structure Named (h : History) (a : NodeAuthority) (session : Option Session) (sessionId nodeId bootId : String) : Prop where
  read : Consulted h a
  unwritten : ∀ a', ¬Wrote h a'
  assigned : session.isSome → Bound h sessionId nodeId bootId

theorem Consulted.cons {h : History} {a : NodeAuthority} (hr : Consulted h a) (e : Event Op Op.Res Exc Input) :
    Consulted (e :: h) a := by
  obtain ⟨x, hx⟩ := hr
  exact ⟨x, List.mem_cons_of_mem e hx⟩

theorem not_wrote_cons {h : History} {e : Event Op Op.Res Exc Input} (hw : ∀ a, ¬Wrote h a)
    (he : ∀ a, e.op ≠ .writeAuthority a) : ∀ a, ¬Wrote (e :: h) a := by
  rintro a ⟨x, hx⟩
  rcases List.mem_cons.mp hx with rfl | hx
  · exact he a rfl
  · exact hw a ⟨x, hx⟩

theorem Named.cons {h : History} {a : NodeAuthority} {session : Option Session} {sessionId nodeId bootId : String}
    (hn : Named h a session sessionId nodeId bootId) {e : Event Op Op.Res Exc Input}
    (hwrite : ∀ a, e.op ≠ .writeAuthority a) : Named (e :: h) a session sessionId nodeId bootId where
  read := hn.read.cons e
  unwritten := not_wrote_cons hn.unwritten hwrite
  assigned hs := by
    obtain ⟨server, x, r, hx⟩ := hn.assigned hs
    exact ⟨server, x, r, List.mem_cons_of_mem e hx⟩

theorem Resolving.cons {h : History} {a : NodeAuthority} (hr : Resolving h a) {e : Event Op Op.Res Exc Input}
    (hbind : ∀ sid nodeId bootId server, e.op ≠ .store (.bindNode sid nodeId bootId server))
    (hwrite : ∀ a, e.op ≠ .writeAuthority a) : Resolving (e :: h) a where
  read := hr.read.cons e
  unbound := by
    rintro sid nodeId bootId ⟨server, x, r, hx⟩
    rcases List.mem_cons.mp hx with rfl | hx
    · exact hbind _ _ _ _ rfl
    · exact hr.unbound _ _ _ ⟨server, x, r, hx⟩
  unwritten := not_wrote_cons hr.unwritten hwrite

namespace NodeApi

theorem replayBootstrap_abides {q : Request} {h : History} {a : NodeAuthority} {digest : String} {consumed : TokenRecord}
    {request : BootstrapRequest} {delivery : Except Exc Unit} (hread : Consulted h a)
    (hconsumed : a.tokens.lookup digest = some consumed) :
    (replayBootstrap a consumed request delivery).Abides q.Permits
      (fun r h => ∀ node, r = .ok node → Answered h digest request node) h := by
  unfold replayBootstrap
  split
  · rename_i node hnode
    refine .ofExcept_bind (fun _ hsame => ?_) fun e _ _ he => by cases he
    simp only [raiseIf_eq_ok, Bool.not_eq_true', Bool.not_eq_false, sameAttempt, Bool.and_eq_true, decide_eq_true_eq] at hsame
    have hdone : ∀ h', h ⊆ h' → (ofExcept (delivery.map fun () => node) : Control Node).Abides q.Permits
        (fun r h => ∀ node, r = .ok node → Answered h digest request node) h' := by
      intro h' hsub
      rw [Prog.ofExcept_def]
      refine .done fun n hn => ?_
      obtain ⟨_, _, rfl⟩ := map_eq_ok.mp hn
      obtain ⟨x, hx⟩ := hread
      exact .replayed ⟨x, hsub hx⟩ hconsumed hsame.1 hnode
    split
    · refine .op_bind trivial (fun x session => .ofExcept_bind (fun _ _ => ?_) fun e _ _ he => by cases he)
        fun x e _ he => by cases he
      exact hdone _ (List.subset_cons_self _ _)
    · exact hdone h (List.Subset.refl h)
  · exact .done fun n hn => by cases hn

theorem resolveAssignedSession_abides (config : NodeConfig) (server : String) {q : Request} {h : History}
    {a : NodeAuthority} (hr : Resolving h a) :
    (resolveAssignedSession config server).Abides q.Permits (fun _ h => Resolving h a) h := by
  have hcons : ∀ x r, Resolving (⟨.store (.findByProviderServerId server activeStates), x, r⟩ :: h) a := fun x r =>
    hr.cons (by simp) (by simp)
  unfold resolveAssignedSession
  refine .op_bind trivial (fun x found => ?_) fun x e => hcons x _
  split
  · split
    · exact .done (hcons x _)
    · exact .done (hcons x _)
  · exact .done (hcons x _)
  · exact .done (hcons x _)

theorem bindAssigned_abides (session : Option Session) {sessionId nodeId : String} {request : BootstrapRequest}
    {authorization : Authorization} {delivery : Except Exc Unit} {h : History} {a : NodeAuthority}
    (hread : Consulted h a) (hwrite : ∀ a', ¬Wrote h a') (hsome : session.isSome → Resolving h a)
    (hsid : ∀ r ∈ session, sessionId = r.sessionId)
    (hnode : nodeId = NodeAuthority.nodeId a.nextNodeSeq) :
    (bindAssigned session nodeId request).Abides (Request.bootstrap authorization request delivery).Permits
      (fun r h => r = .ok () → Named h a session sessionId nodeId request.bootId) h := by
  cases session with
  | none => exact .done fun _ => ⟨hread, hwrite, fun hs => by cases hs⟩
  | some session =>
    obtain rfl := hsid session rfl
    have hr := hsome rfl
    unfold bindAssigned
    have hbind : (store (.bindNode session.sessionId nodeId request.bootId request.providerServerId)).Abides
        (Request.bootstrap authorization request delivery).Permits
        (fun r h => ∀ s, r = .ok s → Named h a (some session) session.sessionId nodeId request.bootId) h := by
      refine .op ⟨rfl, hr.unbound, hr.unwritten, a, hread, hnode⟩ fun x r s hs => ?_
      subst hs
      refine ⟨hread.cons _, not_wrote_cons hwrite (by simp), fun _ => ?_⟩
      exact ⟨_, x, s, List.mem_cons_self⟩
    refine .bind (Q := fun r h => ∀ s, r = .ok s → Named h a (some session) session.sessionId nodeId request.bootId)
      (.tryExcept hbind (fun s h' _ hs => hs) fun e h' _ _ => ?_) (fun s h' _ hs => .done fun _ => hs s rfl)
      fun e h' _ _ he => by cases he
    split <;> split <;> exact .done fun s hs => by cases hs

theorem bootstrap_abides (config : NodeConfig) {authorization : Authorization} {request : BootstrapRequest}
    {delivery delivery' : Except Exc Unit} :
    (bootstrap config authorization request delivery).Abides (Request.bootstrap authorization request delivery').Permits
      (fun r h => ∀ node, r = .ok node → ∃ digest, authorization = .bearer digest ∧ Answered h digest request node) [] := by
  unfold bootstrap
  refine .ofExcept_bind (fun digest hdigest => ?_) fun e _ _ he => by cases he
  obtain rfl : authorization = .bearer digest := by
    cases authorization with
    | missing => cases hdigest
    | empty => cases hdigest
    | bearer sha256 =>
      obtain rfl := Except.ok.inj hdigest
      rfl
  refine .ofExcept_bind (fun _ _ => ?_) fun e _ _ he => by cases he
  refine .op_bind (fun _ => rfl) (fun x a => ?_) fun x e _ he => by cases he
  have hread : Consulted [⟨.readAuthority, x, .ok a⟩] a := ⟨x, List.mem_cons_self⟩
  split
  · rename_i consumed hconsumed
    refine (replayBootstrap_abides hread hconsumed).mono fun r h' _ hr node hnode => ?_
    exact ⟨digest, rfl, hr node hnode⟩
  · rename_i hfree
    have hresolving : Resolving [⟨.readAuthority, x, .ok a⟩] a := by
      refine ⟨hread, fun _ _ _ => ?_, fun _ => ?_⟩
      · rintro ⟨_, _, _, he⟩
        simp at he
      · rintro ⟨_, he⟩
        simp at he
    refine .op_bind trivial (fun x reading => ?_) fun x e _ he => by cases he
    refine .ofExcept_bind (fun bootstrapAt _ => ?_) fun e _ _ he => by cases he
    have hresolving := hresolving.cons (e := ⟨.time, x, .ok reading⟩) (by simp) (by simp)
    refine .bind (resolveAssignedSession_abides config request.providerServerId hresolving) (fun session h _ hr => ?_)
      fun e h _ _ _ he => by cases he
    dsimp only [NodeAuthority.issueNodeId]
    refine .bind (Q := fun r h => ∀ sid, r = .ok sid → (∀ a', ¬Wrote h a') ∧ Consulted h a ∧
        (session.isSome → Resolving h a) ∧ ∀ s ∈ session, sid = s.sessionId) ?_
      (fun sid h _ hsid => ?_) fun e h _ _ _ he => by cases he
    · cases session with
      | none =>
        refine .op_bind trivial (fun x u => .done fun sid _ => ?_) fun x e sid he => by cases he
        exact ⟨not_wrote_cons hr.unwritten (by simp), hr.read.cons _, (fun hs => by cases hs), by simp⟩
      | some session =>
        refine .done fun sid hsid => ?_
        obtain rfl := Except.ok.inj hsid
        refine ⟨hr.unwritten, hr.read, fun _ => hr, fun s hs => ?_⟩
        obtain rfl := Option.some.inj hs
        rfl
    · obtain ⟨hwrite, hread, hsome, hsid⟩ := hsid sid rfl
      refine .bind (bindAssigned_abides session hread hwrite hsome hsid rfl) (fun _ h _ hn => ?_)
        fun e h _ _ _ he => by cases he
      have hn := hn rfl
      refine .op_bind rfl (fun x u => ?_) fun x e _ he => by cases he
      have hn := hn.cons (e := ⟨.writeTokenFuse digest (NodeAuthority.nodeId a.nextNodeSeq) sid bootstrapAt, x, .ok u⟩)
        (by simp)
      have hrewrites : ∀ deadline, Rewrites _ (.bootstrap (.bearer digest) request delivery') (a.register digest
          (newNode (NodeAuthority.nodeId a.nextNodeSeq) sid session request deadline bootstrapAt)
          ⟨bootstrapAt, NodeAuthority.nodeId a.nextNodeSeq, sid, some request.attempt⟩) := fun deadline =>
        .register hn.read hfree rfl rfl rfl rfl hn.assigned
      refine .op_bind ⟨hrewrites _, hn.unwritten⟩ (fun x _ => ?_) fun x e _ he => by cases he
      rw [Prog.ofExcept_def]
      refine .done fun n hn => ?_
      obtain ⟨_, _, rfl⟩ := map_eq_ok.mp hn
      exact ⟨digest, rfl, .registered a ⟨bootstrapAt, _, sid, some request.attempt⟩ ⟨x, List.mem_cons_self⟩ rfl⟩

/-! ### Heartbeats -/

/-- The heartbeat of the Node `n` has been accepted by its Session, and the registry is not yet written. -/
structure Reporting (a : NodeAuthority) (nodeId : String) (n : Node) (h : History) : Prop where
  read : Consulted h a
  unwritten : ∀ a', ¬Wrote h a'
  heard : n.sessionAssigned → Heard h n.sessionId nodeId n.bootId

section
variable {q : Request} {a : NodeAuthority} {nodeId : String} {n node : Node} {h : History}

theorem Reporting.cons (hr : Reporting a nodeId n h) {e : Event Op Op.Res Exc Input}
    (hwrite : ∀ a, e.op ≠ .writeAuthority a) : Reporting a nodeId n (e :: h) where
  read := hr.read.cons e
  unwritten := not_wrote_cons hr.unwritten hwrite
  heard hs := by
    obtain ⟨observed, ready, x, hx⟩ := hr.heard hs
    exact ⟨observed, ready, x, List.mem_cons_of_mem e hx⟩

/-- The program keeps the heartbeat going. -/
def Carries {α : Type} (q : Request) (a : NodeAuthority) (nodeId : String) (n : Node) (p : Control α) : Prop :=
  ∀ h, Reporting a nodeId n h → p.Abides q.Permits (fun _ h => Reporting a nodeId n h) h

/-- The program keeps the heartbeat going and returns a later record of its Node. -/
def Revises (q : Request) (a : NodeAuthority) (nodeId : String) (n : Node) (p : Control Node) : Prop :=
  ∀ h, Reporting a nodeId n h →
    p.Abides q.Permits (fun r h => Reporting a nodeId n h ∧ ∀ n', r = .ok n' → n.Later n') h

theorem Carries.op {o : Op} (hwrite : ∀ a, o ≠ .writeAuthority a) (ho : ∀ h, Reporting a nodeId n h → q.Permits h o) :
    Carries q a nodeId n (Prog.op o) :=
  fun h hr => .op (ho h hr) fun _ _ => hr.cons hwrite

theorem Carries.of_only {α : Type} {p : Control α} {φ : Op → Prop} (hp : p.Only φ)
    (hφ : ∀ o, φ o → (∀ h, q.Permits h o) ∧ ∀ a, o ≠ .writeAuthority a) : Carries q a nodeId n p :=
  fun _ hr => .of_only hp hr fun o h ho hr => ⟨(hφ o ho).1 h, fun _ _ => hr.cons (hφ o ho).2⟩

theorem Carries.bind {α β : Type} {p : Control α} {f : α → Control β} (hp : Carries q a nodeId n p)
    (hf : ∀ b, Carries q a nodeId n (f b)) : Carries q a nodeId n (p.bind f) :=
  fun h hr => (hp h hr).bind (fun b h' _ hr' => hf b h' hr') fun _ _ _ hr' => hr'

theorem Revises.done (hl : n.Later node) : Revises q a nodeId n (.done (.ok node)) := by
  intro h hr
  refine Prog.Abides.done ⟨hr, fun n' hn => ?_⟩
  obtain rfl := Except.ok.inj hn
  exact hl

theorem Revises.throw (e : Exc) : Revises q a nodeId n (.done (.error e)) :=
  fun _ hr => .done ⟨hr, fun _ hn => by cases hn⟩

theorem Revises.bind {f : Node → Control Node} {p : Control Node} (hp : Revises q a nodeId n p)
    (hf : ∀ node, n.Later node → Revises q a nodeId n (f node)) : Revises q a nodeId n (p.bind f) :=
  fun h hr => (hp h hr).bind (fun node h' _ hr' => hf node (hr'.2 node rfl) h' hr'.1)
    fun _ _ _ hr' => ⟨hr'.1, fun _ hn => by cases hn⟩

theorem Revises.carries_bind {α : Type} {p : Control α} {f : α → Control Node} (hp : Carries q a nodeId n p)
    (hf : ∀ b, Revises q a nodeId n (f b)) : Revises q a nodeId n (p.bind f) :=
  fun h hr => (hp h hr).bind (fun b h' _ hr' => hf b h' hr') fun _ _ _ hr' => ⟨hr', fun _ hn => by cases hn⟩

theorem reporting_carries {p : Control Unit} (hp : Carries q a nodeId n p) : Carries q a nodeId n (reporting p) := by
  intro h hr
  unfold reporting
  have hp : (p.bind fun _ => Prog.done (.ok none) : Control (Option String)).Abides q.Permits
      (fun _ h => Reporting a nodeId n h) h := (hp h hr).bind (fun _ _ _ hr' => .done hr') fun _ _ _ hr' => hr'
  refine .tryExcept hp (fun _ _ _ hr' => hr') fun e h' _ hr' => ?_
  split <;> split <;> exact .done hr'

theorem reportIngest_revises {current : SessionStore.IngestObservation} {observedAt : Timestamp} (hq : q.isHeartbeat)
    (hl : n.Later node) :
    Revises q a nodeId n (reportIngest nodeId node current observedAt) := by
  unfold reportIngest
  dsimp only
  have hl := hl.trans (node.appendEvents_later (ingestEventTypes node.ingest current node.ingestEverOnline)
    (nodeIngestPayload current) observedAt)
  split
  · exact .done ⟨hl.fixed, hl.running⟩
  · rename_i hassigned
    have happly : ∀ h, Reporting a nodeId n h → q.Permits h (.store (.applyIngestObservation _ nodeId
        (ingestEventTypes node.ingest current node.ingestEverOnline) current observedAt)) := fun h hr =>
      ⟨hq, _, hl.sessionId ▸ hr.heard (by simpa [hl.sessionAssigned] using hassigned)⟩
    exact .carries_bind (reporting_carries (.bind (.op (by simp) happly) fun _ _ hr => .done hr)) fun _ =>
      .done ⟨hl.fixed, hl.running⟩

/-- Calls that any heartbeat may make. -/
def Plain : Op → Prop
  | .store (.get _) | .store (.appendEvent _ _ _ _ _ _) | .store (.update _ _) | .store (.transition _ _ _ _) => True
  | _ => False

theorem Carries.of_plain {α : Type} {p : Control α} (hp : p.Only Plain) : Carries q a nodeId n p := by
  refine .of_only hp fun o ho => ?_
  unfold Plain at ho
  split at ho
  · exact ⟨fun _ => trivial, by simp⟩
  · exact ⟨fun _ => trivial, by simp⟩
  · exact ⟨fun _ => trivial, by simp⟩
  · exact ⟨fun _ => trivial, by simp⟩
  · cases ho

theorem applyEgressToSession_plain (sid : String) (types : List String) (current : EgressObservation)
    (occurredAt : Timestamp) : (applyEgressToSession sid nodeId types current occurredAt).Only Plain := by
  unfold applyEgressToSession
  refine .bind (.op trivial) fun session => ?_
  split
  · refine .bind (.ofExcept _) fun _ => ?_
    split
    · exact .done _
    · exact .bind (.forFold fun _ _ _ => .op trivial) fun _ => .bind (.op trivial) fun _ => .done _
  · exact .done _

theorem reportEgress_revises {current : EgressObservation} {observedAt : Timestamp} (hl : n.Later node) :
    Revises q a nodeId n (reportEgress nodeId node current observedAt) := by
  unfold reportEgress
  dsimp only
  have hl := hl.trans (node.appendEvents_later (egressEventTypes node.egress current node.egressEverConnected)
    (egressPayload node.nodeId current) observedAt)
  split
  · exact .done ⟨hl.fixed, hl.running⟩
  · exact .carries_bind (reporting_carries (.of_plain (applyEgressToSession_plain _ _ _ _))) fun _ =>
      .done ⟨hl.fixed, hl.running⟩

theorem reportRelayClient_revises {current : SessionStore.RelayClientObservation} {observedAt : Timestamp}
    (hq : q.isHeartbeat) (hl : n.Later node) : Revises q a nodeId n (reportRelayClient nodeId node current observedAt) := by
  unfold reportRelayClient
  dsimp only
  have hl := hl.trans (node.appendEvents_later (relayEventTypes node.relayClient current node.relayClientEverConnected)
    (current.payload node.nodeId) observedAt)
  split
  · exact .done ⟨hl.fixed, hl.running⟩
  · rename_i hassigned
    simp only [Bool.or_eq_true, Bool.not_eq_true', decide_eq_true_eq, not_or, Bool.not_eq_false] at hassigned
    have happly : ∀ h, Reporting a nodeId n h → q.Permits h (.store (.applyRelayClientObservation _ nodeId
        (relayEventTypes node.relayClient current node.relayClientEverConnected) current)) := fun h hr =>
      ⟨hq, _, hl.sessionId ▸ hr.heard (hl.sessionAssigned ▸ hassigned.1)⟩
    exact .carries_bind (reporting_carries (.bind (.op (by simp) happly) fun _ _ hr => .done hr)) fun _ =>
      .done ⟨hl.fixed, hl.running⟩

/-- A program that returns a later record of its Node, with the exception it met. -/
def Watches (q : Request) (a : NodeAuthority) (nodeId : String) (n : Node) (p : Control (Node × Option Exc)) : Prop :=
  ∀ h, Reporting a nodeId n h →
    p.Abides q.Permits (fun r h => Reporting a nodeId n h ∧ ∀ n' exc, r = .ok (n', exc) → n.Later n') h

theorem Watches.done {exc : Option Exc} (hl : n.Later node) : Watches q a nodeId n (.done (.ok (node, exc))) := by
  intro h hr
  refine Prog.Abides.done ⟨hr, fun n' exc hn => ?_⟩
  obtain ⟨rfl, rfl⟩ := Prod.mk.inj (Except.ok.inj hn)
  exact hl

theorem Watches.attempt_bind {o : Op} {f : Except Exc o.Res → Control (Node × Option Exc)} (ho : Plain o)
    (hf : ∀ r, Watches q a nodeId n (f r)) : Watches q a nodeId n ((Prog.op o).attempt.bind f) := by
  intro h hr
  have hcarries := Prog.Abides.op_iff.mp (Carries.of_plain (q := q) (a := a) (n := n) (.op ho) h hr)
  exact .op_attempt hcarries.1 fun x r => hf r _ (hcarries.2 x r)

theorem latchPipelineFailure_watches {mediaHealth : String} {since current : Timestamp} (hl : n.Later node) :
    Watches q a nodeId n (latchPipelineFailure nodeId node mediaHealth since current) := by
  unfold latchPipelineFailure
  refine .attempt_bind trivial fun r => ?_
  split
  · exact .done hl
  · exact .done hl
  · split
    · exact .done hl
    · split
      · exact .done hl
      · refine .attempt_bind trivial fun r => ?_
        split
        · exact .done hl
        · refine .attempt_bind trivial fun r => ?_
          split
          · exact .done ⟨hl.fixed, fun hrun => by cases hrun⟩
          · exact .done ⟨hl.fixed, fun hrun => by cases hrun⟩

theorem reportPipeline_revises (config : NodeConfig) {request : HeartbeatRequest} {observedAt : Timestamp}
    (hl : n.Later node) : Revises q a nodeId n (reportPipeline config nodeId node request observedAt) := by
  have hwatch : Watches q a nodeId n
      (applyPipelineHealth config nodeId node request.status request.mediaHealth observedAt) := by
    unfold applyPipelineHealth
    dsimp only
    split
    · exact .done ⟨hl.fixed, hl.running⟩
    · split
      · exact .done hl
      · split
        · exact .done ⟨hl.fixed, hl.running⟩
        · exact latchPipelineFailure_watches ⟨hl.fixed, hl.running⟩
  intro h hr
  unfold reportPipeline
  refine .bind (hwatch h hr) (fun p h' _ hp => ?_) fun _ _ _ hp => ⟨hp.1, fun _ hn => by cases hn⟩
  obtain ⟨node', exc⟩ := p
  have hl' := hp.2 node' exc rfl
  have hdone : ∀ error, Revises q a nodeId n (.done (.ok { node' with pipelineSessionEventError := error })) :=
    fun error => .done ⟨hl'.fixed, hl'.running⟩
  cases exc with
  | none => exact hdone none h' hp.1
  | some exc =>
    have hthrow : Revises q a nodeId n (.done (.error exc)) := .throw exc
    dsimp only
    split
    · split
      · exact hdone _ h' hp.1
      · exact hthrow h' hp.1
    · split
      · exact hdone _ h' hp.1
      · exact hthrow h' hp.1

theorem report_revises (config : NodeConfig) {request : HeartbeatRequest} {observedAt : Timestamp} (hq : q.isHeartbeat)
    (hl : n.Later node) :
    Revises q a nodeId n (report config nodeId node request observedAt) := by
  unfold report
  refine .bind ?_ fun node hl => .bind ?_ fun node hl => .bind ?_ fun node hl => ?_
  · split
    · exact reportIngest_revises hq hl
    · exact .done hl
  · split
    · exact reportEgress_revises hl
    · exact .done hl
  · split
    · exact reportRelayClient_revises hq hl
    · exact .done hl
  · split
    · exact reportPipeline_revises config hl
    · exact .done hl

end

theorem heartbeat_abides (config : NodeConfig) {nodeId : String} {authorization : Authorization}
    {request : HeartbeatRequest} :
    (heartbeat config nodeId authorization request).Abides (Request.heartbeat nodeId authorization request).Permits
      (fun _ _ => True) [] := by
  unfold heartbeat
  refine .op_bind (fun _ => rfl) (fun x a => ?_) fun _ _ => trivial
  split
  · rename_i node hnode
    refine .ofExcept_bind (fun _ _ => ?_) fun _ _ => trivial
    refine .op_bind trivial (fun x' reading => .ofExcept_bind (fun observedAt _ => ?_) fun _ _ => trivial) fun _ _ => trivial
    have hunwritten : ∀ a', ¬Wrote [⟨.time, x', .ok reading⟩, ⟨.readAuthority, x, .ok a⟩] a' := by
      rintro a' ⟨x'', hx''⟩
      simp at hx''
    have hread : Consulted [⟨.time, x', .ok reading⟩, ⟨.readAuthority, x, .ok a⟩] a := ⟨x, by simp⟩
    refine .bind (Q := fun r h => r = .ok () → Reporting a nodeId node h) ?_ (fun _ h _ hr => ?_) fun _ _ _ _ => trivial
    · unfold recordHeartbeat
      split
      · refine .op_bind rfl (fun x recorded => ?_) fun _ _ he => by cases he
        rw [Prog.ofExcept_def]
        refine .done fun hok => ?_
        simp only [raiseIf_eq_ok, Bool.not_eq_true', Bool.not_eq_false] at hok
        subst hok
        exact ⟨hread.cons _, not_wrote_cons hunwritten (by simp), fun _ => ⟨_, _, x, List.mem_cons_self⟩⟩
      · rename_i hassigned
        exact .done fun _ => ⟨hread, hunwritten, fun hs => absurd hs hassigned⟩
    · have hlater : node.Later { node with status := request.status, lastHeartbeatAt := some observedAt } := ⟨rfl, id⟩
      refine .bind (report_revises config rfl hlater h (hr rfl)) (fun n' h' _ hn => ?_) fun _ _ _ _ => trivial
      exact .op_bind ⟨.heartbeat hn.1.read hnode (hn.2 n' rfl), hn.1.unwritten⟩ (fun _ _ => .done trivial)
        fun _ _ => trivial
  · exact .done trivial

theorem stopNode_abides {nodeId : String} :
    (stopNode nodeId).Abides (Request.stopNode nodeId).Permits (fun _ _ => True) [] := by
  unfold stopNode
  refine .op_bind (fun _ => rfl) (fun x a => ?_) fun _ _ => trivial
  split
  · rename_i node hnode
    refine .op ⟨.stop ⟨x, List.mem_cons_self⟩ hnode ⟨rfl, fun hrun => by cases hrun⟩, ?_⟩ fun _ _ => trivial
    rintro a' ⟨x', hx'⟩
    simp at hx'
  · exact .done trivial

end NodeApi
end IRLight
