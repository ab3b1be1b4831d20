import IRLight.ControlPlane.RegistryLock

/-! # A bootstrap token is used once

A bootstrap commits its Node and consumes its token by one write of the registry. A process may end after any
of its calls, and other bootstraps with the same token or another may come before or after. -/

namespace IRLight
open Interleaving Status Call

/-- The registry `a` is `a₀` with a new Node, whose bootstrap consumed its token. -/
structure Registers (digest : String) (request : NodeApi.BootstrapRequest) (a₀ a : NodeAuthority) (node : Node) : Prop where
  free : a₀.tokens.lookup digest = none
  id : node.nodeId = NodeAuthority.nodeId a₀.nextNodeSeq
  known : a.nodes.lookup node.nodeId = some node
  consumed : ∃ token, a.tokens.lookup digest = some token ∧ token.nodeId = node.nodeId ∧
    token.attempt = some request.attempt

theorem Rewrites.registers {h : History} {digest : String} {request : NodeApi.BootstrapRequest} {delivery : Except Exc Unit}
    {a : NodeAuthority} {token : TokenRecord} {node : Node} (hw : Rewrites h (.bootstrap (.bearer digest) request delivery) a)
    (htoken : a.tokens.lookup digest = some token) (hnode : a.nodes.lookup token.nodeId = some node) :
    ∃ a₀, Consulted h a₀ ∧ Registers digest request a₀ a node := by
  cases hw with
  | @register _ _ _ a₀ node' token' read free id _ tokenNode attempt _ =>
    have hlookup : (a₀.register digest node' token').tokens.lookup digest = some token' := AList.lookup_insert _
    have hknown : (a₀.register digest node' token').nodes.lookup node'.nodeId = some node' := AList.lookup_insert _
    obtain rfl := Option.some.inj (htoken.symm.trans hlookup)
    rw [tokenNode] at hnode
    obtain rfl := Option.some.inj (hnode.symm.trans hknown)
    exact ⟨a₀, read, free, id, hknown, token, hlookup, tokenNode, attempt⟩

namespace Plane
variable {config : Config} {stable : Timestamp} {cond : Plane → Action Request Input → Prop} {c : Plane}

/-- Task `i` is a bootstrap, and it wrote a registry where its token is consumed by the Node. -/
def Committed (c : Plane) (i : ℕ) (digest : String) (request : NodeApi.BootstrapRequest) (node : Node) : Prop :=
  ∃ t delivery a token, c.tasks[i]? = some t ∧ t.request = .bootstrap (.bearer digest) request delivery ∧
    Wrote t.history a ∧ a.tokens.lookup digest = some token ∧ a.nodes.lookup token.nodeId = some node

/-- What a bootstrap that committed its Node did. -/
theorem Committed.registers (hr : Plane.Reaches config stable cond c) {i : ℕ} {digest : String}
    {request : NodeApi.BootstrapRequest} {node : Node} (hc : c.Committed i digest request node) :
    ∃ t ∈ c.tasks, ∃ a₀ a, Wrote t.history a ∧ Registers digest request a₀ a node := by
  obtain ⟨t, delivery, a, token, ht, hq, hw, htoken, hnode⟩ := hc
  obtain ⟨h', -, hrw⟩ := hw.rewrites (permitted hr ht)
  rw [hq] at hrw
  obtain ⟨a₀, -, hreg⟩ := hrw.registers htoken hnode
  exact ⟨t, List.mem_of_getElem? ht, a₀, a, hw, hreg⟩

/-- A token that was consumed with an attempt is still consumed by it, and its Node still known. -/
theorem Committed.kept (hr : Plane.Reaches config stable cond c) (hlock : ∀ c a, cond c a → Locked c a) {i : ℕ}
    {digest : String} {request : NodeApi.BootstrapRequest} {node : Node} (hc : c.Committed i digest request node) :
    (∃ token, c.state.registry.tokens.lookup digest = some token ∧ token.nodeId = node.nodeId ∧
        token.attempt = some request.attempt) ∧
      ∃ node', c.state.authority.nodes.lookup node.nodeId = some node' ∧ node.Later node' := by
  obtain ⟨t, ht, a₀, a, hw, hreg⟩ := hc.registers hr
  have hgrows := seen hr hlock t ht a (Or.inr hw)
  obtain ⟨token, htoken, hid, hattempt⟩ := hreg.consumed
  refine ⟨⟨token, hgrows.consumed htoken (by simp [hattempt]), hid, hattempt⟩, ?_⟩
  exact hgrows.node _ _ hreg.known

/-- A bootstrap that is about to commit its Node uses a token and an id of its own. -/
theorem Committed.fresh (hr : Plane.Reaches config stable cond c) (hlock : ∀ c a, cond c a → Locked c a) {j : ℕ}
    {digest digest' : String} {request request' : NodeApi.BootstrapRequest} {node node' : Node}
    (hc : c.Committed j digest' request' node') {fuse : TokenLedger} {a : NodeAuthority}
    (hreg : Registers digest request (c.state.authority.withFuse fuse) a node) :
    digest ≠ digest' ∧ node.nodeId ≠ node'.nodeId := by
  obtain ⟨⟨token, htoken, -, hattempt⟩, node'', hnode, -⟩ := hc.kept hr hlock
  have hinv := (held hr hlock).inv
  refine ⟨?_, ?_⟩
  · rintro rfl
    have hown := NodeAuthority.lookup_of_withFuse hinv.2 htoken (by simp [hattempt])
    have hfree := hreg.free
    rw [NodeAuthority.lookup_withFuse_of_some hown] at hfree
    cases hfree
  · intro he
    rw [← he, hreg.id] at hnode
    have hfresh : c.state.authority.nodes.lookup (NodeAuthority.nodeId c.state.authority.nextNodeSeq) = none := hinv.1.fresh
    rw [NodeAuthority.withFuse_nextNodeSeq, hfresh] at hnode
    cases hnode

/-- A Node that an action commits is the one that its bootstrap is about to write. -/
theorem Committed.of_act (hr : Plane.Reaches config stable cond c) (hlock : ∀ c a, cond c a → Locked c a)
    {action : Action Request Input} (ha : cond c action) {i : ℕ} {digest : String} {request : NodeApi.BootstrapRequest}
    {node : Node} (hc : Committed (c.act World.exec (Request.program config) action) i digest request node) :
    c.Committed i digest request node ∨ (∃ x, action = .step i x) ∧
      ∃ (fuse : TokenLedger) (a : NodeAuthority), Registers digest request (c.state.authority.withFuse fuse) a node := by
  obtain ⟨t, delivery, a, token, ht, hq, hw, htoken, hnode⟩ := hc
  rcases Pool.act_cases World.exec (Request.program config) c action with
    ⟨q, rfl, he⟩ | ⟨k, x, q, o, next, h, rfl, htk, he⟩ | he <;> rw [he] at ht
  · rcases mem_tasks_append ht with ht | rfl
    · exact Or.inl ⟨t, delivery, a, token, ht, hq, hw, htoken, hnode⟩
    · obtain ⟨x, hx⟩ := hw
      cases hx
  · rcases mem_tasks_set ht with ⟨rfl, rfl⟩ | ⟨-, ht⟩
    · rcases hw.of_cons with hw | ho
      · exact Or.inl ⟨_, delivery, a, token, htk, hq, hw, htoken, hnode⟩
      · right
        obtain rfl : o = .writeAuthority a := ho
        obtain rfl : q = .bootstrap (.bearer digest) request delivery := hq
        have hheld := held hr hlock
        have hperm : Request.Permits _ h (.writeAuthority a) :=
          (Prog.Abides.call_iff.mp (hr.abides (Request.abides config) (List.mem_of_getElem? htk))).1
        obtain ⟨hrewrites, hunwritten⟩ := hperm
        obtain ⟨a₀, hread, hreg⟩ := hrewrites.registers htoken hnode
        obtain ⟨fuse, -, rfl⟩ := (hheld.knows k _ htk rfl (hlock c _ ha _ htk rfl)).reads a₀ hread hunwritten
        exact ⟨⟨x, rfl⟩, fuse, a, hreg⟩
    · exact Or.inl ⟨t, delivery, a, token, ht, hq, hw, htoken, hnode⟩
  · exact Or.inl ⟨t, delivery, a, token, ht, hq, hw, htoken, hnode⟩

/-- No two bootstraps that committed their Nodes share a token or a Node id. -/
def CommitsOnce (c : Plane) : Prop :=
  ∀ i j digest digest' request request' node node', c.Committed i digest request node →
    c.Committed j digest' request' node' → digest = digest' ∨ node.nodeId = node'.nodeId → i = j

theorem commitsOnce (hr : Plane.Reaches config stable cond c) (hlock : ∀ c a, cond c a → Locked c a) : c.CommitsOnce := by
  refine hr.invariant (I := CommitsOnce) ?_ fun c action hr ha hinv => ?_
  · rintro i j digest digest' request request' node node' ⟨t, _, _, _, ht, _⟩
    simp at ht
  · intro i j digest digest' request request' node node' hi hj hsame
    rcases hi.of_act hr hlock ha with hold | ⟨⟨x, rfl⟩, fuse, a, hreg⟩
    · rcases hj.of_act hr hlock ha with hold' | ⟨⟨x, rfl⟩, fuse, a, hreg⟩
      · exact hinv i j _ _ _ _ _ _ hold hold' hsame
      · obtain ⟨hdigest, hid⟩ := hold.fresh hr hlock hreg
        rcases hsame with he | he
        · exact absurd he.symm hdigest
        · exact absurd he.symm hid
    · rcases hj.of_act hr hlock ha with hold | ⟨⟨x', hx'⟩, -⟩
      · obtain ⟨hdigest, hid⟩ := hold.fresh hr hlock hreg
        rcases hsame with he | he
        · exact absurd he hdigest
        · exact absurd he hid
      · exact (Action.step.inj hx').1

/-- What a bootstrap that ended well answered. -/
theorem answered (hr : Plane.Reaches config stable cond c) {j : ℕ} {digest : String} {request : NodeApi.BootstrapRequest}
    {delivery : Except Exc Unit} {node : Node} {h : History}
    (hj : c.tasks[j]? = some ⟨.bootstrap (.bearer digest) request delivery, .done (.ok (.node node)), h⟩) :
    Answered h digest request node := by
  have hends := Prog.Abides.done_iff.mp (hr.abides (Request.abides config) (List.mem_of_getElem? hj))
  obtain ⟨digest', hd, hans⟩ := hends _ request delivery node rfl rfl
  obtain rfl := NodeApi.Authorization.bearer.inj hd
  exact hans

end Plane

/-- **A bootstrap token commits at most one Node, and a Node id at most one Node**, whatever bootstraps run and
    wherever a process ends. A bootstrap with the token of a committed Node succeeds only for the attempt that
    committed it, and answers with that Node, which the registry keeps. -/
theorem bootstrap_single_use {config : Config} {stable : Timestamp} {c : Plane}
    (hr : Plane.Reaches config stable Plane.Locked c) {i : ℕ} {digest : String} {request : NodeApi.BootstrapRequest}
    {node : Node} (hi : c.Committed i digest request node) :
    (∀ j request' node', c.Committed j digest request' node' → j = i ∧ node' = node) ∧
    (∀ j digest' request' node', c.Committed j digest' request' node' → node'.nodeId = node.nodeId → j = i ∧ node' = node) ∧
    (∀ (j : ℕ) request' delivery node' h,
      c.tasks[j]? = some ⟨.bootstrap (.bearer digest) request' delivery, .done (.ok (.node node')), h⟩ →
        request'.attempt = request.attempt ∧ node'.fixed = node.fixed) ∧
    ∃ node', c.state.authority.nodes.lookup node.nodeId = some node' ∧ node'.fixed = node.fixed := by
  have hlock : ∀ c a, Plane.Locked c a → Plane.Locked c a := fun _ _ h => h
  have honce := Plane.commitsOnce hr hlock
  have hsame : ∀ digest' request' node', c.Committed i digest' request' node' → node' = node ∧ request' = request := by
    rintro digest' request' node' ⟨t', delivery', a', token', ht', hq', hw', htoken', hnode'⟩
    obtain ⟨t, delivery, a, token, ht, hq, hw, htoken, hnode⟩ := hi
    obtain rfl := Option.some.inj (ht.symm.trans ht')
    obtain ⟨hd, rfl, -⟩ := Request.bootstrap.inj (hq.symm.trans hq')
    obtain rfl := NodeApi.Authorization.bearer.inj hd
    obtain rfl := hw.unique hw' (Plane.permitted hr ht)
    obtain rfl := Option.some.inj (htoken.symm.trans htoken')
    exact ⟨(Option.some.inj (hnode.symm.trans hnode')).symm, rfl⟩
  obtain ⟨⟨token, htoken, htokenNode, hattempt⟩, kept, hkept, hlater⟩ := hi.kept hr hlock
  refine ⟨fun j request' node' hj => ?_, fun j digest' request' node' hj hid => ?_, ?_, kept, hkept, hlater.fixed⟩
  · obtain rfl := honce j i _ _ _ _ _ _ hj hi (Or.inl rfl)
    exact ⟨rfl, (hsame _ _ _ hj).1⟩
  · obtain rfl := honce j i _ _ _ _ _ _ hj hi (Or.inr hid)
    exact ⟨rfl, (hsame _ _ _ hj).1⟩
  · intro j request' delivery node' h hj
    cases Plane.answered hr hj with
    | registered a token' wrote tokenNode =>
      have hcommitted : c.Committed j digest request' node' := by
        refine ⟨_, delivery, _, token', hj, rfl, wrote, AList.lookup_insert _, ?_⟩
        rw [tokenNode]
        exact AList.lookup_insert _
      obtain rfl := honce j i _ _ _ _ _ _ hcommitted hi (Or.inl rfl)
      obtain ⟨rfl, rfl⟩ := hsame _ _ _ hcommitted
      exact ⟨rfl, rfl⟩
    | @replayed a token' read consumed attempt known =>
      have hgrows := Plane.seen hr hlock _ (List.mem_of_getElem? hj) a (Or.inl read)
      obtain rfl := Option.some.inj (htoken.symm.trans (hgrows.consumed consumed (by simp [attempt])))
      refine ⟨Option.some.inj (attempt.symm.trans hattempt), ?_⟩
      obtain ⟨kept', hkept', hlater'⟩ := hgrows.node _ _ known
      rw [htokenNode] at hkept'
      obtain rfl := Option.some.inj (hkept'.symm.trans hkept)
      exact hlater'.fixed.symm.trans hlater.fixed

/-- Whether the bootstrap has committed a Node for its token. -/
def commits (digest : String) (t : Task Request Op Op.Res Exc Response Input) : Bool :=
  match t.request with
  | .bootstrap (.bearer digest') _ _ =>
    digest' = digest && t.history.any fun e =>
      match e with
      | ⟨.writeAuthority a, _, .ok ()⟩ =>
        (a.tokens.lookup digest).any fun token => (a.nodes.lookup token.nodeId).isSome
      | _ => false
  | _ => false

theorem Plane.committed_of_commits {c : Plane} {i : ℕ} {digest : String} (h : (c.tasks[i]?).any (commits digest)) :
    ∃ request node, c.Committed i digest request node := by
  obtain ⟨t, ht, hc⟩ := (Option.any_eq_true _ _).mp h
  unfold commits at hc
  split at hc
  · rename_i digest' request delivery hq
    obtain ⟨hd, hany⟩ := Bool.and_eq_true_iff.mp hc
    obtain rfl := of_decide_eq_true hd
    obtain ⟨e, he, hwrote⟩ := List.any_eq_true.mp hany
    split at hwrote
    · rename_i a x
      obtain ⟨token, htoken, hnode⟩ := (Option.any_eq_true _ _).mp hwrote
      obtain ⟨node, hnode⟩ := Option.isSome_iff_exists.mp hnode
      exact ⟨request, node, t, delivery, a, token, ht, hq, ⟨x, he⟩, htoken, hnode⟩
    · cases hwrote
  · cases hc

/-- Whether the answer to the bootstrap is a Node. -/
def answersNode : Request → Except Exc Response → Bool
  | .bootstrap (.bearer "b") _ _, .ok (.node _) => true
  | _, _ => false

/-- A bootstrap whose answer is lost is sent again. -/
def Sample.bootstrappedTwice : List (Action Request Input) :=
  .start (.prepare (Sample.call .prod)) :: quietSteps 0 15 1 ++ .start Sample.bootstrap :: quietSteps 1 6 2 ++
    .start Sample.bootstrap :: quietSteps 2 2 3

theorem bootstrap_single_use_sample :
    let c := Plane.after Sample.config 5 Sample.bootstrappedTwice
    ∃ request node, c.Committed 1 "b" request node ∧
      (∀ j request' node', c.Committed j "b" request' node' → j = 1 ∧ node' = node) ∧
      ∃ request' delivery node' h,
        c.tasks[2]? = some ⟨.bootstrap (.bearer "b") request' delivery, .done (.ok (.node node')), h⟩ ∧
          node'.fixed = node.fixed := by
  intro c
  have hreach : Plane.Reaches Sample.config 5 Plane.Locked c :=
    Reachable.init.run_of_checks (fun _ _ => Pool.Exclusive.of_check) (by decide +kernel)
  obtain ⟨request, node, hcommitted⟩ : ∃ request node, c.Committed 1 "b" request node :=
    Plane.committed_of_commits (by decide +kernel)
  have hanswer : c.endSatisfies 2 answersNode := by decide +kernel
  obtain ⟨q, r, h, ht, hr⟩ := Pool.exists_of_endSatisfies hanswer
  obtain ⟨hunique, -, hreplay, -⟩ := bootstrap_single_use hreach hcommitted
  refine ⟨request, node, hcommitted, hunique, ?_⟩
  unfold answersNode at hr
  split at hr
  · rename_i request' delivery node'
    exact ⟨request', delivery, node', h, ht, (hreplay 2 request' delivery node' h ht).2⟩
  · cases hr

end IRLight
