import IRLight.ControlPlane.RegistryLock

/-! # One Node for one Session

A bootstrap binds its Session to the id that the registry issues next, and registers the Node under that id
later. A bootstrap that is cut short in between leaves the id bound, and the registry issues it again. -/

namespace IRLight
open Interleaving Status Call

/-- The Session store and the Node registry agree about who belongs to whom. -/
structure World.Agrees (w : World) : Prop where
  unique : ∀ sid sid' r r' nodeId, w.store.session? sid = some r → w.store.session? sid' = some r' →
    r.nodeId = some nodeId → r'.nodeId = some nodeId → sid = sid'
  assigned : ∀ sid r nodeId node, w.store.session? sid = some r → r.nodeId = some nodeId →
    w.authority.nodes.lookup nodeId = some node → node.sessionAssigned = true ∧ node.sessionId = sid

namespace Plane
variable {config : Config} {stable : Timestamp} {cond : Plane → Action Request Input → Prop} {c : Plane}

/-- A bootstrap has bound the Session to a Node id, and has not written the registry. -/
def Dangling (c : Plane) (sid nodeId : String) : Prop :=
  ∃ t ∈ c.tasks, ∃ bootId, Bound t.history sid nodeId bootId ∧ ∀ a, ¬Wrote t.history a

/-- The id of a bootstrap that was cut short goes to no other Session: no other is bound to it, and no Node without a
    Session is registered under it. -/
def Resumes (c : Plane) (action : Action Request Input) : Prop :=
  (∀ sid nodeId bootId server x r, c.Makes World.exec action ⟨.store (.bindNode sid nodeId bootId server), x, .ok r⟩ →
    ∀ sid', c.Dangling sid' nodeId → sid' = sid) ∧
  ∀ a x, c.Makes World.exec action ⟨.writeAuthority a, x, .ok ()⟩ → ∀ id node, a.nodes.lookup id = some node →
    c.state.authority.nodes.lookup id = none → node.sessionAssigned = false → ∀ sid', ¬c.Dangling sid' id

/-- What holds of the ids that Sessions are bound to. -/
structure BoundIds (c : Plane) : Prop where
  source : ∀ sid r nodeId, c.state.store.session? sid = some r → r.nodeId = some nodeId →
    ∃ t ∈ c.tasks, ∃ bootId, Bound t.history sid nodeId bootId
  unique : ∀ t ∈ c.tasks, ∀ t' ∈ c.tasks, ∀ sid sid' nodeId bootId bootId', Bound t.history sid nodeId bootId →
    Bound t'.history sid' nodeId bootId' → sid = sid'
  assigned : ∀ t ∈ c.tasks, ∀ sid nodeId bootId node, Bound t.history sid nodeId bootId →
    c.state.authority.nodes.lookup nodeId = some node → node.sessionAssigned = true ∧ node.sessionId = sid

/-- The id that a bootstrap bound and went on to register is in the registry. -/
theorem registered_of_wrote (hr : Plane.Reaches config stable cond c) (hlock : ∀ c a, cond c a → Locked c a)
    {t : Task Request Op Op.Res Exc Response Input} (ht : t ∈ c.tasks) {sid nodeId bootId : String}
    (hb : Bound t.history sid nodeId bootId) {a : NodeAuthority} (hw : Wrote t.history a) :
    ∃ node, c.state.authority.nodes.lookup nodeId = some node := by
  have hperm : Permitted t.request.Permits t.history := Reachable.permitted hr (Request.abides config) ht
  obtain ⟨node, hnode⟩ := hb.registered hw hperm
  obtain ⟨node', hnode', -⟩ := (seen hr hlock t ht a (Or.inr hw)).node nodeId node hnode
  exact ⟨node', hnode'⟩

/-- An id that the registry does not know and that a Session was bound to is left over from a bootstrap that was cut
    short. -/
theorem dangling_of_unregistered (hr : Plane.Reaches config stable cond c) (hlock : ∀ c a, cond c a → Locked c a)
    {t : Task Request Op Op.Res Exc Response Input} (ht : t ∈ c.tasks) {sid nodeId bootId : String}
    (hb : Bound t.history sid nodeId bootId) (hnone : c.state.authority.nodes.lookup nodeId = none) :
    c.Dangling sid nodeId := by
  refine ⟨t, ht, bootId, hb, fun a hw => ?_⟩
  obtain ⟨node, hnode⟩ := registered_of_wrote hr hlock ht hb hw
  rw [hnone] at hnode
  cases hnode

/-- The id that a bootstrap is about to bind is not in the registry. -/
theorem unregistered_of_bind (hr : Plane.Reaches config stable cond c) (hlock : ∀ c a, cond c a → Locked c a)
    {i : ℕ} {x : Input} (ha : cond c (.step i x)) {q : Request} {sid nodeId bootId server : String}
    {next : Except Exc (Op.store (.bindNode sid nodeId bootId server)).Res → Control Response} {h : History}
    (hti : c.tasks[i]? = some ⟨q, .call (.store (.bindNode sid nodeId bootId server)) next, h⟩) :
    c.state.authority.nodes.lookup nodeId = none := by
  have hheld := held hr hlock
  have hperm : q.Permits h (.store (.bindNode sid nodeId bootId server)) :=
    (Prog.Abides.call_iff.mp (hr.abides (Request.abides config) (List.mem_of_getElem? hti))).1
  obtain ⟨hboot, -, hunwritten, a, hread, rfl⟩ := hperm
  have hq := Request.isNode_of_isBootstrap hboot
  obtain ⟨fuse, -, rfl⟩ := (hheld.knows i _ hti hq (hlock c _ ha _ hti hq)).reads a hread hunwritten
  exact hheld.inv.1.fresh

theorem BoundIds.step (hr : Plane.Reaches config stable cond c) (hlock : ∀ c a, cond c a → Locked c a)
    (hresume : ∀ c a, cond c a → Resumes c a) {i : ℕ} {x : Input} (ha : cond c (.step i x)) {q : Request} {o : Op}
    {next : Except Exc o.Res → Control Response} {h : History} (hti : c.tasks[i]? = some ⟨q, .call o next, h⟩)
    (hb : c.BoundIds) : BoundIds ⟨World.exec.state i o x c.state,
      c.tasks.set i ⟨q, next (World.exec i o x c.state).1, World.exec.event i o x c.state :: h⟩⟩ := by
  have hmem := List.mem_of_getElem? hti
  obtain ⟨hi, -⟩ := List.getElem?_eq_some_iff.mp hti
  have hheld := held hr hlock
  have hp : q.Permits h o := (Prog.Abides.call_iff.mp (hr.abides (Request.abides config) hmem)).1
  have hknows : q.isNode → Knows q h c.state := fun hq => hheld.knows i _ hti hq (hlock c _ ha _ hti hq)
  have hmakes : c.Makes World.exec (.step i x) (World.exec.event i o x c.state) :=
    ⟨i, x, o, h, rfl, ⟨_, next, hti, rfl, rfl⟩, rfl⟩
  -- what was bound before the call, and what the call binds
  have hcases : ∀ t ∈ c.tasks.set i ⟨q, next (World.exec i o x c.state).1, World.exec.event i o x c.state :: h⟩,
      ∀ {sid nodeId bootId}, Bound t.history sid nodeId bootId → (∃ t ∈ c.tasks, Bound t.history sid nodeId bootId) ∨
        ∃ server r, World.exec.event i o x c.state = ⟨.store (.bindNode sid nodeId bootId server), x, .ok r⟩ := by
    intro t ht sid nodeId bootId hbound
    rcases List.mem_or_eq_of_mem_set ht with ht | rfl
    · exact Or.inl ⟨t, ht, hbound⟩
    · rcases hbound.of_cons with hold | ⟨server, x', r, he⟩
      · exact Or.inl ⟨_, hmem, hold⟩
      · obtain rfl : x = x' := congrArg Event.input he
        exact Or.inr ⟨server, r, he⟩
  have hfresh : ∀ {sid nodeId bootId server r},
      World.exec.event i o x c.state = ⟨.store (.bindNode sid nodeId bootId server), x, .ok r⟩ →
        c.state.authority.nodes.lookup nodeId = none := by
    intro sid nodeId bootId server r he
    obtain rfl : o = .store (.bindNode sid nodeId bootId server) := congrArg Event.op he
    exact unregistered_of_bind hr hlock ha hti
  have hclaim : ∀ {sid nodeId bootId server r},
      World.exec.event i o x c.state = ⟨.store (.bindNode sid nodeId bootId server), x, .ok r⟩ →
        ∀ t ∈ c.tasks, ∀ {sid' bootId'}, Bound t.history sid' nodeId bootId' → sid' = sid := by
    intro sid nodeId bootId server r he t ht sid' bootId' hbound
    refine (hresume c _ ha).1 sid nodeId bootId server x r (he ▸ hmakes) sid' ?_
    exact dangling_of_unregistered hr hlock ht hbound (hfresh he)
  refine ⟨fun sid r nodeId hsession hnode => ?_, fun t ht t' ht' sid sid' nodeId bootId bootId' hbt hbt' => ?_,
    fun t ht sid nodeId bootId node hbound hnode => ?_⟩
  · have hnew : (World.exec i o x c.state).2.store.binding? sid = some r.binding := by
      rw [SessionStore.binding?]
      exact congrArg (Option.map Session.binding) hsession
    have hkept : ∀ {sid nodeId bootId}, (∃ t ∈ c.tasks, Bound t.history sid nodeId bootId) →
        ∃ t ∈ c.tasks.set i ⟨q, next (World.exec i o x c.state).1, World.exec.event i o x c.state :: h⟩,
          ∃ bootId, Bound t.history sid nodeId bootId := by
      rintro sid nodeId bootId ⟨t, ht, server, x', r, hevent⟩
      obtain ⟨j, htj⟩ := List.mem_iff_getElem?.mp ht
      by_cases hij : i = j
      · subst hij
        obtain rfl := Option.some.inj (hti.symm.trans htj)
        exact ⟨_, List.mem_set hi _, bootId, server, x', r, List.mem_cons_of_mem _ hevent⟩
      · exact ⟨t, List.mem_of_getElem? ((List.getElem?_set_ne hij).trans htj), bootId, server, x', r, hevent⟩
    rcases World.exec_binding (i := i) (x := x) hp
        (fun hq sid nodeId bootId hh => ((hknows (Request.isNode_of_isHeartbeat hq)).heard sid nodeId bootId hh).2) sid with
      hsame | ⟨-, hnone⟩ | ⟨nodeId', bootId, server, r', -, he, hbound⟩
    · rw [hnew] at hsame
      obtain ⟨r₀, hr₀, hbinding⟩ := Option.map_eq_some_iff.mp hsame.symm
      have hid : r₀.nodeId = r.nodeId := congrArg Prod.fst hbinding
      obtain ⟨t, ht, bootId, hbound⟩ := hb.source sid r₀ nodeId hr₀ (hid.trans hnode)
      exact hkept ⟨t, ht, hbound⟩
    · rw [hnew] at hnone
      have hid : r.nodeId = none := congrArg Prod.fst (Option.some.inj hnone)
      rw [hid] at hnode
      cases hnode
    · rw [SessionStore.BoundTo, hnew] at hbound
      have hid : r.nodeId = some nodeId' := congrArg Prod.fst (Option.some.inj hbound)
      obtain rfl := Option.some.inj (hid.symm.trans hnode)
      exact ⟨_, List.mem_set hi _, bootId, server, x, r', he ▸ List.mem_cons_self⟩
  · rcases hcases t ht hbt with ⟨t₀, ht₀, hold⟩ | ⟨server, r, he⟩
    · rcases hcases t' ht' hbt' with ⟨t₁, ht₁, hold'⟩ | ⟨server, r, he⟩
      · exact hb.unique t₀ ht₀ t₁ ht₁ _ _ _ _ _ hold hold'
      · exact hclaim he t₀ ht₀ hold
    · rcases hcases t' ht' hbt' with ⟨t₁, ht₁, hold'⟩ | ⟨server', r', he'⟩
      · exact (hclaim he t₁ ht₁ hold').symm
      · have hop := congrArg Event.op (he.symm.trans he')
        exact (StoreOp.bindNode.inj (Op.store.inj hop)).1
  · have hnew := World.exec_node hheld.inv.1 (fun hq => (hknows hq).reads) hp hnode
    rcases hcases t ht hbound with ⟨t₀, ht₀, hold⟩ | ⟨server, r, he⟩
    · rcases hnew with ⟨old, hlookup, hlater⟩ | ⟨hnone, rfl, hassigned, a, hwrite, hlookup⟩
      · rw [hlater.sessionAssigned, hlater.sessionId]
        exact hb.assigned t₀ ht₀ sid nodeId bootId old hold hlookup
      · cases hs : node.sessionAssigned with
        | true => exact ⟨rfl, hb.unique _ hmem t₀ ht₀ _ _ _ _ _ (hassigned hs) hold⟩
        | false =>
          have hdangling := dangling_of_unregistered hr hlock ht₀ hold hnone
          exact absurd hdangling ((hresume c _ ha).2 a x (hwrite ▸ hmakes) _ _ hlookup hnone hs sid)
    · rcases hnew with ⟨old, hlookup, -⟩ | ⟨-, -, -, a, hwrite, -⟩
      · rw [hfresh he] at hlookup
        cases hlookup
      · cases congrArg Event.op (he.symm.trans hwrite)

theorem boundIds (hr : Plane.Reaches config stable cond c) (hlock : ∀ c a, cond c a → Locked c a)
    (hresume : ∀ c a, cond c a → Resumes c a) : c.BoundIds := by
  refine hr.invariant (I := BoundIds) ?_ fun c a hr ha hb => ?_
  · refine ⟨fun sid r nodeId hsession _ => ?_, fun t ht => ?_, fun t ht => ?_⟩
    · simp [World.initial, SessionStore.session?] at hsession
    · cases ht
    · cases ht
  · rcases Pool.act_cases World.exec (Request.program config) c a with
      ⟨q, rfl, he⟩ | ⟨i, x, q, o, next, h, rfl, hti, he⟩ | he <;> rw [he]
    · have hold : ∀ t ∈ c.tasks ++ [⟨q, q.program config, []⟩], ∀ {sid nodeId bootId}, Bound t.history sid nodeId bootId →
          t ∈ c.tasks := by
        rintro t ht sid nodeId bootId ⟨_, _, _, hx⟩
        rcases List.mem_append.mp ht with ht | ht
        · exact ht
        · rw [List.mem_singleton.mp ht] at hx
          cases hx
      refine ⟨fun sid r nodeId hsession hnode => ?_, fun t ht t' ht' sid sid' nodeId bootId bootId' hbt hbt' => ?_,
        fun t ht sid nodeId bootId node hbt hnode => hb.assigned t (hold t ht hbt) sid nodeId bootId node hbt hnode⟩
      · obtain ⟨t, ht, hbt⟩ := hb.source sid r nodeId hsession hnode
        exact ⟨t, List.mem_append_left _ ht, hbt⟩
      · exact hb.unique t (hold t ht hbt) t' (hold t' ht' hbt') _ _ _ _ _ hbt hbt'
    · exact BoundIds.step hr hlock hresume ha hti hb
    · exact hb

end Plane

/-- **The Session store and the Node registry agree about who belongs to whom** in every run where the id of a bootstrap
    that was cut short goes to no other Session. -/
theorem node_binding_agrees {config : Config} {stable : Timestamp} {c : Plane}
    (hr : Plane.Reaches config stable (fun c a => Plane.Locked c a ∧ Plane.Resumes c a) c) : c.state.Agrees := by
  have hb := Plane.boundIds hr (fun _ _ h => h.1) fun _ _ h => h.2
  refine ⟨fun sid sid' r r' nodeId hr hr' hn hn' => ?_, fun sid r nodeId node hr hn hnode => ?_⟩
  · obtain ⟨t, ht, bootId, hbt⟩ := hb.source sid r nodeId hr hn
    obtain ⟨t', ht', bootId', hbt'⟩ := hb.source sid' r' nodeId hr' hn'
    exact hb.unique t ht t' ht' _ _ _ _ _ hbt hbt'
  · obtain ⟨t, ht, bootId, hbt⟩ := hb.source sid r nodeId hr hn
    exact hb.assigned t ht sid nodeId bootId node hbt hnode

/-- A call that binds no Session to an id of another and registers no Node without a Session. -/
def resumes (c : Plane) : Action Request Input → Bool
  | .start _ => true
  | .step i _ => c.nextSatisfies i fun _ o _ =>
      match o with
      | .store (.bindNode sid nodeId _ _) => c.tasks.all fun t => t.history.all fun e =>
          match e.op with
          | .store (.bindNode sid' nodeId' _ _) => nodeId' ≠ nodeId || sid' = sid
          | _ => true
      | .writeAuthority a => a.nodes.entries.all fun e => e.2.sessionAssigned
      | _ => true

theorem resumes_of_check (c : Plane) (action : Action Request Input) (ha : resumes c action) : c.Resumes action := by
  refine ⟨?_, ?_⟩
  · rintro sid nodeId bootId server x r ⟨i, x', o, h, rfl, hcall, he⟩ sid' ⟨t, ht, bootId', ⟨server', x'', r', hx''⟩, -⟩
    obtain rfl : .store (.bindNode sid nodeId bootId server) = o := congrArg Event.op he
    obtain ⟨q, hφ⟩ := hcall.satisfies ha
    simp only [List.all_eq_true] at hφ
    have hone := hφ t ht _ hx''
    simpa using hone
  · rintro a x ⟨i, x', o, h, rfl, hcall, he⟩ id node hlookup - hs
    obtain rfl : .writeAuthority a = o := congrArg Event.op he
    obtain ⟨q, hφ⟩ := hcall.satisfies ha
    simp only [List.all_eq_true] at hφ
    have hone := hφ ⟨id, node⟩ (AList.mem_lookup_iff.mp hlookup)
    rw [hs] at hone
    cases hone

/-- A process ends between the bind and the registry write, and the Node bootstraps again. -/
def Sample.bootstrapResumed : List (Action Request Input) :=
  .start (.prepare (Sample.call .prod)) :: quietSteps 0 15 1 ++
    .start (Sample.bootstrapOn "0-12" "boot" "b") :: quietSteps 1 4 2 ++
    .start (Sample.bootstrapOn "0-12" "boot" "b") :: quietSteps 2 6 3

theorem node_binding_agrees_sample :
    let c := Plane.after Sample.twoTokens 5 Sample.bootstrapResumed
    c.state.Agrees ∧ ∃ r node, c.state.store.session? Sample.sid = some r ∧ r.nodeId = some "node-0001" ∧
      c.state.authority.nodes.lookup "node-0001" = some node ∧ node.sessionId = Sample.sid := by
  intro c
  have hreach : Plane.Reaches Sample.twoTokens 5 (fun c a => Plane.Locked c a ∧ Plane.Resumes c a) c := by
    have hcheck : ∀ (c : Plane) a, c.exclusive (fun q => q.isNode) a && resumes c a → Plane.Locked c a ∧ c.Resumes a := by
      intro c a h
      obtain ⟨hlock, hresume⟩ := Bool.and_eq_true_iff.mp h
      exact ⟨Pool.Exclusive.of_check hlock, resumes_of_check c a hresume⟩
    exact Reachable.init.run_of_checks hcheck (by decide +kernel)
  have hagrees := node_binding_agrees hreach
  have hbound : (c.state.store.session? Sample.sid).any fun r => r.nodeId = some "node-0001" := by decide +kernel
  have hnode : (c.state.authority.nodes.lookup "node-0001").isSome := by decide +kernel
  obtain ⟨r, hr, hn⟩ := (Option.any_eq_true _ _).mp hbound
  obtain ⟨node, hnode⟩ := Option.isSome_iff_exists.mp hnode
  have hn := of_decide_eq_true hn
  exact ⟨hagrees, r, node, hr, hn, hnode, (hagrees.assigned _ _ _ _ hr hn hnode).2⟩

/-- Two users' Nodes bootstrap, and the first one's process ends between the bind and the registry write. -/
def Sample.bootstrapCutShort : List (Action Request Input) :=
  let other : Api.PrepareCall :=
    { Sample.call .prod with sessionId := "22222222-2222-4222-8222-222222222222", userId := "b" }
  .start (.prepare (Sample.call .prod)) :: quietSteps 0 15 1 ++ .start (.prepare other) :: quietSteps 1 15 1 ++
    .start (Sample.bootstrapOn "0-12" "boot" "b") :: quietSteps 2 4 2 ++
    .start (Sample.bootstrapOn "1-27" "boot2" "b2") :: quietSteps 3 6 3

/-- Both Sessions are bound to the one Node, which belongs to the second. -/
theorem node_id_reissued :
    let c := Plane.after Sample.twoTokens 5 Sample.bootstrapCutShort
    Plane.Reaches Sample.twoTokens 5 Plane.Locked c ∧ ¬c.state.Agrees := by
  intro c
  have hreach : Plane.Reaches Sample.twoTokens 5 Plane.Locked c :=
    Reachable.init.run_of_checks (fun _ _ => Pool.Exclusive.of_check) (by decide +kernel)
  refine ⟨hreach, fun hagrees => ?_⟩
  have hfirst : (c.state.store.session? Sample.sid).any fun r => r.nodeId = some "node-0001" := by decide +kernel
  have hsecond : (c.state.store.session? "22222222-2222-4222-8222-222222222222").any fun r =>
      r.nodeId = some "node-0001" := by decide +kernel
  obtain ⟨r, hr, hn⟩ := (Option.any_eq_true _ _).mp hfirst
  obtain ⟨r', hr', hn'⟩ := (Option.any_eq_true _ _).mp hsecond
  have hsame := hagrees.unique _ _ r r' "node-0001" hr hr' (of_decide_eq_true hn) (of_decide_eq_true hn')
  exact absurd hsame (by decide)

end IRLight
