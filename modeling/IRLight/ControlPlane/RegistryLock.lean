import IRLight.ControlPlane.Bindings
import IRLight.ControlPlane.Registry

/-! # The registry under its lock

What a request about a Node read is still what the registry holds when it writes, so in every run under the
lock the registry only grows (`Plane.known`). -/

namespace IRLight
open Interleaving Status Call

/-- What the next reader of the registry sees: a token that the former build's ledger names counts as consumed. -/
def World.registry (w : World) : NodeAuthority := w.authority.withFuse w.fuse

/-- The ledger of the former build names no attempt. -/
def TokenLedger.Anonymous (fuse : TokenLedger) : Prop := ∀ digest t, fuse.lookup digest = some t → t.attempt = none

theorem TokenLedger.Anonymous.insert {fuse : TokenLedger} (hf : fuse.Anonymous) {digest : String} {t : TokenRecord}
    (ht : t.attempt = none) : TokenLedger.Anonymous (AList.insert digest t fuse) := by
  intro d t' hd
  by_cases he : d = digest
  · subst he
    rw [AList.lookup_insert] at hd
    obtain rfl := Option.some.inj hd
    exact ht
  · rw [AList.lookup_insert_ne he] at hd
    exact hf d t' hd

namespace NodeAuthority
variable {a a' : NodeAuthority} {fuse fuse' : TokenLedger} {digest : String} {token : TokenRecord}

theorem lookup_withFuse_of_some (h : a.tokens.lookup digest = some token) :
    (a.withFuse fuse).tokens.lookup digest = some token :=
  (AList.lookup_union_left (AList.lookup_isSome.mp (by simp [h]))).trans h

theorem lookup_withFuse_of_none (h : a.tokens.lookup digest = none) :
    (a.withFuse fuse).tokens.lookup digest = fuse.lookup digest :=
  AList.lookup_union_right (AList.lookup_eq_none.mp h)

/-- A token that was consumed with an attempt is the registry's own. -/
theorem lookup_of_withFuse (hf : fuse.Anonymous) (h : (a.withFuse fuse).tokens.lookup digest = some token)
    (hsome : token.attempt.isSome) : a.tokens.lookup digest = some token := by
  cases ha : a.tokens.lookup digest with
  | none =>
    rw [lookup_withFuse_of_none ha] at h
    rw [hf digest token h] at hsome
    cases hsome
  | some t => exact (lookup_withFuse_of_some ha).symm.trans h

/-- Growth goes through to what a reader sees, whose ledger may have grown as well. -/
theorem Grows.withFuse (h : a.Grows a') (hf : fuse.Anonymous)
    (hkeep : ∀ d t, fuse.lookup d = some t → ∃ t', fuse'.lookup d = some t') :
    (a.withFuse fuse).Grows (a'.withFuse fuse') := by
  refine ⟨h.sequence, h.node, fun d t ht => ?_⟩
  cases ha : a.tokens.lookup d with
  | some t₀ =>
    obtain rfl := Option.some.inj ((lookup_withFuse_of_some ha).symm.trans ht)
    obtain ⟨t', ht', hsame⟩ := h.token d t₀ ha
    exact ⟨t', lookup_withFuse_of_some ht', hsame⟩
  | none =>
    rw [lookup_withFuse_of_none ha] at ht
    have hnone := hf d t ht
    have hany : ∃ t', (a'.withFuse fuse').tokens.lookup d = some t' := by
      cases ha' : a'.tokens.lookup d with
      | some t' => exact ⟨t', lookup_withFuse_of_some ha'⟩
      | none =>
        obtain ⟨t', ht'⟩ := hkeep d t ht
        exact ⟨t', (lookup_withFuse_of_none ha').trans ht'⟩
    obtain ⟨t', ht'⟩ := hany
    exact ⟨t', ht', fun hsome => by simp [hnone] at hsome⟩

theorem Accepted.withFuse (h : a.Accepted) (fuse : TokenLedger) : (a.withFuse fuse).Accepted := ⟨h.own, h.issued⟩

end NodeAuthority

/-! ### One call -/

/-- A call that changes neither the registry nor its ledger. -/
theorem World.exec_registry_other {i : ℕ} {o : Op} {x : Input} {w : World} (hwrite : ∀ a, o ≠ .writeAuthority a)
    (hfuse : ∀ digest nodeId sid consumedAt, o ≠ .writeTokenFuse digest nodeId sid consumedAt) :
    (World.exec i o x w).2.authority = w.authority ∧ (World.exec i o x w).2.fuse = w.fuse := by
  have hprovider : ∀ {α : Type} (w : World) (a : α) (inv : Inventory),
      (w.callProvider x a inv).2.authority = w.authority ∧ (w.callProvider x a inv).2.fuse = w.fuse := by
    intro α w a inv
    unfold World.callProvider
    split
    · split <;> exact ⟨rfl, rfl⟩
    · exact ⟨rfl, rfl⟩
  have htransact : ∀ {α σ : Type} (w : World) (fault : Option Exc) (run : Except Exc (α × σ)) (set : σ → World),
      (∀ s, (set s).authority = w.authority ∧ (set s).fuse = w.fuse) →
      (w.transact fault run set).2.authority = w.authority ∧ (w.transact fault run set).2.fuse = w.fuse := by
    intro α σ w fault run set hset
    exact ⟨World.transact_keeps World.authority fun s => (hset s).1, World.transact_keeps World.fuse fun s => (hset s).2⟩
  cases o with
  | store so => exact htransact { w with serial := w.serial + 1 } _ _ _ fun _ => ⟨rfl, rfl⟩
  | issue => exact htransact { w with serial := w.serial + 1 } _ _ _ fun _ => ⟨rfl, rfl⟩
  | revokeSession => exact htransact { w with serial := w.serial + 1 } _ _ _ fun _ => ⟨rfl, rfl⟩
  | readAuthority => exact htransact { w with serial := w.serial + 1 } _ _ _ fun _ => ⟨rfl, rfl⟩
  | writeTokenFuse => exact absurd rfl (hfuse _ _ _ _)
  | writeAuthority a => exact absurd rfl (hwrite a)
  | time => exact ⟨rfl, rfl⟩
  | uuid => exact ⟨rfl, rfl⟩
  | _ => exact hprovider { w with serial := w.serial + 1 } _ _

/-- The ledger of the former build gets one more record, or the call raised. -/
theorem World.exec_writeTokenFuse (i : ℕ) (digest nodeId sid : String) (consumedAt : Timestamp) (x : Input) (w : World) :
    (World.exec i (.writeTokenFuse digest nodeId sid consumedAt) x w).2.authority = w.authority ∧
      ((World.exec i (.writeTokenFuse digest nodeId sid consumedAt) x w).2.fuse = w.fuse ∨
        (World.exec i (.writeTokenFuse digest nodeId sid consumedAt) x w).2.fuse =
          w.fuse.insert digest ⟨consumedAt, nodeId, sid, none⟩) := by
  cases hx : x.fault with
  | some m => exact ⟨by simp [World.exec, World.transact, hx], Or.inl (by simp [World.exec, World.transact, hx])⟩
  | none => exact ⟨by simp [World.exec, World.transact, hx], Or.inr (by simp [World.exec, World.transact, hx])⟩

/-- The registry is replaced by one that is accepted, or the call raised. -/
theorem World.exec_writeAuthority (i : ℕ) (a : NodeAuthority) (x : Input) (w : World) :
    (World.exec i (.writeAuthority a) x w).2.fuse = w.fuse ∧
      ((World.exec i (.writeAuthority a) x w).1 = .ok () ∧ a.validate = .ok () ∧
          (World.exec i (.writeAuthority a) x w).2.authority = a ∨
        (∃ e, (World.exec i (.writeAuthority a) x w).1 = .error e) ∧
          (World.exec i (.writeAuthority a) x w).2.authority = w.authority) := by
  cases hx : x.fault with
  | some m =>
    refine ⟨by simp [World.exec, World.transact, hx], Or.inr ?_⟩
    exact ⟨⟨.nodeStateError m, by simp [World.exec, World.transact, hx]⟩, by simp [World.exec, World.transact, hx]⟩
  | none =>
    cases hv : a.validate with
    | ok u =>
      refine ⟨by simp [World.exec, World.transact, hx, hv, Except.map], Or.inl ⟨?_, rfl, ?_⟩⟩
      · simp [World.exec, World.transact, hx, hv, Except.map]
      · simp [World.exec, World.transact, hx, hv, Except.map]
    | error e =>
      refine ⟨by simp [World.exec, World.transact, hx, hv, Except.map], Or.inr ⟨⟨e, ?_⟩, ?_⟩⟩
      · simp [World.exec, World.transact, hx, hv, Except.map]
      · simp [World.exec, World.transact, hx, hv, Except.map]

theorem World.exec_readAuthority {i : ℕ} {x : Input} {w : World} {a : NodeAuthority}
    (h : (World.exec i .readAuthority x w).1 = .ok a) : a = w.registry := by
  cases hx : x.fault with
  | some m => simp [World.exec, World.transact, hx] at h
  | none =>
    have hok : (World.exec i .readAuthority x w).1 = .ok w.registry := by
      simp [World.exec, World.transact, hx, World.registry]
    exact Except.ok.inj (h.symm.trans hok)

/-! ### The lock -/

namespace Request

/-- What is permitted to a request that is not about a Node. -/
theorem permits_of_nodeFree (q : Request) (hq : ¬q.isNode) {o : Op} (ho : o.ofNode = false) (h : History) :
    q.Permits h o := by
  unfold Permits
  split
  · exact fun hq' => absurd hq' hq
  · cases ho
  · cases ho
  · cases ho
  · cases ho
  · cases ho
  · cases ho
  · trivial

/-- What the handlers permit themselves, and how a bootstrap answers. -/
theorem abides (config : Config) (q : Request) : (q.program config).Abides q.Permits q.Ends [] := by
  by_cases hq : q.isNode
  · cases q with
    | bootstrap authorization request delivery =>
      refine .bind (NodeApi.bootstrap_abides config.node) (fun node h' _ hnode => .done ?_) fun e h' _ _ _ _ _ _ _ he => by
        cases he
      rintro authorization' request' delivery' node' he hr
      obtain ⟨rfl, rfl, rfl⟩ := Request.bootstrap.inj he
      obtain rfl := Response.node.inj (Except.ok.inj hr)
      exact hnode node rfl
    | heartbeat =>
      refine .bind (NodeApi.heartbeat_abides config.node) (fun _ _ _ _ => .done ?_) fun _ _ _ _ _ _ _ _ he => by cases he
      exact fun _ _ _ _ he => by cases he
    | stopNode =>
      refine .bind NodeApi.stopNode_abides (fun _ _ _ _ => .done ?_) fun _ _ _ _ _ _ _ _ he => by cases he
      exact fun _ _ _ _ he => by cases he
    | _ => cases hq
  · have hfree : NodeFree (q.program config) := q.nodeFree config (Bool.not_eq_true _ ▸ hq)
    refine (Prog.Abides.of_only (F := fun _ => True) hfree trivial fun o h ho _ => ⟨?_, fun _ _ => trivial⟩).mono
      fun r h _ _ authorization request delivery node he _ => ?_
    · exact q.permits_of_nodeFree hq ho h
    · subst he
      exact absurd rfl hq

/-- A request that is not about a Node leaves the registry alone. -/
theorem keeps_registry {q : Request} (hq : ¬q.isNode) {h : History} {o : Op} (hp : q.Permits h o) (i : ℕ) (x : Input)
    (w : World) : (World.exec i o x w).2.authority = w.authority ∧ (World.exec i o x w).2.fuse = w.fuse := by
  refine World.exec_registry_other ?_ ?_
  · rintro a rfl
    cases hp.1 <;> exact hq rfl
  · rintro digest nodeId sid consumedAt rfl
    exact hq hp

end Request

/-- What the holder of the lock read is what the registry holds, until it writes. -/
def Reads (h : History) (w : World) : Prop :=
  ∀ a, Consulted h a → (∀ a', ¬Wrote h a') → ∃ fuse : TokenLedger, fuse.Anonymous ∧ a = w.authority.withFuse fuse

theorem Reads.cons {h : History} {w w' : World} (hk : Reads h w) {e : Event Op Op.Res Exc Input}
    (hread : e.op ≠ .readAuthority) (hauth : w'.authority = w.authority) : Reads (e :: h) w' := by
  rintro a ⟨x, hx⟩ hw
  rw [hauth]
  rcases List.mem_cons.mp hx with rfl | hx
  · exact absurd rfl hread
  · refine hk a ⟨x, hx⟩ fun a' ⟨x', hx'⟩ => hw a' ⟨x', List.mem_cons_of_mem e hx'⟩

/-- What the holder of the lock knows. -/
structure Knows (q : Request) (h : History) (w : World) : Prop where
  reads : Reads h w
  heard : ∀ sid nodeId bootId, Heard h sid nodeId bootId → q.isHeartbeat ∧ w.store.BoundTo sid nodeId bootId
  bound : ∀ sid nodeId bootId, Bound h sid nodeId bootId → q.isBootstrap ∧ w.store.BoundTo sid nodeId bootId

/-- A call of the holder keeps what it knows of the registry. -/
theorem Reads.own {q : Request} {h : History} {o : Op} {i : ℕ} {x : Input} {w : World} (hk : Reads h w) (hq : q.isNode)
    (hfuse : w.fuse.Anonymous) (hp : q.Permits h o) : Reads (World.exec.event i o x w :: h) (World.exec.state i o x w) := by
  unfold Exec.state
  by_cases hwrite : ∃ a, o = .writeAuthority a
  · obtain ⟨a, rfl⟩ := hwrite
    obtain ⟨-, ⟨hok, -, -⟩ | ⟨-, ha⟩⟩ := World.exec_writeAuthority i a x w
    · intro a' _ hw
      refine absurd ⟨x, ?_⟩ (hw a)
      rw [Exec.event, hok]
      exact List.mem_cons_self
    · exact hk.cons (by simp [Exec.event]) ha
  · by_cases hledger : ∃ digest nodeId sid consumedAt, o = .writeTokenFuse digest nodeId sid consumedAt
    · obtain ⟨digest, nodeId, sid, consumedAt, rfl⟩ := hledger
      exact hk.cons (by simp [Exec.event]) (World.exec_writeTokenFuse i digest nodeId sid consumedAt x w).1
    · push Not at hwrite hledger
      obtain ⟨ha, -⟩ := World.exec_registry_other (i := i) (x := x) (w := w) hwrite hledger
      by_cases hread : o = .readAuthority
      · subst hread
        obtain rfl := hp hq
        rintro a ⟨x', hx'⟩ -
        obtain hx' := List.mem_singleton.mp hx'
        simp only [Exec.event, Event.mk.injEq, heq_eq_eq, true_and] at hx'
        rw [ha]
        exact ⟨w.fuse, hfuse, World.exec_readAuthority hx'.2.symm⟩
      · exact hk.cons hread ha

/-- A call keeps the registry acceptable and its ledger anonymous. -/
theorem World.exec_accepted {i : ℕ} {o : Op} {x : Input} {w : World} (haccept : w.authority.Accepted)
    (hfuse : w.fuse.Anonymous) :
    (World.exec i o x w).2.authority.Accepted ∧ (World.exec i o x w).2.fuse.Anonymous := by
  by_cases hwrite : ∃ a, o = .writeAuthority a
  · obtain ⟨a, rfl⟩ := hwrite
    obtain ⟨hf, ⟨-, hvalid, ha⟩ | ⟨-, ha⟩⟩ := World.exec_writeAuthority i a x w
    · rw [ha, hf]
      exact ⟨NodeAuthority.accepted_of_validate hvalid, hfuse⟩
    · rw [ha, hf]
      exact ⟨haccept, hfuse⟩
  · by_cases hledger : ∃ digest nodeId sid consumedAt, o = .writeTokenFuse digest nodeId sid consumedAt
    · obtain ⟨digest, nodeId, sid, consumedAt, rfl⟩ := hledger
      obtain ⟨ha, hf | hf⟩ := World.exec_writeTokenFuse i digest nodeId sid consumedAt x w
      · rw [ha, hf]
        exact ⟨haccept, hfuse⟩
      · rw [ha, hf]
        exact ⟨haccept, hfuse.insert rfl⟩
    · push Not at hwrite hledger
      obtain ⟨ha, hf⟩ := World.exec_registry_other (i := i) (x := x) (w := w) hwrite hledger
      rw [ha, hf]
      exact ⟨haccept, hfuse⟩

theorem Heard.of_cons {h : History} {e : Event Op Op.Res Exc Input} {sid nodeId bootId : String}
    (hh : Heard (e :: h) sid nodeId bootId) : Heard h sid nodeId bootId ∨
      ∃ observed ready x, e = ⟨.store (.recordNodeHeartbeat sid nodeId bootId observed ready), x, .ok true⟩ := by
  obtain ⟨observed, ready, x, hx⟩ := hh
  rcases List.mem_cons.mp hx with rfl | hx
  · exact Or.inr ⟨observed, ready, x, rfl⟩
  · exact Or.inl ⟨observed, ready, x, hx⟩

theorem Bound.of_cons {h : History} {e : Event Op Op.Res Exc Input} {sid nodeId bootId : String}
    (hb : Bound (e :: h) sid nodeId bootId) : Bound h sid nodeId bootId ∨
      ∃ server x r, e = ⟨.store (.bindNode sid nodeId bootId server), x, .ok r⟩ := by
  obtain ⟨server, x, r, hx⟩ := hb
  rcases List.mem_cons.mp hx with rfl | hx
  · exact Or.inr ⟨server, x, r, rfl⟩
  · exact Or.inl ⟨server, x, r, hx⟩

/-! ### What one task wrote -/

section
variable {q : Request} {h : History} {a a' : NodeAuthority}

theorem Wrote.of_cons {e : Event Op Op.Res Exc Input} (hw : Wrote (e :: h) a) : Wrote h a ∨ e.op = .writeAuthority a := by
  obtain ⟨x, hx⟩ := hw
  rcases List.mem_cons.mp hx with rfl | hx
  · exact Or.inr rfl
  · exact Or.inl ⟨x, hx⟩

/-- A task writes the registry as its request does. -/
theorem Wrote.rewrites (hw : Wrote h a) (hp : Permitted q.Permits h) : ∃ h', h' ⊆ h ∧ Rewrites h' q a := by
  induction h with
  | nil =>
    obtain ⟨x, hx⟩ := hw
    cases hx
  | cons e h ih =>
    rcases hw.of_cons with hw | he
    · obtain ⟨h', hsub, hrw⟩ := ih hw hp.2
      exact ⟨h', fun e' he' => List.mem_cons_of_mem e (hsub he'), hrw⟩
    · have hperm := hp.1
      rw [he] at hperm
      exact ⟨h, List.subset_cons_self e h, hperm.1⟩

/-- A task writes the registry at most once. -/
theorem Wrote.unique (hw : Wrote h a) (hw' : Wrote h a') (hp : Permitted q.Permits h) : a = a' := by
  induction h with
  | nil =>
    obtain ⟨x, hx⟩ := hw
    cases hx
  | cons e h ih =>
    have hfirst : ∀ {a a'}, e.op = .writeAuthority a → ¬Wrote h a' := by
      intro a a' he
      have hperm := hp.1
      rw [he] at hperm
      exact hperm.2 a'
    rcases hw.of_cons with hw | he <;> rcases hw'.of_cons with hw' | he'
    · exact ih hw hw' hp.2
    · exact absurd hw (hfirst he')
    · exact absurd hw' (hfirst he)
    · exact Op.writeAuthority.inj (he.symm.trans he')

theorem Consulted.mono {h' : History} (hc : Consulted h' a) (hsub : h' ⊆ h) : Consulted h a := by
  obtain ⟨x, hx⟩ := hc
  exact ⟨x, hsub hx⟩

/-- A task about a Node reads the registry at its start only. -/
theorem Consulted.unique (hc : Consulted h a) (hc' : Consulted h a') (hq : q.isNode) (hp : Permitted q.Permits h) :
    a = a' := by
  induction h with
  | nil =>
    obtain ⟨x, hx⟩ := hc
    cases hx
  | cons e h ih =>
    obtain ⟨x, hx⟩ := hc
    obtain ⟨x', hx'⟩ := hc'
    have hempty : e.op = .readAuthority → h = [] := by
      intro he
      have hperm := hp.1
      rw [he] at hperm
      exact hperm hq
    rcases List.mem_cons.mp hx with rfl | hold
    · obtain rfl := hempty rfl
      rw [List.mem_singleton] at hx'
      simp only [Event.mk.injEq, heq_eq_eq, true_and, Except.ok.injEq] at hx'
      exact hx'.2.symm
    · rcases List.mem_cons.mp hx' with rfl | hold'
      · obtain rfl := hempty rfl
        cases hold
      · exact ih ⟨x, hold⟩ ⟨x', hold'⟩ hp.2

/-- The id that a Session was bound to is the one that the registry issues next. -/
theorem Bound.issued {sid nodeId bootId : String} (hb : Bound h sid nodeId bootId) (hp : Permitted q.Permits h) :
    q.isBootstrap ∧ ∃ a, Consulted h a ∧ nodeId = NodeAuthority.nodeId a.nextNodeSeq := by
  induction h with
  | nil =>
    obtain ⟨_, _, _, hx⟩ := hb
    cases hx
  | cons e h ih =>
    rcases hb.of_cons with hb | ⟨server, x, r, rfl⟩
    · obtain ⟨hq, a, ha, hid⟩ := ih hb hp.2
      exact ⟨hq, a, ha.cons e, hid⟩
    · obtain ⟨⟨hq, -, -, a, ha, hid⟩, -⟩ := hp
      exact ⟨hq, a, ha.cons _, hid⟩

/-- A bootstrap that bound a Session and wrote the registry has registered the Node under the id it bound. -/
theorem Bound.registered {sid nodeId bootId : String} (hb : Bound h sid nodeId bootId) (hw : Wrote h a)
    (hp : Permitted q.Permits h) : ∃ node, a.nodes.lookup nodeId = some node := by
  obtain ⟨hq, a₁, hread₁, rfl⟩ := hb.issued hp
  obtain ⟨h', hsub, hrw⟩ := hw.rewrites hp
  cases hrw with
  | register read free id running tokenNode attempt assigned =>
    obtain rfl := (read.mono hsub).unique hread₁ rfl hp
    rw [← id]
    exact ⟨_, AList.lookup_insert _⟩
  | heartbeat => cases hq
  | stop => cases hq

end

/-! ### What a call does to the Sessions -/

/-- What a call does to the binding of the Session `sid`. A heartbeat reports for the Node that the Session is bound to. -/
theorem World.exec_binding {q : Request} {h : History} {o : Op} {i : ℕ} {x : Input} {w : World} (hp : q.Permits h o)
    (hheard : q.isHeartbeat → ∀ sid nodeId bootId, Heard h sid nodeId bootId → w.store.BoundTo sid nodeId bootId)
    (sid : String) :
    (World.exec i o x w).2.store.binding? sid = w.store.binding? sid ∨
      (w.store.binding? sid = none ∧ (World.exec i o x w).2.store.binding? sid = some (none, none)) ∨
      ∃ nodeId bootId server r, o = .store (.bindNode sid nodeId bootId server) ∧
        World.exec.event i o x w = ⟨.store (.bindNode sid nodeId bootId server), x, .ok r⟩ ∧
        (World.exec i o x w).2.store.BoundTo sid nodeId bootId := by
  by_cases hstore : ∃ so, o = .store so
  · obtain ⟨so, rfl⟩ := hstore
    rcases World.exec_store_cases i so x w with ⟨a, s', -, hrun, he⟩ | ⟨e, he, -⟩
    · rw [he]
      cases StoreOp.puts hrun with
      | same hsessions => exact Or.inl (by rw [SessionStore.binding?, SessionStore.session?, hsessions]; rfl)
      | @fresh sid₀ r' new unbound =>
        by_cases hsid : sid = sid₀
        · subst hsid
          exact Or.inr (Or.inl ⟨by simp [SessionStore.binding?, new], by simp [SessionStore.binding?, unbound]⟩)
        · exact Or.inl (by simp [SessionStore.binding?, hsid])
      | @step sid₀ r r' old rebinds =>
        by_cases hsid : sid = sid₀
        · subst hsid
          have hold : w.store.binding? sid = some r.binding := by simp [SessionStore.binding?, old]
          have hnew : (w.store.put sid r').binding? sid = some r'.binding := by simp [SessionStore.binding?]
          have hreport : ∀ {nodeId}, q.isHeartbeat ∧ (∃ bootId, Heard h sid nodeId bootId) →
              r'.binding = (some nodeId, r.nodeBootId) → r'.binding = r.binding := by
            rintro nodeId ⟨hq, bootId, hh⟩ hb
            have hbound := hheard hq sid nodeId bootId hh
            rw [SessionStore.BoundTo, hold] at hbound
            rw [hb, Option.some.inj hbound]
            exact congrArg (fun p : Option String × Option String => (some nodeId, p.2)) (Option.some.inj hbound)
          cases rebinds with
          | keep same => exact Or.inl (by rw [hnew, hold, same])
          | bind binding =>
            refine Or.inr (Or.inr ⟨_, _, _, a, rfl, ?_, by rw [SessionStore.BoundTo, hnew, binding]⟩)
            rw [Exec.event, he]
          | ingest binding => exact Or.inl (by rw [hnew, hold, hreport hp binding])
          | relay binding => exact Or.inl (by rw [hnew, hold, hreport hp binding])
        · exact Or.inl (by simp [SessionStore.binding?, hsid])
    · rw [he]
      exact Or.inl rfl
  · exact Or.inl (by rw [World.exec_other fun so hso => hstore ⟨so, hso⟩])

/-- A call that binds no Session keeps every binding. -/
theorem World.exec_boundTo {q : Request} {h : History} {o : Op} {i : ℕ} {x : Input} {w : World} (hp : q.Permits h o)
    (hheard : q.isHeartbeat → ∀ sid nodeId bootId, Heard h sid nodeId bootId → w.store.BoundTo sid nodeId bootId)
    {sid nodeId bootId : String} (hb : w.store.BoundTo sid nodeId bootId)
    (hbind : ∀ nodeId bootId server, o ≠ .store (.bindNode sid nodeId bootId server)) :
    (World.exec i o x w).2.store.BoundTo sid nodeId bootId := by
  rcases World.exec_binding (i := i) (x := x) hp hheard sid with hsame | ⟨hnone, -⟩ | ⟨_, _, _, _, ho, -⟩
  · exact hsame.trans hb
  · rw [SessionStore.BoundTo, hnone] at hb
    cases hb
  · exact absurd ho (hbind _ _ _)

/-- A Session that accepts the heartbeat of a Node is bound to it. -/
theorem World.exec_recordNodeHeartbeat {i : ℕ} {x : Input} {w : World} {sid nodeId bootId : String} {observed : Timestamp}
    {ready : Bool} (h : (World.exec i (.store (.recordNodeHeartbeat sid nodeId bootId observed ready)) x w).1 = .ok true) :
    (World.exec i (.store (.recordNodeHeartbeat sid nodeId bootId observed ready)) x w).2.store.BoundTo sid nodeId bootId := by
  rcases SessionStore.effect_recordNodeHeartbeat (World.exec_store_ok h) with ⟨hfalse, -⟩ | ⟨-, r₀, -, -, hn, hb, -, hs⟩
  · cases hfalse
  · rw [SessionStore.BoundTo, hs, SessionStore.binding?, SessionStore.session?_put_self, Option.map_some,
      SessionStore.heard_binding, Session.binding, hn, hb]

theorem World.exec_bindNode {i : ℕ} {x : Input} {w : World} {sid nodeId bootId server : String} {r : Session}
    (h : (World.exec i (.store (.bindNode sid nodeId bootId server)) x w).1 = .ok r) :
    (World.exec i (.store (.bindNode sid nodeId bootId server)) x w).2.store.BoundTo sid nodeId bootId := by
  obtain ⟨r₀, now, -, -, -, rfl, hs⟩ := SessionStore.effect_bindNode (World.exec_store_ok h)
  rw [SessionStore.BoundTo, hs, SessionStore.binding?, SessionStore.session?_put_self]
  rfl

/-- The custody of the registry. -/
def registryCustody : Custody World.exec (fun q : Request => q.isNode) Request.Permits (fun _ _ _ _ => True) where
  inv w := w.authority.Accepted ∧ w.fuse.Anonymous
  knows := Knows
  begins := by
    rintro q w - -
    refine ⟨?_, ?_, ?_⟩
    · rintro a ⟨x, hx⟩
      cases hx
    · rintro sid nodeId bootId ⟨_, _, _, hx⟩
      cases hx
    · rintro sid nodeId bootId ⟨_, _, _, hx⟩
      cases hx
  own := by
    rintro q h o i x w hq ⟨haccept, hfuse⟩ hk hp -
    have hkeep : ∀ sid nodeId bootId, w.store.BoundTo sid nodeId bootId →
        (∀ nodeId bootId server, o ≠ .store (.bindNode sid nodeId bootId server)) →
          (World.exec.state i o x w).store.BoundTo sid nodeId bootId := fun sid nodeId bootId hb hbind =>
      World.exec_boundTo hp (fun _ sid nodeId bootId hh => (hk.heard sid nodeId bootId hh).2) hb hbind
    refine ⟨World.exec_accepted haccept hfuse, hk.reads.own hq hfuse hp, fun sid nodeId bootId hh => ?_,
      fun sid nodeId bootId hb => ?_⟩
    · rcases hh.of_cons with hh | ⟨observed, ready, x', he⟩
      · obtain ⟨hheart, hbound⟩ := hk.heard sid nodeId bootId hh
        refine ⟨hheart, hkeep _ _ _ hbound ?_⟩
        rintro _ _ _ rfl
        exact Request.not_isBootstrap_of_isHeartbeat hheart hp.1
      · obtain rfl : o = .store (.recordNodeHeartbeat sid nodeId bootId observed ready) := congrArg Event.op he
        simp only [Exec.event, Event.mk.injEq, heq_eq_eq, true_and] at he
        exact ⟨hp, World.exec_recordNodeHeartbeat he.2⟩
    · rcases hb.of_cons with hold | ⟨server, x', r, he⟩
      · obtain ⟨hboot, hbound⟩ := hk.bound sid nodeId bootId hold
        refine ⟨hboot, hkeep _ _ _ hbound ?_⟩
        rintro _ _ _ rfl
        exact hp.2.1 sid nodeId bootId hold
      · obtain rfl : o = .store (.bindNode sid nodeId bootId server) := congrArg Event.op he
        simp only [Exec.event, Event.mk.injEq, heq_eq_eq, true_and] at he
        exact ⟨hp.1, World.exec_bindNode he.2⟩
  other := by
    rintro q h o i x w hq ⟨haccept, hfuse⟩ hp -
    refine ⟨World.exec_accepted haccept hfuse, fun q' h' _ hk => ?_⟩
    have hauth := (q.keeps_registry hq hp i x w).1
    have hkeep : ∀ sid nodeId bootId, w.store.BoundTo sid nodeId bootId →
        (World.exec.state i o x w).store.BoundTo sid nodeId bootId := by
      intro sid nodeId bootId hb
      refine World.exec_boundTo hp (fun hheart => absurd (Request.isNode_of_isHeartbeat hheart) hq) hb ?_
      rintro _ _ _ rfl
      exact hq (Request.isNode_of_isBootstrap hp.1)
    refine ⟨?_, fun sid nodeId bootId hh => ?_, fun sid nodeId bootId hb => ?_⟩
    · unfold Reads
      rw [Exec.state, hauth]
      exact hk.reads
    · exact (hk.heard _ _ _ hh).imp id (hkeep _ _ _)
    · exact (hk.bound _ _ _ hb).imp id (hkeep _ _ _)

/-- A call under the lock lets the registry only grow. -/
theorem World.registry_grows {q : Request} {h : History} {o : Op} {i : ℕ} {x : Input} {w : World}
    (haccept : w.authority.Accepted) (hfuse : w.fuse.Anonymous) (hreads : q.isNode → Reads h w) (hp : q.Permits h o) :
    w.registry.Grows (World.exec i o x w).2.registry := by
  have hkeep : ∀ d t, w.fuse.lookup d = some t → ∃ t', w.fuse.lookup d = some t' := fun _ t ht => ⟨t, ht⟩
  by_cases hwrite : ∃ a, o = .writeAuthority a
  · obtain ⟨a, rfl⟩ := hwrite
    obtain ⟨hf, ⟨-, -, ha⟩ | ⟨-, ha⟩⟩ := World.exec_writeAuthority i a x w
    · rw [registry, registry, ha, hf]
      refine NodeAuthority.Grows.withFuse ?_ hfuse hkeep
      obtain ⟨hrewrites, hunwritten⟩ := hp
      cases hrewrites with
      | register read free id =>
        obtain ⟨fuse, -, rfl⟩ := hreads rfl _ read hunwritten
        exact (w.authority.withFuse_grows fuse).trans (NodeAuthority.register_grows (haccept.withFuse fuse) free id)
      | heartbeat read known later =>
        obtain ⟨fuse, -, rfl⟩ := hreads rfl _ read hunwritten
        exact (w.authority.withFuse_grows fuse).trans (NodeAuthority.revise_grows known later)
      | stop read known later =>
        obtain ⟨fuse, -, rfl⟩ := hreads rfl _ read hunwritten
        exact (w.authority.withFuse_grows fuse).trans (NodeAuthority.revise_grows known later)
    · rw [registry, registry, ha, hf]
      exact .refl _
  · by_cases hledger : ∃ digest nodeId sid consumedAt, o = .writeTokenFuse digest nodeId sid consumedAt
    · obtain ⟨digest, nodeId, sid, consumedAt, rfl⟩ := hledger
      obtain ⟨ha, hf | hf⟩ := World.exec_writeTokenFuse i digest nodeId sid consumedAt x w
      · rw [registry, registry, ha, hf]
        exact .refl _
      · rw [registry, registry, ha, hf]
        refine NodeAuthority.Grows.withFuse (.refl _) hfuse fun d t ht => ?_
        by_cases he : d = digest
        · subst he
          exact ⟨_, AList.lookup_insert _⟩
        · exact ⟨t, (AList.lookup_insert_ne he).trans ht⟩
    · push Not at hwrite hledger
      obtain ⟨ha, hf⟩ := World.exec_registry_other (i := i) (x := x) (w := w) hwrite hledger
      rw [registry, registry, ha, hf]
      exact .refl _

/-- Where a Node of the registry comes from: an earlier record, or the bootstrap that the call ends. -/
theorem World.exec_node {q : Request} {h : History} {o : Op} {i : ℕ} {x : Input} {w : World}
    (haccept : w.authority.Accepted) (hreads : q.isNode → Reads h w) (hp : q.Permits h o) {id : String} {node : Node}
    (hn : (World.exec i o x w).2.authority.nodes.lookup id = some node) :
    (∃ old, w.authority.nodes.lookup id = some old ∧ old.Later node) ∨
      w.authority.nodes.lookup id = none ∧ id = node.nodeId ∧
        (node.sessionAssigned → Bound h node.sessionId node.nodeId node.bootId) ∧
        ∃ a, World.exec.event i o x w = ⟨.writeAuthority a, x, .ok ()⟩ ∧ a.nodes.lookup id = some node := by
  by_cases hwrite : ∃ a, o = .writeAuthority a
  · obtain ⟨a, rfl⟩ := hwrite
    obtain ⟨-, ⟨hok, -, ha⟩ | ⟨-, ha⟩⟩ := World.exec_writeAuthority i a x w
    · rw [ha] at hn
      have hevent : World.exec.event i (.writeAuthority a) x w = ⟨.writeAuthority a, x, .ok ()⟩ := by rw [Exec.event, hok]
      obtain ⟨hrewrites, hunwritten⟩ := hp
      cases hrewrites with
      | @register digest _ _ a₀ node' token read free hid running tokenNode attempt assigned =>
        obtain ⟨fuse, -, rfl⟩ := hreads rfl _ read hunwritten
        by_cases he : id = node'.nodeId
        · subst he
          obtain rfl := Option.some.inj ((AList.lookup_insert _).symm.trans hn)
          refine Or.inr ⟨?_, rfl, assigned, _, hevent, AList.lookup_insert _⟩
          rw [hid]
          exact haccept.fresh
        · exact Or.inl ⟨node, (AList.lookup_insert_ne he).symm.trans hn, .refl node⟩
      | @heartbeat id' _ _ a₀ n n' read known later =>
        obtain ⟨fuse, -, rfl⟩ := hreads rfl _ read hunwritten
        by_cases he : id = id'
        · subst he
          obtain rfl := Option.some.inj ((AList.lookup_insert _).symm.trans hn)
          exact Or.inl ⟨n, known, later⟩
        · exact Or.inl ⟨node, (AList.lookup_insert_ne he).symm.trans hn, .refl node⟩
      | @stop id' a₀ n n' read known later =>
        obtain ⟨fuse, -, rfl⟩ := hreads rfl _ read hunwritten
        by_cases he : id = id'
        · subst he
          obtain rfl := Option.some.inj ((AList.lookup_insert _).symm.trans hn)
          exact Or.inl ⟨n, known, later⟩
        · exact Or.inl ⟨node, (AList.lookup_insert_ne he).symm.trans hn, .refl node⟩
    · exact Or.inl ⟨node, ha ▸ hn, .refl node⟩
  · have hsame : (World.exec i o x w).2.authority = w.authority := by
      by_cases hledger : ∃ digest nodeId sid consumedAt, o = .writeTokenFuse digest nodeId sid consumedAt
      · obtain ⟨digest, nodeId, sid, consumedAt, rfl⟩ := hledger
        exact (World.exec_writeTokenFuse i digest nodeId sid consumedAt x w).1
      · push Not at hwrite hledger
        exact (World.exec_registry_other hwrite hledger).1
    exact Or.inl ⟨node, hsame ▸ hn, .refl node⟩

namespace Plane
variable {config : Config} {stable : Timestamp} {cond : Plane → Action Request Input → Prop} {c : Plane}

/-- The requests about Nodes share one exclusive lock. -/
def Locked : Plane → Action Request Input → Prop := Pool.Exclusive fun q => q.isNode

theorem held (hr : Plane.Reaches config stable cond c) (hlock : ∀ c a, cond c a → Locked c a) : registryCustody.Held c := by
  have hempty : (World.initial stable).authority.Accepted ∧ (World.initial stable).fuse.Anonymous :=
    ⟨⟨fun _ _ hn => (by cases hn), fun _ _ hn => by cases hn⟩, fun _ _ ht => by cases ht⟩
  refine hr.custody registryCustody hempty hlock (fun c i t o next hr ht hp => ?_) fun _ _ _ _ _ _ _ _ _ => trivial
  have habides := hr.abides (Request.abides config) (List.mem_of_getElem? ht)
  rw [hp] at habides
  exact (Prog.Abides.call_iff.mp habides).1

theorem permitted (hr : Plane.Reaches config stable cond c) {i : ℕ} {t : Task Request Op Op.Res Exc Response Input}
    (ht : c.tasks[i]? = some t) : Permitted t.request.Permits t.history :=
  Reachable.permitted hr (Request.abides config) (List.mem_of_getElem? ht)

/-- Whatever registry a task read or wrote, the present one has grown from it. -/
def Seen (c : Plane) : Prop := ∀ t ∈ c.tasks, ∀ a, Consulted t.history a ∨ Wrote t.history a → a.Grows c.state.registry

theorem seen (hr : Plane.Reaches config stable cond c) (hlock : ∀ c a, cond c a → Locked c a) : c.Seen := by
  refine hr.invariant (I := Seen) (fun t ht => by cases ht) fun c a hr ha hseen => ?_
  rcases Pool.act_cases World.exec (Request.program config) c a with
    ⟨q, rfl, he⟩ | ⟨i, x, q, o, next, h, rfl, hti, he⟩ | he <;> rw [he]
  · intro t ht a hsaw
    rcases List.mem_append.mp ht with ht | ht
    · exact hseen t ht a hsaw
    · obtain rfl := List.mem_singleton.mp ht
      rcases hsaw with ⟨_, hx⟩ | ⟨_, hx⟩ <;> cases hx
  · have hheld := held hr hlock
    have hmem := List.mem_of_getElem? hti
    have hp : q.Permits h o := (Prog.Abides.call_iff.mp (hr.abides (Request.abides config) hmem)).1
    have hgrows : c.state.registry.Grows (World.exec i o x c.state).2.registry :=
      World.registry_grows hheld.inv.1 hheld.inv.2 (fun hq => (hheld.knows i _ hti hq (hlock c _ ha _ hti hq)).reads) hp
    intro t ht a hsaw
    rcases List.mem_or_eq_of_mem_set ht with ht | rfl
    · exact (hseen t ht a hsaw).trans hgrows
    · have hold : Consulted h a ∨ Wrote h a → a.Grows (World.exec i o x c.state).2.registry := fun hsaw =>
        (hseen _ hmem a hsaw).trans hgrows
      rcases hsaw with ⟨x', hx'⟩ | ⟨x', hx'⟩
      · rcases List.mem_cons.mp hx' with hx' | hx'
        · obtain rfl : o = .readAuthority := (congrArg Event.op hx').symm
          simp only [Exec.event, Event.mk.injEq, heq_eq_eq, true_and] at hx'
          rw [World.exec_readAuthority hx'.2.symm]
          exact hgrows
        · exact hold (Or.inl ⟨x', hx'⟩)
      · rcases List.mem_cons.mp hx' with hx' | hx'
        · obtain rfl : o = .writeAuthority a := (congrArg Event.op hx').symm
          simp only [Exec.event, Event.mk.injEq, heq_eq_eq, true_and] at hx'
          obtain ⟨-, ⟨-, -, ha⟩ | ⟨⟨e, herr⟩, -⟩⟩ := World.exec_writeAuthority i a x c.state
          · have hnew : (World.exec i (.writeAuthority a) x c.state).2.authority.Grows
                (World.exec i (.writeAuthority a) x c.state).2.registry := NodeAuthority.withFuse_grows _ _
            rw [ha] at hnew
            exact hnew
          · rw [herr] at hx'
            cases hx'.2
        · exact hold (Or.inr ⟨x', hx'⟩)
  · exact hseen

end Plane
end IRLight
