import IRLight.IngestAuth.Proxy

/-! # Runs of the proxy

A request works on the cache only on account of a decision on its own payload: it stores what a decision that
allows it advertises, and it evicts because of a decision that does not. -/

namespace IRLight.IngestAuth
open Interleaving

namespace ProxyWorld

/-- The decisions of `w` are the first ones of `w'`. -/
def Precedes (w w' : ProxyWorld) : Prop := ∃ later, w'.decisions = w.decisions ++ later

theorem Precedes.refl (w : ProxyWorld) : w.Precedes w := ⟨[], (List.append_nil _).symm⟩

theorem Precedes.trans {w w' w'' : ProxyWorld} (h : w.Precedes w') (h' : w'.Precedes w'') : w.Precedes w'' := by
  obtain ⟨l, hl⟩ := h
  obtain ⟨l', hl'⟩ := h'
  exact ⟨l ++ l', by rw [hl', hl, List.append_assoc]⟩

/-- A decision keeps its place. -/
theorem Precedes.decision {w w' : ProxyWorld} (h : w.Precedes w') {n : ℕ} {d : Decided} (hd : w.decisions[n]? = some d) :
    w'.decisions[n]? = some d := by
  obtain ⟨l, hl⟩ := h
  rw [hl, List.getElem?_append_left (List.getElem?_eq_some_iff.mp hd).1]
  exact hd

end ProxyWorld

section
variable {config : ProxyConfig} {lib : ProxyLib} {i : ℕ} {o : ProxyOp} {x : ProxyInput} {w : ProxyWorld}
  {payload : Payload}

/-- What a call of the proxy may rest on. -/
def Permits (config : ProxyConfig) (o : ProxyOp) (w : ProxyWorld) : Prop :=
  match o with
  | .observeRelay | .forward _ => True
  | .evict payload decision => ∀ n, decision = some n → ∃ d, w.decisions[n]? = some d ∧ d.payload = payload
  | .store payload value decision => cacheable config payload ∧
      ∃ n d r, decision = some n ∧ w.decisions[n]? = some d ∧ d.payload = payload ∧ d.answer = .ok r ∧ value = r.validUntil
  | .allowed payload => cacheable config payload

/-! ### What a call does to the world -/

/-- The world after a call. -/
structure ProxyStep (lib : ProxyLib) (o : ProxyOp) (x : ProxyInput) (w w' : ProxyWorld) : Prop where
  latest : w'.latest = x.latest w.latest
  precedes : w.Precedes w'
  decision : ∀ d ∈ w'.decisions, d ∈ w.decisions ∨ d.authority.clock = x.clock
  eviction : ∀ key n, (key, n) ∈ w'.evictions → (key, n) ∈ w.evictions ∨
    ∃ payload, o = .evict payload n ∧ key = lib.cacheKey payload
  stores : w.stores ⊆ w'.stores
  bounds : w'.cache.maxAgeSeconds = w.cache.maxAgeSeconds ∧ w'.cache.maxEntries = w.cache.maxEntries
  bounded : w.cache.Bounded → w'.cache.Bounded
  entry : ∀ key e, w'.cache.entries.get? key = some e →
    -- the entry was there, and the call does not evict its key
    (w.cache.entries.get? key = some e ∧ ∀ n, (key, n) ∈ w'.evictions → (key, n) ∈ w.evictions) ∨
    -- the call stores it
    ∃ payload value decision, ∃ current validUntil : Timestamp, o = .store payload value decision ∧
      key = lib.cacheKey payload ∧ x.clock 0 = .finite current ∧
      validatedCacheValue value (x.clock 1) "valid-until" = .ok validUntil ∧
      e ≤ validUntil ∧ e ≤ current + w.cache.maxAgeSeconds ∧ w'.evictions = w.evictions ∧
      ⟨key, decision, current⟩ ∈ w'.stores

/-- A call that changes neither the cache nor the evictions. -/
theorem ProxyStep.of_cache {w' : ProxyWorld} (hcache : w'.cache = w.cache) (hevictions : w'.evictions = w.evictions)
    (hlatest : w'.latest = x.latest w.latest) (hstores : w.stores ⊆ w'.stores) (hprecedes : w.Precedes w')
    (hdecision : ∀ d ∈ w'.decisions, d ∈ w.decisions ∨ d.authority.clock = x.clock) : ProxyStep lib o x w w' where
  latest := hlatest
  precedes := hprecedes
  decision := hdecision
  eviction key n h := .inl (by rwa [← hevictions])
  stores := hstores
  bounds := by rw [hcache]; exact ⟨rfl, rfl⟩
  bounded h := by rwa [hcache]
  entry key e he := .inl ⟨by rwa [← hcache], fun n hn => by rwa [← hevictions]⟩

/-- A call that keeps both the cache and the record. -/
theorem ProxyStep.quiet : ProxyStep lib o x w { w with latest := x.latest w.latest } :=
  .of_cache rfl rfl rfl (List.Subset.refl _) (.refl _) fun _ => .inl

theorem exec_step : ProxyStep lib o x w ((ProxyWorld.exec lib).state i o x w) := by
  cases o with
  | observeRelay => exact .quiet
  | forward payload =>
    unfold Exec.state ProxyWorld.exec
    simp only
    split
    · refine .of_cache rfl rfl rfl (List.Subset.refl _) ⟨_, rfl⟩ fun d hd => ?_
      rcases List.mem_append.mp hd with hd | hd
      · exact .inl hd
      · obtain rfl := List.mem_singleton.mp hd
        exact .inr rfl
    · exact .quiet
  | evict payload decision =>
    refine ⟨rfl, .refl _, fun _ => .inl, fun key n hn => ?_, List.Subset.refl _, ⟨rfl, rfl⟩,
      fun h => Dict.size_erase_le.trans h, fun key e he => .inl ?_⟩
    · rcases List.mem_cons.mp hn with hn | hn
      · obtain ⟨rfl, rfl⟩ := Prod.mk.inj hn
        exact .inr ⟨payload, rfl, rfl⟩
      · exact .inl hn
    · change (w.cache.entries.erase (lib.cacheKey payload)).get? key = some e at he
      by_cases hkey : key = lib.cacheKey payload
      · rw [hkey, Dict.get?_erase_self] at he
        cases he
      · rw [Dict.get?_erase_ne hkey] at he
        refine ⟨he, fun n hn => ?_⟩
        rcases List.mem_cons.mp hn with hn | hn
        · exact absurd (Prod.mk.inj hn).1 hkey
        · exact hn
  | store payload value decision =>
    unfold Exec.state ProxyWorld.exec
    simp only
    split
    · exact .quiet
    · rename_i stored cache q hstore hq
      rcases PositiveAuthCache.store_cases hstore with
        rfl | ⟨current, validUntil, hcurrent, hvalid, hbounded, hage, hmax, -, hentry⟩
      · exact .of_cache rfl rfl rfl (List.subset_cons_self _ _) (.refl _) fun _ => .inl
      · refine ⟨rfl, .refl _, fun _ => .inl, fun key n hn => .inl hn, List.subset_cons_self _ _, ⟨hage, hmax⟩,
          fun _ => hbounded, fun key e he => ?_⟩
        rcases hentry key e he with ⟨rfl, huntil, hcap⟩ | ⟨hkey, he⟩
        · refine .inr ⟨payload, value, decision, current, validUntil, rfl, rfl, hcurrent, hvalid, huntil, hcap, rfl, ?_⟩
          obtain rfl := PyFloat.finite.inj (hq.symm.trans hcurrent)
          rw [NNRat.toNNRat_coe]
          exact List.mem_cons_self
        · exact .inl ⟨he, fun n hn => hn⟩
    · rename_i stored cache hstore hq
      rcases PositiveAuthCache.store_cases hstore with rfl | ⟨current, validUntil, hcurrent, -⟩
      · exact .quiet
      · exact absurd hcurrent (hq _)
  | allowed payload =>
    unfold Exec.state ProxyWorld.exec
    simp only
    split
    · exact .quiet
    · rename_i granted cache hallowed
      obtain ⟨hsub, hbounded, hage, hmax, -⟩ := PositiveAuthCache.allowed_cases hallowed
      exact ⟨rfl, .refl _, fun _ => .inl, fun key n hn => .inl hn, List.Subset.refl _, ⟨hage, hmax⟩,
        fun _ => hbounded, fun key e he => .inl ⟨hsub key e he, fun n hn => hn⟩⟩

/-- A look that grants has found an entry that has not run out. -/
theorem exec_granted (h : ((ProxyWorld.exec lib) i (.allowed payload) x w).1 = .ok true) :
    ∃ current e : Timestamp, x.clock 0 = .finite current ∧
      w.cache.entries.get? (lib.cacheKey payload) = some e ∧ current < e := by
  unfold ProxyWorld.exec at h
  simp only at h
  split at h
  · cases h
  · rename_i granted cache hallowed
    obtain rfl := Except.ok.inj h
    exact (PositiveAuthCache.allowed_cases hallowed).2.2.2.2 rfl

/-! ### What a request calls -/

/-- An answer that a request may work with: that of a decision on its payload, or an error without a decision. -/
def Answers (payload : Payload) (upstream : Upstream) (w : ProxyWorld) : Prop :=
  (∃ (n : ℕ) (d : Decided), w.decisions[n]? = some d ∧ d.payload = payload ∧ upstream = d.reply n) ∨
    upstream = .unreachable ∨
    ∃ status body retryAfter, upstream = .httpError ⟨status, body, retryAfter, none⟩

theorem exec_forward {upstream : Upstream} (h : ((ProxyWorld.exec lib) i (.forward payload) x w).1 = .ok upstream) :
    Answers payload upstream ((ProxyWorld.exec lib).state i (.forward payload) x w) := by
  unfold ProxyWorld.exec ProxyWorld.forwardResult at h
  unfold Exec.state ProxyWorld.exec
  simp only at h ⊢
  split at h
  · rename_i hreached
    obtain rfl := Except.ok.inj h
    refine .inl ⟨w.decisions.length, _, ?_, rfl, rfl⟩
    rw [hreached, if_pos rfl]
    exact List.getElem?_concat_length
  · exact .inr (.inl (Except.ok.inj h).symm)
  · exact .inr (.inl (Except.ok.inj h).symm)
  · cases h
  · exact .inr (.inr ⟨_, _, _, (Except.ok.inj h).symm⟩)

/-- The contract of the proxy's requests over an invariant of its world. -/
def proxyContract (config : ProxyConfig) (inv : ProxyWorld → Prop) (assume : ProxyOp → ProxyInput → ProxyWorld → Prop)
    (keeps : ∀ {o x w w'}, inv w → Permits config o w → assume o x w → ProxyStep config.lib o x w w' → inv w') :
    Contract (ProxyWorld.exec config.lib) where
  inv := inv
  rely _ := ProxyWorld.Precedes
  permits _ _ := Permits config
  assume _ _ := assume
  rely_refl _ := .refl
  rely_trans := .trans
  keeps hinv hpermits hassume := keeps hinv hpermits hassume exec_step
  respects _ _ _ _ := exec_step.precedes

variable {inv : ProxyWorld → Prop} {assume : ProxyOp → ProxyInput → ProxyWorld → Prop}
  {keeps : ∀ {o x w w'}, inv w → Permits config o w → assume o x w → ProxyStep config.lib o x w w' → inv w'}

theorem fallback_only : (fallback config payload).Only fun o => o = .allowed payload ∧ cacheable config payload := by
  unfold fallback
  simp only [Prog.bind_def]
  split
  · rename_i hcacheable
    refine .bind (.tryExcept (.op ⟨rfl, hcacheable⟩) fun e => ?_) fun granted => ?_
    · unfold onRuntimeError
      split <;> exact .done _
    · split <;> exact .done _
  · exact .bind (.done _) fun granted => by split <;> exact .done _

theorem fallback_meets {h : List (Event ProxyOp ProxyOp.Res ProxyExc ProxyInput)} :
    (fallback config payload).Meets (proxyContract config inv assume keeps) i (fun _ _ _ => True) h w :=
  .of_only fallback_only fun o ho _ _ _ => by
    obtain ⟨rfl, hcacheable⟩ := ho
    exact hcacheable

/-- A call that is permitted, and no other call after it. -/
theorem meets_of_last {α : Type} {next : Except ProxyExc o.Res → ProxyProg α}
    {h : List (Event ProxyOp ProxyOp.Res ProxyExc ProxyInput)}
    (hpermits : ∀ w', w.Precedes w' → Permits config o w') (hnext : ∀ r, (next r).Only fun _ => False) :
    (Prog.call o next).Meets (proxyContract config inv assume keeps) i (fun _ _ _ => True) h w :=
  fun t _ hr => ⟨hpermits t hr, fun _ _ => .of_only (hnext _) fun _ hfalse _ _ _ => hfalse.elim⟩

theorem bind_only {α β : Type} {r : Except ProxyExc α} {f : α → Except ProxyExc β} :
    ((Prog.done r : ProxyProg α).bind fun a => .done (f a)).Only fun _ => False :=
  .bind (.done _) fun _ => .done _

theorem authorizedFields_fields {r : Authorized} : authorizedFields (.json (.obj r.fields)) = some r.fields := by
  simp [authorizedFields, Authorized.fields]

theorem lookup_validUntil {r : Authorized} : r.fields.lookup "cache_valid_until" = some r.validUntil := by
  simp [Authorized.fields, List.lookup_cons]

theorem settle_meets {upstream : Upstream} {h : List (Event ProxyOp ProxyOp.Res ProxyExc ProxyInput)}
    (hanswers : Answers payload upstream w) :
    (settle config payload upstream).Meets (proxyContract config inv assume keeps) i (fun _ _ _ => True) h w := by
  rcases hanswers with ⟨n, d, hd, hpayload, rfl⟩ | rfl | ⟨status, body, retryAfter, rfl⟩
  · have hevict : ∀ w', w.Precedes w' → Permits config (.evict payload (some n)) w' := by
      intro w' hw n' hn
      obtain rfl := Option.some.inj hn
      exact ⟨d, hw.decision hd, hpayload⟩
    unfold Decided.reply
    split
    · rename_i r hanswer
      simp only [settle, authorizedFields_fields, Prog.bind_def]
      split
      · exact meets_of_last hevict fun _ => bind_only
      · split
        · rename_i hcacheable
          rw [lookup_validUntil]
          have hstore : ∀ w', w.Precedes w' → Permits config (.store payload r.validUntil (some n)) w' :=
            fun w' hw => ⟨hcacheable, n, d, r, rfl, hw.decision hd, hpayload, hanswer, rfl⟩
          refine meets_of_last hstore fun result => .bind ?_ fun _ => .done _
          cases result with
          | ok stored => exact .done _
          | error e =>
            change (onRuntimeError false e).Only _
            unfold onRuntimeError
            split <;> exact .done _
        · exact fun _ _ _ => trivial
    · simp only [settle, Prog.bind_def]
      split
      · exact meets_of_last hevict fun _ => bind_only
      · exact fallback_meets
    · exact fallback_meets
  · exact fallback_meets
  · simp only [settle, Prog.bind_def]
    split
    · exact meets_of_last (fun w' _ => by intro n hn; cases hn) fun _ => bind_only
    · exact fallback_meets

theorem forward_meets {h : List (Event ProxyOp ProxyOp.Res ProxyExc ProxyInput)} :
    ((ask (.forward payload)).bind (settle config payload)).Meets (proxyContract config inv assume keeps) i
      (fun _ _ _ => True) h w := by
  refine .op_bind fun t _ _ => ⟨trivial, fun x _ => ⟨fun upstream hok => ?_, fun e _ => ?_⟩⟩
  · exact settle_meets (exec_forward hok)
  · exact fun _ _ _ => trivial

/-- Every request meets the contract, whatever it says of the cache. -/
theorem authorize_meets :
    (authorize config payload).Meets (proxyContract config inv assume keeps) i (fun _ _ _ => True) [] w := by
  unfold authorize
  split
  · exact fun _ _ _ => trivial
  · unfold relayReadLimited
    simp only [Prog.bind_def]
    split
    · refine .bind (.op_bind fun t _ _ => ⟨trivial, fun x _ => ⟨fun observation _ => ?_, fun e _ => ?_⟩⟩)
      · intro t' _ _
        cases relayLimit config observation with
        | some response => exact fun _ _ _ => trivial
        | none => exact forward_meets
      · exact fun _ _ _ _ _ _ => trivial
    · exact forward_meets

/-- What a proxy's requests reach when each step meets `cond`. -/
abbrev ProxyPool := Pool ProxyWorld Payload ProxyOp ProxyOp.Res ProxyExc ProxyResponse ProxyInput

def ProxyPool.Reaches (config : ProxyConfig) (maxAgeSeconds : Timestamp) (maxEntries : ℕ)
    (cond : ProxyPool → Action Payload ProxyInput → Prop) (c : ProxyPool) : Prop :=
  Reachable (ProxyWorld.exec config.lib) (authorize config) cond (.initial maxAgeSeconds maxEntries) c

/-- An invariant that the permitted calls keep holds in every run, and every call in it is permitted. -/
theorem ProxyPool.sound {cond : ProxyPool → Action Payload ProxyInput → Prop} {c : ProxyPool} {maxAgeSeconds : Timestamp}
    {maxEntries : ℕ} (hr : ProxyPool.Reaches config maxAgeSeconds maxEntries cond c)
    (hinit : inv (.initial maxAgeSeconds maxEntries))
    (hassume : ∀ c i x o h, cond c (.step i x) → c.Calls i o h → assume o x c.state) :
    c.Sound (proxyContract config inv assume keeps) fun _ _ _ _ => True :=
  Reachable.sound hr hinit hassume fun _ _ _ _ _ _ => authorize_meets

end

/-- None of the payloads that the Control API has decided on has another text with the same digest. -/
def ProxyWorld.Distinguishes (lib : ProxyLib) (w : ProxyWorld) (payload : Payload) : Prop :=
  ∀ d ∈ w.decisions, lib.cacheKey d.payload = lib.cacheKey payload →
    dumpsStrings (lib.keyValues d.payload) = dumpsStrings (lib.keyValues payload)

theorem ProxyWorld.Distinguishes.keyValues {lib : ProxyLib} {w : ProxyWorld} {payload : Payload}
    (h : w.Distinguishes lib payload) {n : ℕ} {d : Decided} (hd : w.decisions[n]? = some d)
    (hkey : lib.cacheKey d.payload = lib.cacheKey payload) : lib.keyValues d.payload = lib.keyValues payload :=
  dumpsStrings_inj rfl (h d (List.mem_of_getElem? hd) hkey)

/-! ### Samples -/

/-- The call is a look at the cache for a payload that passes a check. -/
def ProxyOp.looksFor (check : Payload → Bool) : ProxyOp → Bool
  | .allowed payload => check payload
  | _ => false

theorem ProxyOp.exists_of_looksFor {check : Payload → Bool} {o : ProxyOp} (h : o.looksFor check) :
    ∃ payload, o = .allowed payload ∧ check payload := by
  cases o with
  | allowed payload => exact ⟨payload, rfl, h⟩
  | observeRelay => cases h
  | forward payload => cases h
  | evict payload decision => cases h
  | store payload value decision => cases h

/-- The cache grants the payload. -/
def ProxyWorld.grants (lib : ProxyLib) (w : ProxyWorld) (x : ProxyInput) (payload : Payload) : Bool :=
  ((ProxyWorld.exec lib) 0 (.allowed payload) x w).1.toOption = some true

theorem ProxyWorld.exec_of_grants {lib : ProxyLib} {w : ProxyWorld} {x : ProxyInput} {payload : Payload}
    (h : w.grants lib x payload) (i : ℕ) : ((ProxyWorld.exec lib) i (.allowed payload) x w).1 = .ok true := by
  have hresult := of_decide_eq_true h
  change ((ProxyWorld.exec lib) 0 (.allowed payload) x w).1 = .ok true
  cases hr : ((ProxyWorld.exec lib) 0 (.allowed payload) x w).1 with
  | error e =>
    rw [hr] at hresult
    cases hresult
  | ok b =>
    rw [hr] at hresult
    rw [Option.some.inj hresult]

namespace ProxySample

def sid : String := "11111111-1111-4111-8111-111111111111"

/-- The SHA-256 digests of the texts of the runs below. -/
def digests : List (String × BitVec 256) :=
  [ ("secret", 0x2bb80d537b1da3e38bd30361aa855686bde0eacd7162fef6a25fe97bf527a25b),
    ("198.51.100.1", 0x7f60d869b36f6e64c0c99395754c14658bc62173eadceb489ea008ddfe76398d),
    (sid, 0xbd7662a5eeb41614e720d477abfcb2272e19a8a70a93b7e3bc8560d44ad326e9),
    (dumpsStrings ["publish", "live/input", "rtmp", sid, "secret", ""],
      0x7c8f4d460a8b646a754969d9559cfad9d56e1f2f4f56bb0408e268bdc3aa9da5) ]

def sha256 (text : String) : Digest := ⟨(digests.lookup text).getD 0⟩

/-- The texts below are strings in lower case. -/
def lib : ProxyLib :=
  { sha256 := sha256
    str := fun value => match value with
      | .str text => text
      | _ => ""
    lower := id }

def config : ProxyConfig := { internalMediaSecrets := [], lib := lib }

def payload : Payload :=
  [ ("user", .str sid), ("password", .str "secret"), ("ip", .str "198.51.100.1"), ("action", .str "publish"),
    ("path", .str "live/input"), ("protocol", .str "rtmp") ]

def credential (revokedAt : Option Timestamp) : StoredCredential :=
  { id := ⟨0, 0⟩, sessionId := sid, userId := "a", scope := .ingest, protocols := [.rtmp, .srt], createdAt := 0,
    expiresAt := 86400, revokedAt := revokedAt, username := sid, secretSha256 := sha256 "secret" }

/-- The Control API while the Session is live. -/
def authority (revokedAt : Option Timestamp) : Authority :=
  { assigned := .ok ()
    session := some { newSession sid "a" .prod .directPush 0 with status := .live }
    credentials := [credential revokedAt]
    guardConfig := {}
    stdlib := { sha256 := sha256, ipAddress := some, uuid := fun _ => none, lower := id }
    guard := .initial
    authCacheMaxAgeSeconds := (60 : ℕ)
    clock := fun _ => .finite 0
    guardFault := fun _ => none
    storeFault := false }

/-- An answer at time `t`, when the credential is revoked or not. -/
def input (revokedAt : Option ℕ) (delivery : Delivery) (t : ℕ) : ProxyInput :=
  { reached := true
    authority := authority (revokedAt.map (↑))
    delivery := delivery
    observation := none
    clock := fun _ => .finite (t : Timestamp) }

/-- A request is allowed at 10 s and kept, and the answer to the next one, at 20 s, is lost. -/
def outage : List (Action Payload ProxyInput) :=
  [ .start payload, .step 0 (input none .delivered 10), .step 0 (input none .delivered 11), .start payload,
    .step 1 (input none .lost 20) ]

/-- A request is allowed, the credential is revoked, and the next request's denial is worked on before the allowance. -/
def overtaken : List (Action Payload ProxyInput) :=
  [ .start payload, .step 0 (input none .delivered 10), .start payload, .step 1 (input (some 11) .delivered 12),
    .step 1 (input (some 11) .delivered 13), .step 0 (input (some 11) .delivered 14), .start payload,
    .step 2 (input (some 11) .lost 20) ]

/-- A denial, an allowance of a new decision after it, and an answer that is lost. -/
def reinstated : List (Action Payload ProxyInput) :=
  [ .start payload, .step 0 (input (some 1) .delivered 10), .step 0 (input (some 1) .delivered 11), .start payload,
    .step 1 (input none .delivered 12), .step 1 (input none .delivered 13), .start payload,
    .step 2 (input none .lost 20) ]

def run (schedule : List (Action Payload ProxyInput)) : ProxyPool :=
  Pool.run (ProxyWorld.exec lib) (authorize config) ⟨.initial (60 : ℕ) 100, []⟩ schedule

end ProxySample

end IRLight.IngestAuth
