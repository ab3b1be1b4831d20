import IRLight.IngestAuth.ProxyRuns

/-! # A later denial

The proxy works on its cache in the order in which the answers come back, which need not be the order in which the
Control API made the decisions. As long as no allowance is stored after the denial of a later decision on the same
credential has been worked on, what the cache grants has been allowed after every such denial. -/

namespace IRLight.IngestAuth
open Interleaving

/-- The call does not store an allowance after a later denial of the same credential has evicted it. -/
def InOrder (lib : ProxyLib) (o : ProxyOp) (w : ProxyWorld) : Prop :=
  ∀ payload value n, o = .store payload value (some n) →
    ∀ m d, (lib.cacheKey payload, some m) ∈ w.evictions → w.decisions[m]? = some d → d.denies → m < n

def ProxyPool.InOrder (lib : ProxyLib) (c : ProxyPool) : Action Payload ProxyInput → Prop
  | .start _ => True
  | .step i _ => ∀ o h, c.Calls i o h → IngestAuth.InOrder lib o c.state

/-- Every entry of the cache rests on an allowance later than every denial that has evicted its key. -/
structure Respected (lib : ProxyLib) (w : ProxyWorld) : Prop where
  known : ∀ key n, (key, some n) ∈ w.evictions → ∃ d, w.decisions[n]? = some d
  backed : ∀ key e, w.cache.entries.get? key = some e →
    ∃ (n : ℕ) (d : Decided), w.decisions[n]? = some d ∧ d.allows ∧ lib.cacheKey d.payload = key ∧
      ∀ (m : ℕ) (d' : Decided), (key, some m) ∈ w.evictions → w.decisions[m]? = some d' → d'.denies → m < n

theorem Respected.initial {lib : ProxyLib} {maxAgeSeconds : Timestamp} {maxEntries : ℕ} :
    Respected lib (.initial maxAgeSeconds maxEntries) where
  known _ _ h := by cases h
  backed _ _ h := by cases h

theorem Respected.step {config : ProxyConfig} {o : ProxyOp} {x : ProxyInput} {w w' : ProxyWorld}
    (hw : Respected config.lib w) (hpermits : Permits config o w) (horder : InOrder config.lib o w)
    (hstep : ProxyStep config.lib o x w w') : Respected config.lib w' where
  known key n h := by
    rcases hstep.eviction key (some n) h with h | ⟨payload, rfl, -⟩
    · obtain ⟨d, hd⟩ := hw.known key n h
      exact ⟨d, hstep.precedes.decision hd⟩
    · obtain ⟨d, hd, -⟩ := hpermits n rfl
      exact ⟨d, hstep.precedes.decision hd⟩
  backed key e he := by
    -- a denial that has evicted the key was decided before the call
    have hbefore : ∀ (m : ℕ) (d' : Decided), (key, some m) ∈ w.evictions → w'.decisions[m]? = some d' →
        w.decisions[m]? = some d' := by
      intro m d' hm hd'
      obtain ⟨d, hd⟩ := hw.known key m hm
      rw [hd, ← hstep.precedes.decision hd, hd']
    rcases hstep.entry key e he with
      ⟨hold, hevictions⟩ | ⟨payload, value, decision, current, validUntil, rfl, rfl, -, -, -, -, hevictions, -⟩
    · obtain ⟨n, d, hd, hallows, hkey, hlater⟩ := hw.backed key e hold
      refine ⟨n, d, hstep.precedes.decision hd, hallows, hkey, fun m d' hm hd' hdenies => ?_⟩
      exact hlater m d' (hevictions _ hm) (hbefore m d' (hevictions _ hm) hd') hdenies
    · obtain ⟨-, n, d, r, rfl, hd, rfl, hanswer, -⟩ := hpermits
      refine ⟨n, d, hstep.precedes.decision hd, by rw [Decided.allows, hanswer]; rfl, rfl, fun m d' hm hd' hdenies => ?_⟩
      rw [hevictions] at hm
      exact horder _ _ n rfl m d' hm (hbefore m d' hm hd') hdenies

section
variable {config : ProxyConfig} {maxAgeSeconds : Timestamp} {maxEntries : ℕ} {c : ProxyPool} {i : ℕ} {x : ProxyInput}
  {payload : Payload}

/-- **A later denial is respected.** In a run that stores no allowance after a later denial of the same credential has
    been worked on, what the cache grants after a denial has been worked on was allowed later than that denial. -/
theorem later_denial_respected
    (hr : ProxyPool.Reaches config maxAgeSeconds maxEntries (ProxyPool.InOrder config.lib) c)
    (hgranted : (ProxyWorld.exec config.lib i (.allowed payload) x c.state).1 = .ok true)
    (hdistinct : c.state.Distinguishes config.lib payload)
    {n : ℕ} {denial : Decided} (hdenial : c.state.decisions[n]? = some denial) (hdenies : denial.denies)
    (hsame : config.lib.keyValues denial.payload = config.lib.keyValues payload)
    (hprocessed : (config.lib.cacheKey denial.payload, some n) ∈ c.state.evictions) :
    ∃ (m : ℕ) (d : Decided), n < m ∧ c.state.decisions[m]? = some d ∧ d.allows ∧
      config.lib.keyValues d.payload = config.lib.keyValues payload := by
  have hsound : c.Sound (proxyContract config (Respected config.lib) (fun o _ w => InOrder config.lib o w)
      fun hinv hpermits hassume => hinv.step hpermits hassume) fun _ _ _ _ => True :=
    ProxyPool.sound hr .initial fun c i x o h hcond hcalls => hcond o h hcalls
  obtain ⟨current, e, -, he, -⟩ := exec_granted hgranted
  obtain ⟨m, d, hd, hallows, hkey, hlater⟩ := hsound.inv.backed _ _ he
  have hevicted : (config.lib.cacheKey payload, some n) ∈ c.state.evictions := by
    unfold ProxyLib.cacheKey at hprocessed ⊢
    rwa [hsame] at hprocessed
  exact ⟨m, d, hlater n denial hevicted hdenial hdenies, hd, hallows, hdistinct.keyValues hd hkey⟩

end

/-! ### Samples -/

/-- `InOrder` of a call, as a check. -/
def inOrder (lib : ProxyLib) (w : ProxyWorld) : ProxyOp → Bool
  | .store payload _ (some n) =>
    w.evictions.all fun (key, m) =>
      key ≠ lib.cacheKey payload || m.all fun m => w.decisions[m]?.all fun d => !d.denies || m < n
  | _ => true

theorem InOrder.of_check {lib : ProxyLib} {o : ProxyOp} {w : ProxyWorld} (h : inOrder lib w o) : InOrder lib o w := by
  rintro payload value n rfl m d hm hd hdenies
  have hall := List.all_eq_true.mp h _ hm
  simpa [hd, hdenies] using hall

def ProxyPool.inOrder (lib : ProxyLib) (c : ProxyPool) : Action Payload ProxyInput → Bool
  | .start _ => true
  | .step i _ => c.nextSatisfies i fun _ o _ => IngestAuth.inOrder lib c.state o

theorem ProxyPool.InOrder.of_check {lib : ProxyLib} {c : ProxyPool} {a : Action Payload ProxyInput}
    (h : c.inOrder lib a) : ProxyPool.InOrder lib c a := by
  cases a with
  | start q => trivial
  | step i x =>
    intro o l hcalls
    obtain ⟨_, ho⟩ := hcalls.satisfies h
    exact .of_check ho

/-- The decision at a place denies the payload's credential, and it has been worked on. -/
def ProxyWorld.denied (lib : ProxyLib) (w : ProxyWorld) (payload : Payload) (n : ℕ) : Bool :=
  w.decisions[n]?.any fun d => d.denies && lib.keyValues d.payload = lib.keyValues payload &&
    (lib.cacheKey d.payload, some n) ∈ w.evictions

theorem ProxyWorld.exists_of_denied {lib : ProxyLib} {w : ProxyWorld} {payload : Payload} {n : ℕ}
    (h : w.denied lib payload n) : ∃ d, w.decisions[n]? = some d ∧ d.denies ∧
      lib.keyValues d.payload = lib.keyValues payload ∧ (lib.cacheKey d.payload, some n) ∈ w.evictions := by
  obtain ⟨d, hd, hall⟩ := (Option.any_eq_true _ _).mp h
  simp only [Bool.and_eq_true, decide_eq_true_eq] at hall
  exact ⟨d, hd, hall.1.1, hall.1.2, hall.2⟩

open ProxySample in
theorem later_denial_respected_sample :
    ∃ (m : ℕ) (d : Decided), 0 < m ∧ (run reinstated).state.decisions[m]? = some d ∧ d.allows ∧
      lib.keyValues d.payload = lib.keyValues payload := by
  have hr : ProxyPool.Reaches config 60 100 (ProxyPool.InOrder config.lib) (run reinstated) :=
    Reachable.init.run_of_checks (fun _ _ h => .of_check h) (by decide +kernel)
  have hgranted : (ProxyWorld.exec config.lib 2 (.allowed payload) (input none .lost 21) (run reinstated).state).1 =
      .ok true := ProxyWorld.exec_of_grants (by decide +kernel) 2
  have hdistinct : (run reinstated).state.Distinguishes config.lib payload := by
    unfold ProxyWorld.Distinguishes
    decide +kernel
  obtain ⟨d, hd, hdenies, hsame, hprocessed⟩ :=
    ProxyWorld.exists_of_denied (show (run reinstated).state.denied config.lib payload 0 by decide +kernel)
  exact later_denial_respected hr hgranted hdistinct hd hdenies hsame hprocessed

/-- The decisions after a place all refuse. -/
def ProxyWorld.refusesAfter (w : ProxyWorld) (n : ℕ) : Bool := (w.decisions.drop (n + 1)).all fun d => !d.allows

theorem ProxyWorld.not_allows_of_refusesAfter {w : ProxyWorld} {n m : ℕ} {d : Decided} (h : w.refusesAfter n)
    (hm : n < m) (hd : w.decisions[m]? = some d) : ¬d.allows := by
  intro hallows
  have hmem : d ∈ w.decisions.drop (n + 1) := by
    refine List.mem_iff_getElem?.mpr ⟨m - (n + 1), ?_⟩
    rwa [List.getElem?_drop, Nat.add_sub_cancel' hm]
  simpa [hallows] using List.all_eq_true.mp h d hmem

open ProxySample in
/-- The denial of a credential that has been revoked overtakes the answer that allowed it, and the cache grants it once
    the Control API is out of reach. -/
theorem overtaken_by_denial :
    ¬∀ (c : ProxyPool) (i : ℕ) (x : ProxyInput) (payload : Payload)
      (h : List (Event ProxyOp ProxyOp.Res ProxyExc ProxyInput)) (n : ℕ) (denial : Decided),
      ProxyPool.Reaches config 60 100 (fun _ _ => True) c → c.Calls i (.allowed payload) h →
      (ProxyWorld.exec lib i (.allowed payload) x c.state).1 = .ok true →
      c.state.decisions[n]? = some denial → denial.denies → lib.keyValues denial.payload = lib.keyValues payload →
      (lib.cacheKey denial.payload, some n) ∈ c.state.evictions →
      ∃ (m : ℕ) (d : Decided), n < m ∧ c.state.decisions[m]? = some d ∧ d.allows ∧
        lib.keyValues d.payload = lib.keyValues payload := by
  intro hall
  have hr : ProxyPool.Reaches config 60 100 (fun _ _ => True) (run overtaken) := Reachable.init.run fun _ _ _ => trivial
  have hcheck : (run overtaken).nextSatisfies 2 fun _ o _ => o.looksFor fun p =>
      (run overtaken).state.grants lib (input (some 11) .lost 21) p && (run overtaken).state.denied lib p 1 &&
        (run overtaken).state.refusesAfter 1 := by decide +kernel
  obtain ⟨q, o, next, h, htask, ho⟩ := Pool.exists_of_nextSatisfies hcheck
  obtain ⟨p, rfl, hp⟩ := ProxyOp.exists_of_looksFor ho
  obtain ⟨hp, hrefuses⟩ := Bool.and_eq_true_iff.mp hp
  obtain ⟨hgrants, hdenied⟩ := Bool.and_eq_true_iff.mp hp
  obtain ⟨d, hd, hdenies, hsame, hprocessed⟩ := ProxyWorld.exists_of_denied hdenied
  obtain ⟨m, d', hm, hd', hallows, -⟩ := hall _ 2 _ p h 1 d hr ⟨_, next, htask, rfl, rfl⟩
    (ProxyWorld.exec_of_grants hgrants 2) hd hdenies hsame hprocessed
  exact ProxyWorld.not_allows_of_refusesAfter hrefuses hm hd' hallows

end IRLight.IngestAuth
