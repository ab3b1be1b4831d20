import IRLight.IngestAuth.ProxyRuns

/-! # How stale a fallback may be

Every entry of the cache comes from a decision of the Control API, and it runs out with the lifetime that the
Control API advertised, with the credential and with the Node's own bound, whichever is first. -/

namespace IRLight.IngestAuth
open Interleaving

/-- The call's readings are times in order, none of them before the latest reading so far. -/
def ProxyInput.Clocked (x : ProxyInput) (latest : Timestamp) (times : ℕ → Timestamp) : Prop :=
  Monotone times ∧ latest ≤ times 0 ∧ ∀ k, x.clock k = .finite (times k)

theorem ProxyInput.Clocked.latest {x : ProxyInput} {before : Timestamp} {times : ℕ → Timestamp}
    (h : x.Clocked before times) : x.latest before = times lastReading := by
  unfold ProxyInput.latest
  rw [requireTimestamp_eq_ok.mpr (h.2.2 lastReading)]

/-- The clocks of the Node and of the Control API agree and do not go back. -/
def ProxyPool.Clocked (c : ProxyPool) : Action Payload ProxyInput → Prop
  | .start _ => True
  | .step _ x => ∃ times, x.Clocked c.state.latest times

/-- Why an entry is in the cache: a decision made it and `stored` put it there, and it runs out in time. The second case
    of `limit` is an answer that advertised nothing. -/
structure Backed (w : ProxyWorld) (n : ℕ) (d : Decided) (made stored : Timestamp) (key : Digest) (e : Timestamp) :
    Prop where
  decision : w.decisions[n]? = some d
  allows : d.allows
  reading : d.authority.clock lastReading = .finite made
  entry : ⟨key, some n, stored⟩ ∈ w.stores
  past : stored ≤ w.latest
  age : e ≤ stored + w.cache.maxAgeSeconds
  limit : (∃ record, d.authority.Grants d.payload record ∧ e ≤ record.expiresAt ∧
    e ≤ made + d.authority.authCacheMaxAgeSeconds) ∨ e ≤ w.latest

/-- The cache is within its bound, the decisions are past, and every entry is backed by one of them. -/
structure Fresh (lib : ProxyLib) (maxAgeSeconds : Timestamp) (maxEntries : ℕ) (w : ProxyWorld) : Prop where
  maxAgeSeconds : w.cache.maxAgeSeconds = maxAgeSeconds
  maxEntries : w.cache.maxEntries = maxEntries
  bounded : w.cache.Bounded
  past : ∀ d ∈ w.decisions, ∃ made : Timestamp, d.authority.clock lastReading = .finite made ∧ made ≤ w.latest
  backed : ∀ key e, w.cache.entries.get? key = some e →
    ∃ n d made stored, lib.cacheKey d.payload = key ∧ Backed w n d made stored key e

section
variable {lib : ProxyLib} {maxAgeSeconds : Timestamp} {maxEntries n : ℕ} {o : ProxyOp} {x : ProxyInput}
  {w w' : ProxyWorld} {d : Decided} {key : Digest} {e made stored : Timestamp} {times : ℕ → Timestamp}

theorem Fresh.initial : Fresh lib maxAgeSeconds maxEntries (.initial maxAgeSeconds maxEntries) where
  maxAgeSeconds := rfl
  maxEntries := rfl
  bounded := Nat.zero_le _
  past _ h := by cases h
  backed _ _ h := by cases h

theorem latest_le (hstep : ProxyStep lib o x w w') (hclock : x.Clocked w.latest times) : w.latest ≤ w'.latest := by
  rw [hstep.latest, hclock.latest]
  exact hclock.2.1.trans (hclock.1 (Nat.zero_le _))

theorem reading_le_latest (hstep : ProxyStep lib o x w w') (hclock : x.Clocked w.latest times) {k : ℕ}
    (hk : k ≤ lastReading) {t : Timestamp} (ht : x.clock k = .finite t) : t ≤ w'.latest := by
  rw [hstep.latest, hclock.latest]
  have heq : (times k : ℚ) = t := PyFloat.finite.inj ((hclock.2.2 k).symm.trans ht)
  rw [← NNRat.coe_inj.mp heq]
  exact hclock.1 hk

/-- An entry that stays is backed as before. -/
theorem Backed.step (h : Backed w n d made stored key e) (hstep : ProxyStep lib o x w w')
    (hlatest : w.latest ≤ w'.latest) : Backed w' n d made stored key e where
  decision := hstep.precedes.decision h.decision
  allows := h.allows
  reading := h.reading
  entry := hstep.stores h.entry
  past := h.past.trans hlatest
  age := by
    rw [hstep.bounds.1]
    exact h.age
  limit := h.limit.imp_right fun he => he.trans hlatest

/-- What an allowing decision advertises ends with the credential and with the lifetime cap, or it is nothing. -/
theorem advertised_le {r : Authorized} {validUntil : Timestamp} (hanswer : d.answer = .ok r)
    (hmade : d.authority.clock lastReading = .finite made)
    (hvalid : validatedCacheValue r.validUntil (x.clock 1) "valid-until" = .ok validUntil) :
    (∃ record, d.authority.Grants d.payload record ∧ validUntil ≤ record.expiresAt ∧
      validUntil ≤ made + d.authority.authCacheMaxAgeSeconds) ∨ x.clock 1 = .finite validUntil := by
  obtain ⟨record, hgrants, hadvertised⟩ := Authority.authorizeMediamtxRequest_ok hanswer
  unfold lastReading at hmade
  unfold cacheValidUntil at hadvertised
  rw [hmade, requireTimestamp_eq_ok.mpr rfl] at hadvertised
  simp only at hadvertised
  unfold Authorized.validUntil at hvalid
  split at hadvertised
  · rw [hadvertised] at hvalid
    exact .inr (requireTimestamp_eq_ok.mp hvalid)
  · rw [hadvertised] at hvalid
    have heq : validUntil = min record.expiresAt (made + d.authority.authCacheMaxAgeSeconds) :=
      NNRat.coe_inj.mp (PyFloat.finite.inj (requireTimestamp_eq_ok.mp hvalid)).symm
    rw [heq]
    exact .inl ⟨record, hgrants, min_le_left _ _, min_le_right _ _⟩

theorem Fresh.step {config : ProxyConfig} (hw : Fresh config.lib maxAgeSeconds maxEntries w)
    (hpermits : Permits config o w) (hclock : x.Clocked w.latest times) (hstep : ProxyStep config.lib o x w w') :
    Fresh config.lib maxAgeSeconds maxEntries w' where
  maxAgeSeconds := hstep.bounds.1.trans hw.maxAgeSeconds
  maxEntries := hstep.bounds.2.trans hw.maxEntries
  bounded := hstep.bounded hw.bounded
  past d hd := by
    rcases hstep.decision d hd with hd | hreading
    · obtain ⟨made, hmade, hle⟩ := hw.past d hd
      exact ⟨made, hmade, hle.trans (latest_le hstep hclock)⟩
    · have hmade : d.authority.clock lastReading = .finite (times lastReading) := by
        rw [hreading]
        exact hclock.2.2 lastReading
      exact ⟨_, hmade, reading_le_latest hstep hclock le_rfl (hreading ▸ hmade)⟩
  backed key e he := by
    rcases hstep.entry key e he with
      ⟨hold, -⟩ | ⟨payload, value, decision, current, validUntil, rfl, rfl, hcurrent, hvalid, huntil, hage, -, hstored⟩
    · obtain ⟨n, d, made, stored, hkey, hbacked⟩ := hw.backed key e hold
      exact ⟨n, d, made, stored, hkey, hbacked.step hstep (latest_le hstep hclock)⟩
    · obtain ⟨-, n, d, r, rfl, hd, rfl, hanswer, rfl⟩ := hpermits
      obtain ⟨made, hmade, -⟩ := hw.past d (List.mem_of_getElem? hd)
      refine ⟨n, d, made, current, rfl, hstep.precedes.decision hd, ?_, hmade, hstored,
        reading_le_latest hstep hclock (Nat.zero_le _) hcurrent, ?_, ?_⟩
      · rw [Decided.allows, hanswer]
        rfl
      · rw [hstep.bounds.1]
        exact hage
      · rcases advertised_le hanswer hmade hvalid with ⟨record, hgrants, hexpires, hcap⟩ | hreading
        · exact .inl ⟨record, hgrants, huntil.trans hexpires, huntil.trans hcap⟩
        · exact .inr (huntil.trans (reading_le_latest hstep hclock (by decide) hreading))

end

section
variable {config : ProxyConfig} {maxAgeSeconds : Timestamp} {maxEntries : ℕ} {c : ProxyPool}

/-- **A fallback is bounded in its staleness.** Whenever the cache grants a payload at time `t`, the Control API had
    authorized a payload with the same key fields, on a credential that is still valid at `t`, less than the lifetime
    cap that it advertised before `t`; the entry was stored less than the Node's own cap before `t`; and the action is
    `publish`. The cache never holds more than its maximum number of entries. -/
theorem fallback_staleness_bounded (hr : ProxyPool.Reaches config maxAgeSeconds maxEntries ProxyPool.Clocked c) :
    c.state.cache.entries.size ≤ maxEntries ∧
    ∀ i x payload h times, c.Calls i (.allowed payload) h → x.Clocked c.state.latest times →
      (ProxyWorld.exec config.lib i (.allowed payload) x c.state).1 = .ok true →
      c.state.Distinguishes config.lib payload →
      config.lib.field payload "action" = "publish" ∧
      ∃ (t : Timestamp) (n : ℕ) (d : Decided) (record : StoredCredential) (made stored : Timestamp),
        x.clock 0 = .finite t ∧ c.state.decisions[n]? = some d ∧ d.allows ∧
        config.lib.keyValues d.payload = config.lib.keyValues payload ∧ d.authority.Grants d.payload record ∧
        t < record.expiresAt ∧ d.authority.clock lastReading = .finite made ∧ made ≤ t ∧
        t < made + d.authority.authCacheMaxAgeSeconds ∧
        ⟨config.lib.cacheKey payload, some n, stored⟩ ∈ c.state.stores ∧ stored ≤ t ∧ t < stored + maxAgeSeconds := by
  have hsound : c.Sound (proxyContract config (Fresh config.lib maxAgeSeconds maxEntries)
      (fun _ x w => ∃ times, x.Clocked w.latest times)
      fun hinv hpermits hassume => hassume.elim fun _ => hinv.step hpermits) fun _ _ _ _ => True :=
    ProxyPool.sound hr .initial fun c i x o h hcond _ => hcond
  have hfresh := hsound.inv
  refine ⟨hfresh.maxEntries ▸ hfresh.bounded, fun i x payload h times hcall hclock hgranted hdistinct => ?_⟩
  have hpublish : cacheable config payload := hsound.permitted hcall
  obtain ⟨t, e, ht, he, hlive⟩ := exec_granted hgranted
  obtain ⟨n, d, made, stored, hkey, hbacked⟩ := hfresh.backed _ _ he
  have hnow : c.state.latest ≤ t := by
    have heq : (times 0 : ℚ) = t := PyFloat.finite.inj ((hclock.2.2 0).symm.trans ht)
    rw [← NNRat.coe_inj.mp heq]
    exact hclock.2.1
  obtain ⟨made', hmade, hpast⟩ := hfresh.past d (List.mem_of_getElem? hbacked.decision)
  obtain rfl : made = made' := NNRat.coe_inj.mp (PyFloat.finite.inj (hbacked.reading.symm.trans hmade))
  have hage : e ≤ stored + maxAgeSeconds := hfresh.maxAgeSeconds ▸ hbacked.age
  rcases hbacked.limit with ⟨record, hgrants, hexpires, hcap⟩ | hgone
  · exact ⟨of_decide_eq_true hpublish, t, n, d, record, made, stored, ht, hbacked.decision, hbacked.allows,
      hdistinct.keyValues hbacked.decision hkey, hgrants, hlive.trans_le hexpires, hmade, hpast.trans hnow,
      hlive.trans_le hcap, hbacked.entry, hbacked.past.trans hnow, hlive.trans_le hage⟩
  · exact absurd (hlive.trans_le hgone) (not_lt.mpr hnow)

end

/-! ### Sample -/

/-- A call whose readings are all the same. -/
theorem ProxyInput.Clocked.of_constant {x : ProxyInput} {before t : Timestamp} (hclock : x.clock = fun _ => .finite t)
    (h : before ≤ x.latest before) : x.Clocked before fun _ => t := by
  have hk : ∀ k, x.clock k = .finite t := fun k => congrFun hclock k
  unfold ProxyInput.latest at h
  rw [requireTimestamp_eq_ok.mpr (hk lastReading)] at h
  exact ⟨monotone_const, h, hk⟩

/-- The action does not read a time before the latest one. -/
def ProxyPool.inTime (c : ProxyPool) : Action Payload ProxyInput → Bool
  | .start _ => true
  | .step _ x => c.state.latest ≤ x.latest c.state.latest

open ProxySample in
theorem clocked_of_inTime (c : ProxyPool) : ∀ a ∈ outage, c.inTime a → c.Clocked a := by
  simp only [outage, List.forall_mem_cons]
  refine ⟨fun _ => trivial, fun h => ⟨_, .of_constant rfl (of_decide_eq_true h)⟩,
    fun h => ⟨_, .of_constant rfl (of_decide_eq_true h)⟩, fun _ => trivial,
    fun h => ⟨_, .of_constant rfl (of_decide_eq_true h)⟩, fun a ha => by cases ha⟩

open ProxySample in
theorem fallback_staleness_bounded_sample :
    (run outage).state.cache.entries.size ≤ 100 ∧
    ∃ (t : Timestamp) (n : ℕ) (d : Decided) (record : StoredCredential) (made stored : Timestamp),
      (input none .lost 21).clock 0 = .finite t ∧ (run outage).state.decisions[n]? = some d ∧ d.allows ∧
      d.authority.Grants d.payload record ∧ t < record.expiresAt ∧ d.authority.clock lastReading = .finite made ∧
      t < made + d.authority.authCacheMaxAgeSeconds ∧ stored ≤ t ∧ t < stored + 60 := by
  have hr : ProxyPool.Reaches config 60 100 ProxyPool.Clocked (run outage) :=
    Reachable.init.run_of_mem_checks clocked_of_inTime (by decide +kernel)
  obtain ⟨hsize, hgranted⟩ := fallback_staleness_bounded hr
  have hcheck : (run outage).nextSatisfies 1 fun _ o _ => o.looksFor fun p =>
      (run outage).state.grants lib (input none .lost 21) p &&
        (run outage).state.decisions.all fun d => lib.keyValues d.payload = lib.keyValues p := by decide +kernel
  obtain ⟨q, o, next, h, htask, ho⟩ := Pool.exists_of_nextSatisfies hcheck
  obtain ⟨p, rfl, hp⟩ := ProxyOp.exists_of_looksFor ho
  obtain ⟨hgrants, hsame⟩ := Bool.and_eq_true_iff.mp hp
  have hdistinct : (run outage).state.Distinguishes lib p := by
    intro d hd _
    rw [of_decide_eq_true (List.all_eq_true.mp hsame d hd)]
  have hclock : (input none .lost 21).Clocked (run outage).state.latest fun _ => 21 :=
    .of_constant rfl (by decide +kernel)
  obtain ⟨-, t, n, d, record, made, stored, ht, hd, hallows, -, hrecord, hexpires, hmade, -, hcap, -, hstored, hage⟩ :=
    hgranted 1 _ p h _ ⟨_, next, htask, rfl, rfl⟩ hclock (ProxyWorld.exec_of_grants hgrants 1) hdistinct
  exact ⟨hsize, t, n, d, record, made, stored, ht, hd, hallows, hrecord, hexpires, hmade, hcap, hstored, hage⟩

end IRLight.IngestAuth
