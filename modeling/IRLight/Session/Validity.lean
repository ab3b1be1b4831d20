import IRLight.Session.Failures

/-! # Stores that can be written

A store is valid when `_persist` writes it. Every transaction keeps it so, since what it commits was written, and
never loses a record. Conversely a transaction raises for no other reason than its own guards when the store is
valid, the clock can be read and what it adds to a record can be written. -/

namespace IRLight
open Status

/-- `_validate_sessions` accepts the record, and it can be serialized. -/
def Session.Valid (r : Session) : Prop := r.invalid = none ∧ r.serializable

/-- `_persist` writes the store. -/
def SessionStore.Valid (s : SessionStore) : Prop := s.invalid = none

/-- Every look that a method takes at the clock gives a valid time: none takes more than three. -/
def Readable (clock : ℕ → PyFloat) : Prop := ∀ k ≤ 2, ∃ t : Timestamp, clock k = .finite t

def PyFloat.isTimestamp : PyFloat → Bool
  | finite q => 0 ≤ q
  | _ => false

theorem PyFloat.isTimestamp_iff {x : PyFloat} : x.isTimestamp ↔ ∃ t : Timestamp, x = .finite t := by
  cases x with
  | finite q => exact ⟨fun h => ⟨⟨q, of_decide_eq_true h⟩, rfl⟩, fun ⟨t, ht⟩ => decide_eq_true (PyFloat.finite.inj ht ▸ t.2)⟩
  | infinity => exact ⟨(nomatch ·), fun ⟨_, ht⟩ => nomatch ht⟩
  | nan => exact ⟨(nomatch ·), fun ⟨_, ht⟩ => nomatch ht⟩

instance (clock : ℕ → PyFloat) : Decidable (Readable clock) :=
  decidable_of_iff (∀ k ∈ List.range 3, (clock k).isTimestamp) <| by
    simp only [Readable, PyFloat.isTimestamp_iff, List.mem_range, Nat.lt_succ_iff]

/-- The transaction commits valid stores only, and loses no record. -/
def Publishes {α : Type} (s : SessionStore) (m : Except Exc (α × SessionStore)) : Prop :=
  ∀ a s', m = .ok (a, s') → (s.Valid → s'.Valid) ∧ ∀ sid, (s.session? sid).isSome → (s'.session? sid).isSome

/-! ### Records -/

namespace Session
variable {r r' : Session}

theorem valid_iff : r.Valid ↔ r.sessionId ≠ "" ∧ r.userId ≠ "" ∧ (∀ e ∈ r.log.events, e.type ≠ "" ∧ e.origin ≠ "" ∧
    e.payload.serializable) ∧ (r.audio.idempotencyKey.all fun key => key ≠ "" && key.length ≤ 200) ∧
    r.egressUpdatedAt.all (·.isFinite) := by
  unfold Valid invalid serializable
  simp only [Bool.and_eq_true, List.all_eq_true]
  constructor
  · rintro ⟨h, hpayload, hegress⟩
    split at h
    · cases h
    split at h
    · cases h
    split at h
    · cases h
    split at h
    · cases h
    split at h
    · cases h
    rename_i hsid huser htype horigin hkey
    refine ⟨hsid, huser, fun e he => ⟨fun ht => htype ?_, fun ho => horigin ?_, hpayload e he⟩, ?_, hegress⟩
    · exact List.any_eq_true.mpr ⟨e, he, decide_eq_true ht⟩
    · exact List.any_eq_true.mpr ⟨e, he, decide_eq_true ho⟩
    · cases hk : r.audio.idempotencyKey with
      | none => rfl
      | some key => simpa [hk] using hkey
  · rintro ⟨hsid, huser, hevents, hkey, hegress⟩
    refine ⟨?_, fun e he => (hevents e he).2.2, hegress⟩
    have htype : ¬(r.log.events.any fun e => decide (e.type = "")) := fun h => by
      obtain ⟨e, he, ht⟩ := List.any_eq_true.mp h
      exact (hevents e he).1 (of_decide_eq_true ht)
    have horigin : ¬(r.log.events.any fun e => decide (e.origin = "")) := fun h => by
      obtain ⟨e, he, ho⟩ := List.any_eq_true.mp h
      exact (hevents e he).2.1 (of_decide_eq_true ho)
    rw [if_neg hsid, if_neg huser, if_neg htype, if_neg horigin, if_neg]
    cases hk : r.audio.idempotencyKey with
    | none => simp
    | some key => simpa [hk] using hkey

/-- The part of a record that decides whether it can be written. -/
theorem Valid.congr (hv : r.Valid) (hsid : r'.sessionId = r.sessionId) (huser : r'.userId = r.userId) (hlog : r'.log = r.log)
    (haudio : r'.audio = r.audio) (hegress : r'.egressUpdatedAt = r.egressUpdatedAt) : r'.Valid := by
  rw [valid_iff, hsid, huser, hlog, haudio, hegress]
  exact valid_iff.mp hv

theorem Valid.appendEventLocked (hv : r.Valid) {eventType origin : String} {reasonCode : Option String} {payload : Json}
    {occurredAt : Timestamp} (htype : clip 100 eventType ≠ "") (horigin : clip 50 origin ≠ "") (hpayload : payload.serializable) :
    (r.appendEventLocked eventType reasonCode payload origin occurredAt).Valid := by
  obtain ⟨hsid, huser, hevents, hkey, hegress⟩ := valid_iff.mp hv
  refine valid_iff.mpr ⟨hsid, huser, fun e he => ?_, hkey, hegress⟩
  rcases EventLog.mem_append he with he | ⟨ht, hp, ho⟩
  · exact hevents e he
  · rw [ht, hp, ho]
    exact ⟨htype, horigin, hpayload⟩

end Session

/-- A change with no clock reading and no observation. -/
def Change.fixed : Change → Bool
  | readyAt _ | egress _ _ _ _ => false
  | _ => true

/-- Such changes are always accepted, and leave a record as valid as it was. -/
theorem updateOf_fixed {context : String} {changes : List Change} (hfixed : ∀ c ∈ changes, c.fixed) :
    ∃ update, updateOf context changes = .ok update ∧ ∀ r : Session, r.Valid → (update r).Valid := by
  induction changes with
  | nil => exact ⟨id, rfl, fun _ hv => hv⟩
  | cons c changes ih =>
    obtain ⟨g, hg, hvalid⟩ := ih fun c hc => hfixed c (List.mem_cons_of_mem _ hc)
    have hstep : ∃ f, c.update context = .ok f ∧ ∀ r : Session, r.Valid → (f r).Valid := by
      have hc := hfixed c List.mem_cons_self
      cases c with
      | readyAt => cases hc
      | egress => cases hc
      | _ => exact ⟨_, rfl, fun _ hv => hv.congr rfl rfl rfl rfl rfl⟩
    obtain ⟨f, hf, hfvalid⟩ := hstep
    exact ⟨fun r => g (f r), by rw [updateOf, hf, hg]; rfl, fun r hv => hvalid _ (hfvalid r hv)⟩

/-! ### Computations that succeed -/

/-- The computation returns a value that satisfies `P`. -/
def Gives {α : Type} (x : Except Exc α) (P : α → Prop) : Prop := ∃ a, x = .ok a ∧ P a

namespace Gives
variable {α β : Type} {x : Except Exc α} {P : α → Prop} {Q : β → Prop}

theorem ok {a : α} (h : P a) : Gives (.ok a) P := ⟨a, rfl, h⟩

theorem bind {f : α → Except Exc β} (hx : Gives x P) (hf : ∀ a, P a → Gives (f a) Q) : Gives (x >>= f) Q := by
  obtain ⟨a, rfl, ha⟩ := hx
  exact hf a ha

theorem map {f : α → β} (hx : Gives x P) : Gives (x.map f) fun _ => True := by
  obtain ⟨a, rfl, _⟩ := hx
  exact ⟨f a, rfl, trivial⟩

theorem raiseIf {bad : Prop} [Decidable bad] {exc : Exc} (h : ¬bad) : Gives (IRLight.raiseIf bad exc) fun _ => True :=
  ⟨(), raiseIf_eq_ok.mpr h, trivial⟩

end Gives

/-! ### What a transaction publishes -/

namespace Publishes
variable {α β : Type} {s : SessionStore} {m : Except Exc (α × SessionStore)}

theorem same (a : α) : Publishes s (.ok (a, s)) := by
  intro _ _ h
  obtain ⟨_, rfl⟩ := Prod.mk.inj (Except.ok.inj h)
  exact ⟨id, fun _ => id⟩

theorem bind {x : Except Exc β} {f : β → Except Exc (α × SessionStore)} (hf : ∀ b, Publishes s (f b)) :
    Publishes s (x >>= f) := by
  intro a s' h
  obtain ⟨b, _, h⟩ := bind_eq_ok.mp h
  exact hf b a s' h

theorem map_same {x : Except Exc α} : Publishes s (x.map (·, s)) := by
  intro _ _ h
  obtain ⟨_, _, h⟩ := map_eq_ok.mp h
  obtain ⟨_, rfl⟩ := Prod.mk.inj h
  exact ⟨id, fun _ => id⟩

end Publishes

namespace SessionStore
variable {s s' : SessionStore} {sid : String} {clock : ℕ → PyFloat} {fresh : Uuid} {r : Session}

theorem valid_of_persist (h : s.persist = .ok s') : s'.Valid := by
  obtain ⟨hv, rfl⟩ := persist_eq_ok h
  exact hv

/-- Whatever it does to its record, a transaction publishes only what was written. -/
theorem publishes_edit {α : Type} {f : Option Session → Except Exc (α × Option Session)} : Publishes s (s.edit sid f) := by
  intro a s' h
  obtain ⟨⟨b, w⟩, _, h⟩ := bind_eq_ok.mp h
  cases w with
  | none =>
    obtain ⟨rfl, rfl⟩ := Prod.mk.inj (pure_eq_ok.mp h)
    exact ⟨id, fun _ => id⟩
  | some r =>
    obtain ⟨t, ht, h⟩ := bind_eq_ok.mp h
    obtain ⟨rfl, rfl⟩ := Prod.mk.inj (pure_eq_ok.mp h)
    refine ⟨fun _ => valid_of_persist ht, fun sid' hsome => ?_⟩
    obtain ⟨_, rfl⟩ := persist_eq_ok ht
    show ((s.put sid r).session? sid').isSome
    by_cases he : sid' = sid
    · rw [he, session?_put_self]
      rfl
    · rw [session?_put_ne he]
      exact hsome

/-- A transaction on the leases. -/
theorem publishes_leases {α : Type} {a : α} {leases : AList fun _ : String => CleanupLease} :
    Publishes s ((persist { s with orphanCleanupLeases := leases }) >>= fun t => .ok (a, t)) := by
  intro _ _ h
  obtain ⟨t, ht, h⟩ := bind_eq_ok.mp h
  obtain ⟨rfl, rfl⟩ := Prod.mk.inj (Except.ok.inj h)
  refine ⟨fun _ => valid_of_persist ht, fun sid => ?_⟩
  obtain ⟨_, rfl⟩ := persist_eq_ok ht
  exact id

theorem publishes_release {x : Except Exc SessionStore}
    (hx : x = .ok s ∨ ∃ leases, x = persist { s with orphanCleanupLeases := leases }) : Publishes s (x.map ((), ·)) := by
  rcases hx with rfl | ⟨leases, rfl⟩
  · exact .same ()
  · intro a s' h
    obtain ⟨t, ht, h⟩ := map_eq_ok.mp h
    refine @publishes_leases s Unit () leases a s' ?_
    rw [ht]
    exact congrArg Except.ok h

/-! ### Transactions that succeed -/

theorem valid_iff : s.Valid ↔ (∀ sid r, s.session? sid = some r → r.Valid) ∧
    ∀ sid lease, s.orphanCleanupLeases.lookup sid = some lease → lease.invalid = none := by
  have hleases : (∀ lease ∈ s.orphanCleanupLeases.entries.map (·.2), lease.invalid = none) ↔
      ∀ sid lease, s.orphanCleanupLeases.lookup sid = some lease → lease.invalid = none := by
    constructor
    · exact fun h sid lease hl => h lease (List.mem_map.mpr ⟨⟨sid, lease⟩, AList.mem_lookup_iff.mp hl, rfl⟩)
    · intro h lease hm
      obtain ⟨⟨sid, lease⟩, he, rfl⟩ := List.mem_map.mp hm
      exact h sid lease (AList.mem_lookup_iff.mpr he)
  rw [← hleases]
  unfold Valid invalid Session.Valid
  simp only [Option.orElse_eq_orElse, Option.orElse_eq_or, Option.or_eq_none_iff, List.findSome?_eq_none_iff]
  constructor
  · rintro ⟨hrecords, hl, hser⟩
    split at hser
    · rename_i hall
      refine ⟨fun sid r hr => ?_, hl⟩
      have hm := mem_records.mpr ⟨sid, hr⟩
      exact ⟨hrecords r hm, List.all_eq_true.mp hall r hm⟩
    · cases hser
  · rintro ⟨hrecords, hl⟩
    have hmem : ∀ r ∈ s.records, r.invalid = none ∧ r.serializable = true := fun r hm => by
      obtain ⟨sid, hr⟩ := mem_records.mp hm
      exact hrecords sid r hr
    exact ⟨fun r hm => (hmem r hm).1, hl, if_pos (List.all_eq_true.mpr fun r hm => (hmem r hm).2)⟩

theorem releaseSessionCleanup_cases (s : SessionStore) (sid : String) (leaseId : Uuid) : s.releaseSessionCleanup sid leaseId = .ok s ∨
    s.releaseSessionCleanup sid leaseId = persist { s with orphanCleanupLeases := s.orphanCleanupLeases.erase sid } := by
  unfold releaseSessionCleanup
  split
  · split
    · exact Or.inr rfl
    · exact Or.inl rfl
  · exact Or.inl rfl

theorem releaseOrphanCleanup_cases (s : SessionStore) (sid : String) (leaseId : Uuid) : s.releaseOrphanCleanup sid leaseId = .ok s ∨
    s.releaseOrphanCleanup sid leaseId = persist { s with orphanCleanupLeases := s.orphanCleanupLeases.erase sid } := by
  unfold releaseOrphanCleanup
  split
  · split
    · exact Or.inr rfl
    · exact Or.inl rfl
  · exact Or.inl rfl

end SessionStore
end IRLight
