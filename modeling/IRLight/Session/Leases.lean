import IRLight.Session.Effects

/-! # Cleanup leases

At most one lease is stored under a Session's id. A claim takes the place of a lease only once the lease has
expired, a release takes away its own lease only, and the operations that create or claim a Session are refused
until then. -/

namespace IRLight
namespace SessionStore
open Status

variable {s s' : SessionStore} {sid : String} {r : Session} {clock : ℕ → PyFloat} {fresh leaseId : Uuid} {reading : PyFloat}

def lease? (s : SessionStore) (sessionId : String) : Option CleanupLease := s.orphanCleanupLeases.lookup sessionId

/-- The store with a lease taken. -/
def lend (s : SessionStore) (sessionId : String) (lease : CleanupLease) : SessionStore :=
  { s with orphanCleanupLeases := s.orphanCleanupLeases.insert sessionId lease, authoritative := true }

/-- The store with a lease released. -/
def giveBack (s : SessionStore) (sessionId : String) : SessionStore :=
  { s with orphanCleanupLeases := s.orphanCleanupLeases.erase sessionId, authoritative := true }

@[simp] theorem lease?_put {sid' : String} : (s.put sid' r).lease? sid = s.lease? sid := rfl

@[simp] theorem lease?_lend_self {lease : CleanupLease} : (s.lend sid lease).lease? sid = some lease :=
  AList.lookup_insert _

@[simp] theorem lease?_lend_ne {sid' : String} {lease : CleanupLease} (h : sid ≠ sid') :
    (s.lend sid' lease).lease? sid = s.lease? sid :=
  AList.lookup_insert_ne h

@[simp] theorem lease?_giveBack_ne {sid' : String} (h : sid ≠ sid') : (s.giveBack sid').lease? sid = s.lease? sid :=
  AList.lookup_erase_ne h

@[simp] theorem lease?_giveBack_self : (s.giveBack sid).lease? sid = none := AList.lookup_erase _ _

@[simp] theorem session?_lend {sid' : String} {lease : CleanupLease} : (s.lend sid' lease).session? sid = s.session? sid := rfl

@[simp] theorem session?_giveBack {sid' : String} : (s.giveBack sid').session? sid = s.session? sid := rfl

/-- No lease of the id is left, or the reading shows that it has expired. -/
def LeaseOver (s : SessionStore) (sessionId : String) (reading : PyFloat) : Prop :=
  ∀ lease, s.lease? sessionId = some lease → ∃ t : Timestamp, reading = .finite t ∧ lease.expiresAt ≤ t

theorem leaseOver_of_active (h : s.activeCleanupLease sid reading = .ok none) : s.LeaseOver sid reading := by
  intro lease hl
  unfold lease? at hl
  simp only [activeCleanupLease, hl] at h
  obtain ⟨t, ht, h⟩ := bind_eq_ok.mp h
  have he := pure_eq_ok.mp h
  split at he
  · exact ⟨t, requireTimestamp_eq_ok.mp ht, ‹_›⟩
  · cases he

theorem leaseOver_of_reject {u : Unit} (h : s.rejectActiveCleanupLease sid reading = .ok u) : s.LeaseOver sid reading := by
  obtain ⟨lease, hl, h⟩ := bind_eq_ok.mp h
  rw [raiseIf_eq_ok, Bool.not_eq_true, Option.isSome_eq_false_iff, Option.isNone_iff_eq_none] at h
  exact leaseOver_of_active (h ▸ hl)

/-! ### Claims and releases -/

/-- What a granted claim finds and leaves. -/
structure Grants (s s' : SessionStore) (sessionId : String) (fresh : Uuid) (clock : ℕ → PyFloat) : Prop where
  lapsed : s.LeaseOver sessionId (clock 0)
  stored : ∃ (now : Timestamp) (scope : LeaseScope), clock 1 = .finite now ∧
    s' = s.lend sessionId ⟨fresh, scope, now, now + max 1 leaseSeconds⟩

/-- The common end of both lease claims. -/
theorem grants_of_active {lease : Option CleanupLease} {context : String} {now : Timestamp} {scope : LeaseScope}
    {o : Option Uuid} (hl : s.activeCleanupLease sid (clock 0) = .ok lease) (hnone : ¬lease.isSome = true)
    (hnow : validatedNow (clock 1) context = .ok now) (h : s.takeLease sid scope fresh now = .ok (o, s')) :
    o = some fresh ∧ s.Grants s' sid fresh clock := by
  rw [Bool.not_eq_true, Option.isSome_eq_false_iff, Option.isNone_iff_eq_none] at hnone
  obtain ⟨t, ht, h⟩ := bind_eq_ok.mp h
  obtain ⟨rfl, rfl⟩ := Prod.mk.inj (pure_eq_ok.mp h)
  exact ⟨rfl, leaseOver_of_active (hnone ▸ hl), now, scope, requireTimestamp_eq_ok.mp hnow, (persist_eq_ok ht).2⟩

/-- A lease of orphan cleanup is granted only where no Session is left to provision. -/
theorem effect_claimOrphanCleanup {resource : String} {kind : ResourceKind} {o : Option Uuid}
    (h : s.claimOrphanCleanup sid resource kind clock fresh = .ok (o, s')) :
    (o = none ∧ s' = s) ∨ o = some fresh ∧ s.Grants s' sid fresh clock ∧
      ∀ r, s.session? sid = some r → r.status ∈ terminalStates := by
  unfold claimOrphanCleanup at h
  split at h
  · obtain ⟨rfl, rfl⟩ := Prod.mk.inj (pure_eq_ok.mp h)
    exact Or.inl ⟨rfl, rfl⟩
  · rename_i hterminal
    obtain ⟨lease, hl, h⟩ := bind_eq_ok.mp h
    split at h
    · obtain ⟨rfl, rfl⟩ := Prod.mk.inj (pure_eq_ok.mp h)
      exact Or.inl ⟨rfl, rfl⟩
    · obtain ⟨now, hnow, h⟩ := bind_eq_ok.mp h
      obtain ⟨ho, hg⟩ := grants_of_active hl ‹_› hnow h
      exact Or.inr ⟨ho, hg, fun r hr => by simpa [hr] using hterminal⟩

theorem effect_claimSessionCleanup {o : Option Uuid} (h : s.claimSessionCleanup sid clock fresh = .ok (o, s')) :
    (o = none ∧ s' = s) ∨ o = some fresh ∧ s.Grants s' sid fresh clock ∧
      ∃ r, s.session? sid = some r ∧ r.status ∈ [stopping, failedCleanup] := by
  unfold claimSessionCleanup at h
  dsimp only at h
  split at h
  · obtain ⟨rfl, rfl⟩ := Prod.mk.inj (pure_eq_ok.mp h)
    exact Or.inl ⟨rfl, rfl⟩
  · rename_i hallowed
    rw [Bool.not_eq_true, Bool.not_eq_false', Option.any_eq_true] at hallowed
    obtain ⟨r, hr, hst⟩ := hallowed
    obtain ⟨lease, hl, h⟩ := bind_eq_ok.mp h
    split at h
    · obtain ⟨rfl, rfl⟩ := Prod.mk.inj (pure_eq_ok.mp h)
      exact Or.inl ⟨rfl, rfl⟩
    · obtain ⟨now, hnow, h⟩ := bind_eq_ok.mp h
      obtain ⟨ho, hg⟩ := grants_of_active hl ‹_› hnow h
      exact Or.inr ⟨ho, hg, r, hr, by simpa using hst⟩

theorem effect_releaseOrphanCleanup (h : s.releaseOrphanCleanup sid leaseId = .ok s') :
    s' = s ∨ (∃ lease, s.lease? sid = some lease ∧ lease.leaseId = leaseId) ∧ s' = s.giveBack sid := by
  unfold releaseOrphanCleanup at h
  split at h
  · split at h
    · exact Or.inr ⟨⟨_, ‹_›, ‹_›⟩, (persist_eq_ok h).2⟩
    · exact Or.inl (Except.ok.inj h).symm
  · exact Or.inl (Except.ok.inj h).symm

theorem effect_releaseSessionCleanup (h : s.releaseSessionCleanup sid leaseId = .ok s') :
    s' = s ∨ (∃ lease, s.lease? sid = some lease ∧ lease.leaseId = leaseId) ∧ s' = s.giveBack sid := by
  unfold releaseSessionCleanup at h
  split at h
  · split at h
    · exact Or.inr ⟨⟨_, ‹_›, ‹_›⟩, (persist_eq_ok h).2⟩
    · exact Or.inl (Except.ok.inj h).symm
  · exact Or.inl (Except.ok.inj h).symm

/-! ### What a lease keeps out -/

theorem leaseOver_of_create {user : String} {env : Environment} (h : s.create sid user env clock = .ok (r, s')) :
    s.LeaseOver sid (clock 1) := by
  obtain ⟨_, _, h⟩ := bind_eq_ok.mp h
  obtain ⟨_, hreject, _⟩ := bind_eq_ok.mp h
  exact leaseOver_of_reject hreject

theorem leaseOver_of_reservePrepareSlot {user ent : String} {env : Environment} {max : ℤ}
    (h : s.reservePrepareSlot sid user env ent max clock = .ok (r, s')) : s.LeaseOver sid (clock 0) := by
  obtain ⟨_, _, h⟩ := bind_eq_ok.mp h
  obtain ⟨_, hreject, _⟩ := bind_eq_ok.mp h
  exact leaseOver_of_reject hreject

theorem leaseOver_of_beginPrepare {user ent key : String} {request : PrepareRequest} {max : ℤ} {a : Session × Bool}
    (h : s.beginPrepare sid user request ent max key clock = .ok (a, s')) : s.LeaseOver sid (clock 0) := by
  obtain ⟨_, _, h⟩ := bind_eq_ok.mp h
  obtain ⟨_, hreject, _⟩ := bind_eq_ok.mp h
  exact leaseOver_of_reject hreject

theorem leaseOver_of_claimProvisioning {op : Uuid} {started : PyFloat}
    (h : s.claimProvisioning sid op started clock = .ok (r, s')) : s.LeaseOver sid (clock 0) := by
  obtain ⟨_, _, h⟩ := bind_eq_ok.mp h
  obtain ⟨_, hreject, _⟩ := bind_eq_ok.mp h
  exact leaseOver_of_reject hreject

end SessionStore
end IRLight
