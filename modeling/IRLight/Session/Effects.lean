import IRLight.Session.Store

/-! # What the store's transactions do

One lemma for each transaction that commits: the record it found, the guards it passed and the record it
left. Everything else about the store follows from these. -/

namespace IRLight
namespace SessionStore
open Status

variable {s s' : SessionStore} {sid : String} {r : Session} {clock : ℕ → PyFloat} {fresh : Uuid}

/-- The store with a committed record. -/
def put (s : SessionStore) (sessionId : String) (r : Session) : SessionStore :=
  { s with sessions := s.sessions.insert sessionId r, authoritative := true }

@[simp] theorem session?_put_self : (s.put sid r).session? sid = some r := AList.lookup_insert _

@[simp] theorem session?_put_ne {sid' : String} (h : sid' ≠ sid) : (s.put sid r).session? sid' = s.session? sid' :=
  AList.lookup_insert_ne h

theorem session?_put {sid' : String} {r' : Session} (h : (s.put sid r).session? sid' = some r') :
    (sid' = sid ∧ r' = r) ∨ s.session? sid' = some r' := by
  by_cases he : sid' = sid
  · subst he
    rw [session?_put_self] at h
    exact Or.inl ⟨rfl, (Option.some.inj h).symm⟩
  · rw [session?_put_ne he] at h
    exact Or.inr h

@[simp] theorem put_leases : (s.put sid r).orphanCleanupLeases = s.orphanCleanupLeases := rfl
@[simp] theorem put_recoveryStableSeconds :
    (s.put sid r).recoveryStableSeconds = s.recoveryStableSeconds := rfl

theorem mem_records {r : Session} : r ∈ s.records ↔ ∃ sid, s.session? sid = some r := by
  simp only [records, List.mem_map, session?]
  constructor
  · rintro ⟨⟨sid, r⟩, he, rfl⟩
    exact ⟨sid, AList.mem_lookup_iff.mpr he⟩
  · rintro ⟨sid, h⟩
    exact ⟨⟨sid, r⟩, AList.mem_lookup_iff.mp h, rfl⟩

@[simp] theorem requireSession_eq_ok {o : Option Session} : requireSession sid o = .ok r ↔ o = some r := by
  cases o <;> simp [requireSession]

theorem persist_eq_ok (h : s.persist = .ok s') : s.invalid = none ∧ s' = { s with authoritative := true } := by
  unfold persist at h
  split at h
  · cases h
  · exact ⟨‹_›, (Except.ok.inj h).symm⟩

/-- A transaction on one record leaves the store as it was, or with the one record it committed. -/
theorem edit_eq_ok {α : Type} {f : Option Session → Except Exc (α × Option Session)} {a : α}
    (h : s.edit sid f = .ok (a, s')) : ∃ w, f (s.session? sid) = .ok (a, w) ∧ s' = w.elim s (s.put sid) := by
  obtain ⟨⟨b, w⟩, hf, h⟩ := bind_eq_ok.mp h
  cases w with
  | none =>
    obtain ⟨rfl, rfl⟩ := Prod.mk.inj (pure_eq_ok.mp h)
    exact ⟨none, hf, rfl⟩
  | some r =>
    obtain ⟨t, ht, h⟩ := bind_eq_ok.mp h
    obtain ⟨rfl, rfl⟩ := Prod.mk.inj (pure_eq_ok.mp h)
    exact ⟨some r, hf, (persist_eq_ok ht).2⟩

theorem effect_create {user : String} {env : Environment} (h : s.create sid user env clock = .ok (r, s')) :
    (s.session? sid = some r ∧ s' = s) ∨
      s.session? sid = none ∧ ∃ now, r = newSession sid user env .directPush now ∧ s' = s.put sid r := by
  obtain ⟨now, _, h⟩ := bind_eq_ok.mp h
  obtain ⟨_, _, h⟩ := bind_eq_ok.mp h
  obtain ⟨w, hf, rfl⟩ := edit_eq_ok h
  cases hr : s.session? sid with
  | some r₀ =>
    rw [hr] at hf
    obtain ⟨rfl, rfl⟩ := Prod.mk.inj (pure_eq_ok.mp hf)
    exact Or.inl ⟨rfl, rfl⟩
  | none =>
    rw [hr] at hf
    obtain ⟨rfl, rfl⟩ := Prod.mk.inj (pure_eq_ok.mp hf)
    exact Or.inr ⟨rfl, now, rfl, rfl⟩

theorem effect_reservePrepareSlot {user ent : String} {env : Environment} {max : ℤ}
    (h : s.reservePrepareSlot sid user env ent max clock = .ok (r, s')) :
    (∃ r₀, s.session? sid = some r₀ ∧ r₀.userId = user ∧
      (r₀.status ∈ [finished, failed] ∧ r = r₀ ∧ s' = s ∨
        r₀.status ∉ [finished, failed] ∧ (r₀.occupies ∨ (s.occupied sid user : ℤ) < max) ∧
          ∃ now, r = reserved r₀ ent now ∧ s' = s.put sid r)) ∨
    s.session? sid = none ∧ (s.occupied sid user : ℤ) < max ∧
      ∃ t now, r = reserved (newSession sid user env .directPush t) ent now ∧ s' = s.put sid r := by
  obtain ⟨_, _, h⟩ := bind_eq_ok.mp h
  obtain ⟨_, _, h⟩ := bind_eq_ok.mp h
  obtain ⟨w, hf, rfl⟩ := edit_eq_ok h
  cases hr : s.session? sid with
  | some r₀ =>
    rw [hr] at hf
    obtain ⟨_, hu, hf⟩ := bind_eq_ok.mp hf
    refine Or.inl ⟨r₀, rfl, by simpa using hu, ?_⟩
    split at hf
    · obtain ⟨rfl, rfl⟩ := Prod.mk.inj (pure_eq_ok.mp hf)
      exact Or.inl ⟨‹_›, rfl, rfl⟩
    · obtain ⟨_, hslot, hf⟩ := bind_eq_ok.mp hf
      obtain ⟨now, _, hf⟩ := bind_eq_ok.mp hf
      obtain ⟨rfl, rfl⟩ := Prod.mk.inj (pure_eq_ok.mp hf)
      refine Or.inr ⟨‹_›, ?_, now, rfl, rfl⟩
      split at hslot
      · exact Or.inl ‹_›
      · simp only [requireSlot, raiseIf_eq_ok, not_le] at hslot
        exact Or.inr hslot
  | none =>
    rw [hr] at hf
    obtain ⟨_, hslot, hf⟩ := bind_eq_ok.mp hf
    obtain ⟨t, _, hf⟩ := bind_eq_ok.mp hf
    obtain ⟨now, _, hf⟩ := bind_eq_ok.mp hf
    obtain ⟨rfl, rfl⟩ := Prod.mk.inj (pure_eq_ok.mp hf)
    simp only [requireSlot, raiseIf_eq_ok, not_le] at hslot
    exact Or.inr ⟨rfl, hslot, t, now, rfl, rfl⟩

/-- A prepare request is a replay of the one its Session is bound to, or it binds the Session when the
    user's other Sessions leave a slot. -/
theorem effect_beginPrepare {user ent key : String} {request : PrepareRequest} {max : ℤ} {replay : Bool}
    (h : s.beginPrepare sid user request ent max key clock = .ok ((r, replay), s')) :
    (replay = true ∧ s.session? sid = some r ∧ r.userId = user ∧ r.idempotencyKey.isSome ∧ s' = s) ∨
    replay = false ∧ (s.occupied sid user : ℤ) < max ∧
      ∃ r₀ now, r = bound r₀ request ent key now ∧ s' = s.put sid r ∧
        ((s.session? sid = some r₀ ∧ r₀.userId = user ∧ r₀.status ∉ [finished, failed] ∧ r₀.idempotencyKey = none) ∨
          s.session? sid = none ∧ ∃ t, r₀ = newSession sid user request.environment request.egressMode t) := by
  obtain ⟨_, _, h⟩ := bind_eq_ok.mp h
  obtain ⟨_, _, h⟩ := bind_eq_ok.mp h
  obtain ⟨w, hf, rfl⟩ := edit_eq_ok h
  cases hr : s.session? sid with
  | some r₀ =>
    rw [hr] at hf
    obtain ⟨_, hu, hf⟩ := bind_eq_ok.mp hf
    obtain ⟨_, hs, hf⟩ := bind_eq_ok.mp hf
    rw [raiseIf_eq_ok, not_not] at hu
    cases hk : r₀.idempotencyKey with
    | some k =>
      rw [hk] at hf
      obtain ⟨_, _, hf⟩ := bind_eq_ok.mp hf
      obtain ⟨he, rfl⟩ := Prod.mk.inj (pure_eq_ok.mp hf)
      obtain ⟨rfl, rfl⟩ := Prod.mk.inj he
      exact Or.inl ⟨rfl, rfl, hu, by simp [hk], rfl⟩
    | none =>
      rw [hk] at hf
      obtain ⟨_, hslot, hf⟩ := bind_eq_ok.mp hf
      obtain ⟨now, _, hf⟩ := bind_eq_ok.mp hf
      obtain ⟨he, rfl⟩ := Prod.mk.inj (pure_eq_ok.mp hf)
      obtain ⟨rfl, rfl⟩ := Prod.mk.inj he
      simp only [requireSlot, raiseIf_eq_ok, not_le] at hslot hs
      exact Or.inr ⟨rfl, hslot, r₀, now, rfl, rfl, Or.inl ⟨rfl, hu, hs, hk⟩⟩
  | none =>
    rw [hr] at hf
    obtain ⟨_, hslot, hf⟩ := bind_eq_ok.mp hf
    obtain ⟨t, _, hf⟩ := bind_eq_ok.mp hf
    obtain ⟨now, _, hf⟩ := bind_eq_ok.mp hf
    obtain ⟨he, rfl⟩ := Prod.mk.inj (pure_eq_ok.mp hf)
    obtain ⟨rfl, rfl⟩ := Prod.mk.inj he
    simp only [requireSlot, raiseIf_eq_ok, not_le] at hslot
    exact Or.inr ⟨rfl, hslot, _, now, rfl, rfl, Or.inr ⟨rfl, t, rfl⟩⟩

theorem effect_getPrepareReplay {user key : String} {request : PrepareRequest}
    (h : s.getPrepareReplay sid user request key = .ok (some r)) :
    s.session? sid = some r ∧ r.idempotencyKey = some key := by
  unfold getPrepareReplay at h
  split at h
  · cases h
  · obtain ⟨_, _, h⟩ := bind_eq_ok.mp h
    split at h
    · cases h
    · obtain ⟨_, _, h⟩ := bind_eq_ok.mp h
      obtain rfl := Option.some.inj (pure_eq_ok.mp h)
      exact ⟨‹_›, not_not.mp ‹_›⟩

theorem effect_claimProvisioning {op : Uuid} {started : PyFloat}
    (h : s.claimProvisioning sid op started clock = .ok (r, s')) :
    ∃ r₀ t now, s.session? sid = some r₀ ∧ r₀.status ∈ [stopped, provisioning, bootstrapping] ∧
      (r₀.provisioningOperationId = none ∨ r₀.provisioningOperationId = some op) ∧
      r = claimed r₀ op t now ∧ s' = s.put sid r := by
  obtain ⟨t, _, h⟩ := bind_eq_ok.mp h
  obtain ⟨_, _, h⟩ := bind_eq_ok.mp h
  obtain ⟨w, hf, rfl⟩ := edit_eq_ok h
  obtain ⟨r₀, hr, hf⟩ := bind_eq_ok.mp hf
  obtain ⟨_, hs, hf⟩ := bind_eq_ok.mp hf
  obtain ⟨_, ho, hf⟩ := bind_eq_ok.mp hf
  obtain ⟨now, _, hf⟩ := bind_eq_ok.mp hf
  obtain ⟨rfl, rfl⟩ := Prod.mk.inj (pure_eq_ok.mp hf)
  rw [requireSession_eq_ok] at hr
  rw [raiseIf_eq_ok, not_not] at hs
  refine ⟨r₀, t, now, hr, hs, ?_, rfl, rfl⟩
  cases hop : r₀.provisioningOperationId with
  | none => exact Or.inl rfl
  | some o =>
    rw [raiseIf_eq_ok, hop] at ho
    simp only [Option.any_some, decide_not, Bool.not_eq_true', decide_eq_false_iff_not, not_not] at ho
    exact Or.inr (congrArg some ho)

/-- A checkpoint by the owner advances the Session and may end its provisioning, unless the Session is
    cancelled: then it changes neither. -/
theorem effect_provisioningCheckpoint {op : Uuid} {next : Option Status} {complete : Bool} {changes : List Change}
    (h : s.provisioningCheckpoint sid op next complete changes clock = .ok (r, s')) :
    ∃ r₀ update now, s.session? sid = some r₀ ∧ r₀.provisioningOperationId = some op ∧
      updateOf "Session provisioning checkpoint" changes = .ok update ∧ s' = s.put sid r ∧
      ((update r₀).provisioningCancelled = true ∧ r = { update r₀ with updatedAt := now } ∨
        (update r₀).provisioningCancelled = false ∧ ∃ r₁, advanced (update r₀) next = .ok r₁ ∧
          r = { (if complete then completed r₁ else r₁) with updatedAt := now }) := by
  obtain ⟨update, hu, h⟩ := bind_eq_ok.mp h
  obtain ⟨w, hf, rfl⟩ := edit_eq_ok h
  obtain ⟨r₀, hr, hf⟩ := bind_eq_ok.mp hf
  obtain ⟨_, ho, hf⟩ := bind_eq_ok.mp hf
  obtain ⟨now, _, hf⟩ := bind_eq_ok.mp hf
  obtain ⟨r₁, hadv, hf⟩ := bind_eq_ok.mp hf
  obtain ⟨rfl, rfl⟩ := Prod.mk.inj (pure_eq_ok.mp hf)
  rw [requireSession_eq_ok] at hr
  rw [raiseIf_eq_ok, not_not] at ho
  refine ⟨r₀, update, now, hr, ho, hu, rfl, ?_⟩
  cases hc : (update r₀).provisioningCancelled with
  | true =>
    rw [hc] at hadv
    obtain rfl := Except.ok.inj hadv
    exact Or.inl ⟨rfl, by simp⟩
  | false =>
    rw [hc] at hadv
    exact Or.inr ⟨rfl, r₁, hadv, by simp⟩

theorem effect_requestStop (h : s.requestStop sid clock = .ok (r, s')) :
    ∃ r₀, s.session? sid = some r₀ ∧
      (r₀.status ∈ terminalStates ∧ r = r₀ ∧ s' = s ∨
        r₀.status ∉ terminalStates ∧ ∃ now, r = stopRequested r₀ now ∧ s' = s.put sid r) := by
  obtain ⟨w, hf, rfl⟩ := edit_eq_ok h
  obtain ⟨r₀, hr, hf⟩ := bind_eq_ok.mp hf
  rw [requireSession_eq_ok] at hr
  refine ⟨r₀, hr, ?_⟩
  split at hf
  · obtain ⟨rfl, rfl⟩ := Prod.mk.inj (pure_eq_ok.mp hf)
    exact Or.inl ⟨‹_›, rfl, rfl⟩
  · obtain ⟨now, _, hf⟩ := bind_eq_ok.mp hf
    obtain ⟨rfl, rfl⟩ := Prod.mk.inj (pure_eq_ok.mp hf)
    exact Or.inr ⟨‹_›, now, rfl, rfl⟩

theorem effect_requestStopIfCurrent {expected : Status} {fields : List Expected} {o : Option Session}
    (h : s.requestStopIfCurrent sid expected fields clock = .ok (o, s')) :
    (o = none ∧ s' = s) ∨ ∃ r₀ now, s.session? sid = some r₀ ∧ r₀.status = expected ∧ r₀.matchesFields fields ∧
      o = some (stopRequested r₀ now) ∧ s' = s.put sid (stopRequested r₀ now) := by
  obtain ⟨w, hf, rfl⟩ := edit_eq_ok h
  cases hr : s.session? sid with
  | none =>
    rw [hr] at hf
    obtain ⟨rfl, rfl⟩ := Prod.mk.inj (pure_eq_ok.mp hf)
    exact Or.inl ⟨rfl, rfl⟩
  | some r₀ =>
    rw [hr] at hf
    dsimp only at hf
    split at hf
    · obtain ⟨rfl, rfl⟩ := Prod.mk.inj (pure_eq_ok.mp hf)
      exact Or.inl ⟨rfl, rfl⟩
    · rename_i hg
      obtain ⟨now, _, hf⟩ := bind_eq_ok.mp hf
      obtain ⟨rfl, rfl⟩ := Prod.mk.inj (pure_eq_ok.mp hf)
      simp only [ne_eq, Bool.or_eq_true, decide_eq_true_eq, Bool.not_eq_true', not_or, not_not,
        Bool.not_eq_false] at hg
      exact Or.inr ⟨r₀, now, rfl, hg.1, hg.2, rfl, rfl⟩

theorem effect_transition {new : Status} {allowed : List Status} {changes : List Change}
    (h : s.transition sid new allowed changes clock = .ok (r, s')) :
    ∃ r₀ update now, s.session? sid = some r₀ ∧ r₀.status ∈ allowed ∧
      updateOf "Session transition" changes = .ok update ∧ r = transitioned r₀ update new now ∧ s' = s.put sid r := by
  obtain ⟨update, hu, h⟩ := bind_eq_ok.mp h
  obtain ⟨w, hf, rfl⟩ := edit_eq_ok h
  obtain ⟨r₀, hr, hf⟩ := bind_eq_ok.mp hf
  obtain ⟨_, hs, hf⟩ := bind_eq_ok.mp hf
  obtain ⟨now, _, hf⟩ := bind_eq_ok.mp hf
  obtain ⟨rfl, rfl⟩ := Prod.mk.inj (pure_eq_ok.mp hf)
  rw [requireSession_eq_ok] at hr
  rw [raiseIf_eq_ok, not_not] at hs
  exact ⟨r₀, update, now, hr, hs, hu, rfl, rfl⟩

theorem effect_transitionIfCurrent {new : Status} {allowed : List Status} {fields : List Expected}
    {changes : List Change} {o : Option Session}
    (h : s.transitionIfCurrent sid new allowed fields changes clock = .ok (o, s')) :
    (o = none ∧ s' = s) ∨ ∃ r₀ update now, s.session? sid = some r₀ ∧ r₀.status ∈ allowed ∧
      r₀.matchesFields fields ∧ updateOf "Session conditional transition" changes = .ok update ∧
      o = some (transitioned r₀ update new now) ∧ s' = s.put sid (transitioned r₀ update new now) := by
  obtain ⟨update, hu, h⟩ := bind_eq_ok.mp h
  obtain ⟨w, hf, rfl⟩ := edit_eq_ok h
  cases hr : s.session? sid with
  | none =>
    rw [hr] at hf
    obtain ⟨rfl, rfl⟩ := Prod.mk.inj (pure_eq_ok.mp hf)
    exact Or.inl ⟨rfl, rfl⟩
  | some r₀ =>
    rw [hr] at hf
    dsimp only at hf
    split at hf
    · obtain ⟨rfl, rfl⟩ := Prod.mk.inj (pure_eq_ok.mp hf)
      exact Or.inl ⟨rfl, rfl⟩
    · rename_i hg
      obtain ⟨now, _, hf⟩ := bind_eq_ok.mp hf
      obtain ⟨rfl, rfl⟩ := Prod.mk.inj (pure_eq_ok.mp hf)
      simp only [Bool.or_eq_true, decide_eq_true_eq, Bool.not_eq_true', not_or, not_not,
        Bool.not_eq_false] at hg
      exact Or.inr ⟨r₀, update, now, rfl, hg.1, hg.2, hu, rfl, rfl⟩

theorem effect_update {changes : List Change} (h : s.update sid changes clock = .ok (r, s')) :
    ∃ r₀ update now, s.session? sid = some r₀ ∧ updateOf "Session update" changes = .ok update ∧
      r = { update r₀ with updatedAt := now } ∧ s' = s.put sid r := by
  obtain ⟨update, hu, h⟩ := bind_eq_ok.mp h
  obtain ⟨w, hf, rfl⟩ := edit_eq_ok h
  obtain ⟨r₀, hr, hf⟩ := bind_eq_ok.mp hf
  obtain ⟨now, _, hf⟩ := bind_eq_ok.mp hf
  obtain ⟨rfl, rfl⟩ := Prod.mk.inj (pure_eq_ok.mp hf)
  rw [requireSession_eq_ok] at hr
  exact ⟨r₀, update, now, hr, hu, rfl, rfl⟩

theorem effect_updateIfCurrent {expected : Status} {fields : List Expected} {event : Option EventDraft}
    {changes : List Change} {o : Option Session}
    (h : s.updateIfCurrent sid expected fields event changes clock = .ok (o, s')) :
    (o = none ∧ s' = s) ∨ ∃ r₀ update now, s.session? sid = some r₀ ∧ r₀.status = expected ∧
      r₀.matchesFields fields ∧ updateOf "Session conditional update" changes = .ok update ∧
      o = some (audited (update r₀) event now) ∧ s' = s.put sid (audited (update r₀) event now) := by
  obtain ⟨update, hu, h⟩ := bind_eq_ok.mp h
  obtain ⟨w, hf, rfl⟩ := edit_eq_ok h
  cases hr : s.session? sid with
  | none =>
    rw [hr] at hf
    obtain ⟨rfl, rfl⟩ := Prod.mk.inj (pure_eq_ok.mp hf)
    exact Or.inl ⟨rfl, rfl⟩
  | some r₀ =>
    rw [hr] at hf
    dsimp only at hf
    split at hf
    · obtain ⟨rfl, rfl⟩ := Prod.mk.inj (pure_eq_ok.mp hf)
      exact Or.inl ⟨rfl, rfl⟩
    · rename_i hg
      obtain ⟨now, _, hf⟩ := bind_eq_ok.mp hf
      obtain ⟨rfl, rfl⟩ := Prod.mk.inj (pure_eq_ok.mp hf)
      simp only [ne_eq, Bool.or_eq_true, decide_eq_true_eq, Bool.not_eq_true', not_or, not_not,
        Bool.not_eq_false] at hg
      exact Or.inr ⟨r₀, update, now, rfl, hg.1, hg.2, hu, rfl, rfl⟩

theorem effect_appendEvent {type : String} {reason : Option String} {payload : Json} {origin : String}
    {occurred : Option Timestamp} {u : Unit}
    (h : s.appendEvent sid type reason payload origin occurred clock = .ok (u, s')) :
    ∃ r₀ now, s.session? sid = some r₀ ∧
      s' = s.put sid { r₀.appendEventLocked type reason payload origin now with updatedAt := now } := by
  obtain ⟨now, _, h⟩ := bind_eq_ok.mp h
  obtain ⟨w, hf, rfl⟩ := edit_eq_ok h
  obtain ⟨r₀, hr, hf⟩ := bind_eq_ok.mp hf
  obtain ⟨_, rfl⟩ := Prod.mk.inj (pure_eq_ok.mp hf)
  rw [requireSession_eq_ok] at hr
  exact ⟨r₀, now, hr, rfl⟩

theorem effect_setAudioDesired {mode : AudioMode} {version : ℕ} {key operator : String} {a : MediaControlAudio}
    (h : s.setAudioDesired sid mode version key operator clock fresh = .ok (a, s')) :
    s' = s ∨ ∃ r₀ now, s.session? sid = some r₀ ∧ s' = s.put sid (commanded r₀ mode key operator fresh now) := by
  obtain ⟨_, _, h⟩ := bind_eq_ok.mp h
  obtain ⟨now, _, h⟩ := bind_eq_ok.mp h
  obtain ⟨w, hf, rfl⟩ := edit_eq_ok h
  obtain ⟨r₀, hr, hf⟩ := bind_eq_ok.mp hf
  obtain ⟨_, _, hf⟩ := bind_eq_ok.mp hf
  rw [requireSession_eq_ok] at hr
  split at hf
  · obtain ⟨_, _, hf⟩ := bind_eq_ok.mp hf
    obtain ⟨_, rfl⟩ := Prod.mk.inj (pure_eq_ok.mp hf)
    exact Or.inl rfl
  · obtain ⟨_, _, hf⟩ := bind_eq_ok.mp hf
    obtain ⟨_, rfl⟩ := Prod.mk.inj (pure_eq_ok.mp hf)
    exact Or.inr ⟨r₀, now, hr, rfl⟩

theorem effect_bindNode {node boot server : String} (h : s.bindNode sid node boot server clock = .ok (r, s')) :
    ∃ r₀ now, s.session? sid = some r₀ ∧ r₀.status ∈ activeStates ∧ r₀.providerServerId = some server ∧
      r = nodeBound r₀ node boot now ∧ s' = s.put sid r := by
  obtain ⟨now, _, h⟩ := bind_eq_ok.mp h
  obtain ⟨w, hf, rfl⟩ := edit_eq_ok h
  obtain ⟨r₀, hr, hf⟩ := bind_eq_ok.mp hf
  obtain ⟨_, hp, hf⟩ := bind_eq_ok.mp hf
  obtain ⟨_, hs, hf⟩ := bind_eq_ok.mp hf
  obtain ⟨rfl, rfl⟩ := Prod.mk.inj (pure_eq_ok.mp hf)
  rw [requireSession_eq_ok] at hr
  rw [raiseIf_eq_ok, not_not] at hs hp
  exact ⟨r₀, now, hr, hs, hp, rfl, rfl⟩

/-- A heartbeat is refused, with nothing changed, exactly when the Session is not active, is not bound to
    this Node and boot, or has heard a later one. -/
theorem effect_recordNodeHeartbeat {node boot : String} {observed : Timestamp} {ready accepted : Bool}
    (h : s.recordNodeHeartbeat sid node boot observed ready = .ok (accepted, s')) :
    (accepted = false ∧ s' = s ∧ ∀ r₀, s.session? sid = some r₀ → r₀.status ∈ activeStates →
      r₀.nodeId = some node → r₀.nodeBootId = some boot → ∃ t ∈ r₀.nodeLastHeartbeatAt, observed < t) ∨
    accepted = true ∧ ∃ r₀, s.session? sid = some r₀ ∧ r₀.status ∈ activeStates ∧ r₀.nodeId = some node ∧
      r₀.nodeBootId = some boot ∧ (∀ t ∈ r₀.nodeLastHeartbeatAt, t ≤ observed) ∧
      s' = s.put sid (heard r₀ observed ready) := by
  obtain ⟨w, hf, rfl⟩ := edit_eq_ok h
  cases hr : s.session? sid with
  | none =>
    rw [hr] at hf
    obtain ⟨rfl, rfl⟩ := Prod.mk.inj (pure_eq_ok.mp hf)
    exact Or.inl ⟨rfl, rfl, fun r₀ h => nomatch h⟩
  | some r₀ =>
    rw [hr] at hf
    dsimp only at hf
    split at hf
    · obtain ⟨rfl, rfl⟩ := Prod.mk.inj (pure_eq_ok.mp hf)
      refine Or.inl ⟨rfl, rfl, fun r₁ h₁ hs hn hb => ?_⟩
      obtain rfl := Option.some.inj h₁
      simp_all
    · rename_i hg
      simp only [not_or, not_not] at hg
      split at hf
      · obtain ⟨rfl, rfl⟩ := Prod.mk.inj (pure_eq_ok.mp hf)
        refine Or.inl ⟨rfl, rfl, fun r₁ h₁ hs hn hb => ?_⟩
        obtain rfl := Option.some.inj h₁
        obtain ⟨t, ht, hlt⟩ := (Option.any_eq_true _ _).mp ‹Option.any _ _ = true›
        exact ⟨t, ht, of_decide_eq_true hlt⟩
      · obtain ⟨rfl, rfl⟩ := Prod.mk.inj (pure_eq_ok.mp hf)
        refine Or.inr ⟨rfl, r₀, rfl, hg.1, hg.2.1, hg.2.2, fun t ht => ?_, rfl⟩
        rename_i hlt
        rw [Option.mem_def] at ht
        simpa [ht] using hlt

theorem effect_applyIngestObservation {node : String} {types : List String} {o : IngestObservation}
    {current : Timestamp} (h : s.applyIngestObservation sid node types o current = .ok (r, s')) :
    ∃ r₀, s.session? sid = some r₀ ∧ (r₀.status ∉ activeStates ∧ s' = s ∨
      r₀.status ∈ activeStates ∧ s' = s.put sid
        { o.advance (o.appendEvents r₀ node types current) node s.recoveryStableSeconds current with
          nodeId := some node, updatedAt := current }) := by
  obtain ⟨w, hf, rfl⟩ := edit_eq_ok h
  obtain ⟨r₀, hr, hf⟩ := bind_eq_ok.mp hf
  obtain ⟨_, _, hf⟩ := bind_eq_ok.mp hf
  rw [requireSession_eq_ok] at hr
  refine ⟨r₀, hr, ?_⟩
  split at hf
  · obtain ⟨_, rfl⟩ := Prod.mk.inj (pure_eq_ok.mp hf)
    exact Or.inl ⟨‹_›, rfl⟩
  · obtain ⟨_, rfl⟩ := Prod.mk.inj (pure_eq_ok.mp hf)
    exact Or.inr ⟨not_not.mp ‹_›, rfl⟩

theorem effect_applyRelayClientObservation {node : String} {types : List String} {o : RelayClientObservation}
    (h : s.applyRelayClientObservation sid node types o clock = .ok (r, s')) :
    ∃ r₀, s.session? sid = some r₀ ∧ (r₀.status ∉ activeStates ∧ s' = s ∨
      r₀.status ∈ activeStates ∧ ∃ observedAt now, s' = s.put sid (o.record r₀ node types observedAt now)) := by
  obtain ⟨now, _, h⟩ := bind_eq_ok.mp h
  obtain ⟨observedAt, _, h⟩ := bind_eq_ok.mp h
  obtain ⟨w, hf, rfl⟩ := edit_eq_ok h
  obtain ⟨r₀, hr, hf⟩ := bind_eq_ok.mp hf
  obtain ⟨_, _, hf⟩ := bind_eq_ok.mp hf
  rw [requireSession_eq_ok] at hr
  refine ⟨r₀, hr, ?_⟩
  split at hf
  · obtain ⟨_, rfl⟩ := Prod.mk.inj (pure_eq_ok.mp hf)
    exact Or.inl ⟨‹_›, rfl⟩
  · obtain ⟨_, rfl⟩ := Prod.mk.inj (pure_eq_ok.mp hf)
    exact Or.inr ⟨not_not.mp ‹_›, observedAt, now, rfl⟩

end SessionStore
end IRLight
