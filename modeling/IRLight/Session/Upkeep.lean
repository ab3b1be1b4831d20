import IRLight.Session.Lifecycle

/-! # The upkeep of a Session record

Some fields of a record follow its status: whether cleanup is pending, whether a recovery is being watched
and whether a hold has a deadline. The operations set them one by one, and every record they commit is
`Upkept`. -/

namespace IRLight
open Status

/-- The states with resources left to clean up. -/
def cleanupStates : List Status := [stopping, failedCleanup]

namespace Session

/-- The fields that follow the status do. -/
structure Upkept (r : Session) : Prop where
  pending : r.cleanupPending = decide (r.status ∈ cleanupStates)
  since : r.recoveryCandidateSince.isSome → r.status = holding
  source : r.recoveryCandidateSourceId.isSome → r.status = holding
  hold : r.status.phase ≤ 3 → r.status ≠ holding → r.holdDeadlineAt = none

/-- A record that keeps its status and the fields that follow it. -/
structure Alike (r r' : Session) : Prop where
  status : r'.status = r.status
  pending : r'.cleanupPending = r.cleanupPending
  since : r'.recoveryCandidateSince = r.recoveryCandidateSince
  source : r'.recoveryCandidateSourceId = r.recoveryCandidateSourceId
  hold : r'.holdDeadlineAt = r.holdDeadlineAt

namespace Alike
variable {r r' r'' : Session}

theorem refl (r : Session) : r.Alike r := ⟨rfl, rfl, rfl, rfl, rfl⟩

theorem trans (h : r.Alike r') (h' : r'.Alike r'') : r.Alike r'' :=
  ⟨h'.1.trans h.1, h'.2.trans h.2, h'.3.trans h.3, h'.4.trans h.4, h'.5.trans h.5⟩

theorem upkept (h : r.Alike r') (hu : r.Upkept) : r'.Upkept where
  pending := by rw [h.pending, h.status, hu.pending]
  since := by rw [h.since, h.status]; exact hu.since
  source := by rw [h.source, h.status]; exact hu.source
  hold := by rw [h.status, h.hold]; exact hu.hold

end Alike

/-- A record outside HOLDING watches no recovery. -/
theorem Upkept.candidate {r : Session} (hu : r.Upkept) (h : r.status ≠ holding) :
    r.recoveryCandidateSince = none ∧ r.recoveryCandidateSourceId = none :=
  ⟨Option.not_isSome_iff_eq_none.mp fun hs => h (hu.since hs), Option.not_isSome_iff_eq_none.mp fun hs => h (hu.source hs)⟩

/-- A record that watches no recovery is upkept when the other two fields follow its status. -/
theorem upkept_of_cleared {r : Session} (hsince : r.recoveryCandidateSince = none)
    (hsource : r.recoveryCandidateSourceId = none) (hpending : r.cleanupPending = decide (r.status ∈ cleanupStates))
    (hhold : r.status.phase ≤ 3 → r.status ≠ holding → r.holdDeadlineAt = none) : r.Upkept :=
  ⟨hpending, by simp [hsince], by simp [hsource], hhold⟩

end Session

/-! ### Partial updates -/

/-- A change of no field that follows the status. -/
def Change.quiet : Change → Bool
  | cleanupPending _ | holdDeadlineAt _ => false
  | _ => true

/-- The changes say whether cleanup is pending, and change no other field that follows the status. -/
def Settles (pending : Bool) (changes : List Change) : Prop :=
  ∃ rest, changes = .cleanupPending pending :: rest ∧ ∀ c ∈ rest, c.quiet

section
variable {context : String} {changes : List Change} {update : Session → Session}

theorem updateOf_quiet (h : updateOf context changes = .ok update) (hq : ∀ c ∈ changes, c.quiet) (r : Session) :
    r.Alike (update r) := by
  induction changes generalizing update r with
  | nil =>
    obtain rfl := Except.ok.inj h
    exact .refl r
  | cons c changes ih =>
    obtain ⟨f, hf, h⟩ := bind_eq_ok.mp h
    obtain ⟨g, hg, h⟩ := bind_eq_ok.mp h
    obtain rfl := pure_eq_ok.mp h
    refine Session.Alike.trans ?_ (ih hg (fun c hc => hq c (List.mem_cons_of_mem _ hc)) (f r))
    have hc := hq c List.mem_cons_self
    cases c with
    | readyAt v =>
      obtain ⟨t, _, hf⟩ := bind_eq_ok.mp hf
      obtain rfl := pure_eq_ok.mp hf
      exact ⟨rfl, rfl, rfl, rfl, rfl⟩
    | cleanupPending v => cases hc
    | holdDeadlineAt v => cases hc
    | _ =>
      obtain rfl := Except.ok.inj hf
      exact ⟨rfl, rfl, rfl, rfl, rfl⟩

theorem updateOf_settles {pending : Bool} (h : updateOf context changes = .ok update) (hs : Settles pending changes)
    (r : Session) : ({ r with cleanupPending := pending } : Session).Alike (update r) := by
  obtain ⟨rest, rfl, hrest⟩ := hs
  obtain ⟨f, hf, h⟩ := bind_eq_ok.mp h
  obtain ⟨g, hg, h⟩ := bind_eq_ok.mp h
  obtain rfl := pure_eq_ok.mp h
  obtain rfl := Except.ok.inj hf
  exact updateOf_quiet hg hrest _

/-- The deadline of a hold may be set. -/
theorem updateOf_hold (h : updateOf context changes = .ok update)
    (hq : ∀ c ∈ changes, c.quiet ∨ ∃ t, c = .holdDeadlineAt t) (r : Session) :
    ∃ hold, ({ r with holdDeadlineAt := hold } : Session).Alike (update r) := by
  induction changes generalizing update r with
  | nil =>
    obtain rfl := Except.ok.inj h
    exact ⟨r.holdDeadlineAt, .refl r⟩
  | cons c changes ih =>
    obtain ⟨f, hf, h⟩ := bind_eq_ok.mp h
    obtain ⟨g, hg, h⟩ := bind_eq_ok.mp h
    obtain rfl := pure_eq_ok.mp h
    obtain ⟨hold, hrest⟩ := ih hg (fun c hc => hq c (List.mem_cons_of_mem _ hc)) (f r)
    rcases hq c List.mem_cons_self with hc | ⟨t, rfl⟩
    · have hone : updateOf context [c] = .ok f := by rw [updateOf, hf]; rfl
      have hfirst := updateOf_quiet hone (by simpa using hc) r
      exact ⟨hold, hrest.1.trans hfirst.1, hrest.2.trans hfirst.2, hrest.3.trans hfirst.3, hrest.4.trans hfirst.4, hrest.5⟩
    · obtain rfl := Except.ok.inj hf
      exact ⟨hold, hrest⟩

end

/-! ### The committed records -/

namespace SessionStore
open Session
variable {r : Session}

theorem newSession_upkept (sid user : String) (env : Environment) (mode : EgressMode) (now : Timestamp) :
    (newSession sid user env mode now).Upkept :=
  upkept_of_cleared rfl rfl rfl fun _ _ => rfl

theorem foldl_alike {f : Session → String → Session} (hf : ∀ (r : Session) (e : String), r.Alike (f r e))
    (types : List String) (r : Session) : r.Alike (types.foldl f r) := by
  induction types generalizing r with
  | nil => exact .refl r
  | cons e types ih => exact (hf r e).trans (ih (f r e))

theorem appendEventLocked_alike (r : Session) (type : String) (reason : Option String) (payload : Json) (origin : String)
    (now : Timestamp) : r.Alike (r.appendEventLocked type reason payload origin now) :=
  ⟨rfl, rfl, rfl, rfl, rfl⟩

theorem audited_alike (event : Option EventDraft) (now : Timestamp) : r.Alike (audited r event now) := by
  cases event <;> exact ⟨rfl, rfl, rfl, rfl, rfl⟩

theorem relay_alike (o : RelayClientObservation) (node : String) (types : List String) (observedAt now : Timestamp) :
    r.Alike (o.record r node types observedAt now) := by
  have h := foldl_alike (fun r eventType => appendEventLocked_alike r eventType o.reasonCode (o.payload node)
    "node-agent" now) types r
  exact ⟨h.1, h.2, h.3, h.4, h.5⟩

theorem claimed_upkept (hu : r.Upkept) (hst : r.status = stopped) (op : Uuid) (t now : Timestamp) :
    (claimed r op t now).Upkept := by
  obtain ⟨hsince, hsource⟩ := hu.candidate (by simp [hst])
  exact upkept_of_cleared hsince hsource rfl fun _ _ => hu.hold (by simp [hst, Status.phase]) (by simp [hst])

/-- The owner's move to the next state. -/
theorem advanced_upkept (hu : r.Upkept) {next : Status} (hr : r.status.phase ≤ 2) (hnext : 2 ≤ next.phase)
    (hnext' : next.phase ≤ 3) (hn : next ≠ holding) :
    ({ r with status := next }.clearRecoveryCandidate : Session).Upkept := by
  refine upkept_of_cleared rfl rfl ?_ fun _ _ => hu.hold (by omega) fun h => by simp [h, Status.phase] at hr
  simp only [clearRecoveryCandidate, hu.pending]
  revert hr hnext hnext'
  cases r.status <;> cases next <;> decide

theorem stopRequested_upkept (r : Session) (now : Timestamp) : (stopRequested r now).Upkept :=
  upkept_of_cleared rfl rfl rfl fun h => absurd h (by simp [stopRequested, clearRecoveryCandidate, Status.phase])

theorem transitioned_upkept {context : String} {changes : List Change} {update : Session → Session}
    (hupdate : updateOf context changes = .ok update) {new : Status}
    (hs : Settles (decide (new ∈ cleanupStates)) changes) (hnew : 4 ≤ new.phase) (r : Session) (now : Timestamp) :
    (transitioned r update new now).Upkept := by
  have h := (updateOf_settles hupdate hs r).pending
  unfold transitioned
  split <;> exact upkept_of_cleared rfl rfl h fun h3 => absurd h3 (by show ¬new.phase ≤ 3; omega)

theorem heard_upkept (hu : r.Upkept) (observed : Timestamp) (ready : Bool) : (heard r observed ready).Upkept := by
  unfold heard
  dsimp only
  split
  · rename_i hr
    simp only [Bool.and_eq_true, decide_eq_true_eq] at hr
    obtain ⟨hsince, hsource⟩ := hu.candidate (by simp [hr.2])
    refine upkept_of_cleared hsince hsource ?_ fun _ _ => hu.hold (by simp [hr.2, Status.phase]) (by simp [hr.2])
    exact hu.pending.trans (by rw [hr.2]; rfl)
  · exact ⟨hu.pending, hu.since, hu.source, hu.hold⟩

/-! ### Ingest observations -/

namespace IngestObservation
variable {o : IngestObservation}

/-- The moves that an observation asks for are in the transition table. -/
theorem target_table {state next : Status} {event : String} {reason : Option String}
    (h : o.target state = some (next, event, reason)) :
    next ∈ transitions state ∨ next = state := by
  unfold target at h
  cases state <;> simp at h <;> repeat' split at h
  all_goals first
    | (obtain ⟨rfl, -⟩ := Prod.mk.inj (Option.some.inj h); decide)
    | cases h

theorem recoveryTarget_table {target : Status} {reason : Option String} (h : o.recoveryTarget = some (target, reason)) :
    target ∈ transitions holding ∧ o.online = true := by
  unfold recoveryTarget at h
  simp only at h
  split at h
  · obtain ⟨rfl, -⟩ := Prod.mk.inj (Option.some.inj h)
    simp_all [transitions]
  · split at h
    · obtain ⟨rfl, -⟩ := Prod.mk.inj (Option.some.inj h)
      simp_all [transitions]
    · cases h

/-- A move away from HOLDING that ingest allows clears the deadline of the hold. -/
theorem stamp_upkept {r : Session} {target : Status} {current : Timestamp}
    (hsince : r.recoveryCandidateSince = none) (hsource : r.recoveryCandidateSourceId = none)
    (hpending : r.cleanupPending = false) (hstatus : r.status = target) (htarget : target.phase = 3)
    (hhold : target ≠ holding → o.online = true ∨ r.holdDeadlineAt = none) : (o.stamp r target current).Upkept := by
  have hp : false = Decidable.decide (target ∈ cleanupStates) := by
    revert htarget
    cases target <;> decide
  unfold stamp
  split
  · exact upkept_of_cleared hsince hsource (hpending.trans (hp.trans (by rw [hstatus]))) fun _ h =>
      absurd (hstatus.trans ‹_›) h
  · rename_i hn
    split
    · exact upkept_of_cleared hsince hsource (hpending.trans (hp.trans (by rw [hstatus]))) fun _ _ => rfl
    · exact upkept_of_cleared hsince hsource (hpending.trans (hp.trans (by rw [hstatus]))) fun _ _ =>
        (hhold hn).resolve_left ‹_›

theorem stamp_status (r : Session) (target : Status) (current : Timestamp) : (o.stamp r target current).status = r.status :=
  (stamp_same r target current).status

/-- What the decision leaves of the record: in HOLDING it may watch a recovery, and otherwise nothing changes. -/
theorem decide_upkept {r : Session} (hu : r.Upkept) (stable current : Timestamp) :
    (o.decide r stable current).2.Upkept := by
  unfold decide
  split
  · rename_i hh
    split
    · exact upkept_of_cleared rfl rfl hu.pending fun _ h => absurd hh h
    · dsimp only
      unfold Session.recoveryCandidateReady
      split
      · split
        · exact ⟨hu.pending, fun _ => hh, fun _ => hh, hu.hold⟩
        · exact hu
      · exact ⟨hu.pending, fun _ => hh, fun _ => hh, hu.hold⟩
  · exact hu

/-- A move that the decision asks for is in the table, and out of HOLDING only while there is ingest. -/
theorem decide_table {r : Session} {stable current : Timestamp} {target : Status} {event : String}
    {reason : Option String} (h : (o.decide r stable current).1 = some (target, event, reason)) (hne : target ≠ r.status) :
    target ∈ transitions r.status ∧ (r.status = holding → o.online = true) := by
  unfold decide at h
  split at h
  · rename_i hh
    split at h
    · cases h
    · rename_i t reason ht
      dsimp only at h
      split at h
      · obtain ⟨rfl, -⟩ := Prod.mk.inj (Option.some.inj h)
        obtain ⟨htable, honline⟩ := recoveryTarget_table ht
        exact ⟨hh ▸ htable, fun _ => honline⟩
      · cases h
  · rename_i hh
    exact ⟨(target_table h).resolve_right hne, fun he => absurd he hh⟩

/-- An observation moves a record along the table. -/
theorem advance_table (r : Session) (node : String) (stable current : Timestamp) :
    (o.advance r node stable current).status = r.status ∨ (o.advance r node stable current).status ∈ transitions r.status := by
  obtain ⟨hsame, -⟩ := decide_spec (o := o) r stable current
  unfold advance
  dsimp only
  split
  · rename_i target event reason hd
    split
    · rename_i hne
      refine Or.inr ?_
      show (o.stamp _ target current).status ∈ transitions r.status
      rw [stamp_status]
      exact (decide_table hd hne).1
    · split <;> exact Or.inl hsame.status
  · split <;> exact Or.inl hsame.status

/-- An observation keeps a record upkept. -/
theorem advance_upkept {r : Session} (hu : r.Upkept) (node : String) (stable current : Timestamp) :
    (o.advance r node stable current).Upkept := by
  obtain ⟨hsame, hmove⟩ := decide_spec (o := o) r stable current
  have hkept := decide_upkept (o := o) hu stable current
  have hcleared : (o.decide r stable current).2.clearRecoveryCandidate.Upkept :=
    upkept_of_cleared rfl rfl hkept.pending hkept.hold
  unfold advance
  dsimp only
  split
  · rename_i target event reason hd
    obtain ⟨h3, ht⟩ := hmove _ _ _ hd
    split
    · rename_i hne
      refine Alike.upkept (r := o.stamp _ target current) ⟨rfl, rfl, rfl, rfl, rfl⟩
        (stamp_upkept rfl rfl ?_ rfl ht fun _ => ?_)
      · refine hkept.pending.trans ?_
        rw [hsame.status]
        revert h3
        cases r.status <;> decide
      · by_cases hh : r.status = holding
        · exact Or.inl ((decide_table hd hne).2 hh)
        · exact Or.inr (hkept.hold (by rw [hsame.status, h3]) (by rw [hsame.status]; exact hh))
    · split
      · exact hcleared
      · exact hkept
  · split
    · exact hcleared
    · exact hkept

theorem appendEvents_alike (r : Session) (node : String) (types : List String) (current : Timestamp) :
    r.Alike (o.appendEvents r node types current) :=
  foldl_alike (fun r _ => appendEventLocked_alike r _ _ _ _ _) types r

end IngestObservation
end SessionStore
end IRLight
