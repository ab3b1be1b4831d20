import IRLight.ControlPlane.Writes
import IRLight.Session.Upkeep

/-! # Recovery from HOLDING

A Session leaves HOLDING for a source that has been stable for long enough. Its record keeps the recovery that
is being watched, the candidate, and every observation keeps it, starts it anew or drops it. `Steady` says the
same of the observations themselves. -/

namespace IRLight
open Status SessionStore

/-- An observation that the store applied to a Session, when it did, and the status that it found. -/
structure Sighting where
  observation : IngestObservation
  time : Timestamp
  found : Status

/-- The observation shows a source that the Session may recover to. -/
def SessionStore.IngestObservation.recoverable (o : IngestObservation) : Bool := o.recoveryTarget.isSome

/-- The Session in HOLDING was seen with a recoverable ingest from the source, at `since` or later. -/
structure Sighting.Shows (x : Sighting) (source : Option String) (since : Timestamp) : Prop where
  found : x.found = holding
  recoverable : x.observation.recoverable
  source : x.observation.sourceId = source
  time : since ≤ x.time

/-- The latest observations, from one at `since` on, all show the source. -/
def Steady (history : List Sighting) (source : Option String) (since : Timestamp) : Prop :=
  ∃ earlier first later, history = earlier ++ first :: later ∧ first.time = since ∧
    ∀ x ∈ first :: later, x.Shows source since

/-- The candidate of the record is a recovery that the observations bear out. -/
def Watched (history : List Sighting) (r : Session) : Prop :=
  ∀ since, r.recoveryCandidateSince = some since → r.status = holding ∧ Steady history r.recoveryCandidateSourceId since

/-- The record of the Session, when there is one, watches no recovery yet. -/
def SessionStore.Unwatched (s : SessionStore) (sid : String) : Prop :=
  ∀ r, s.session? sid = some r → r.recoveryCandidateSince = none

/-- The call applies an observation to the Session. -/
def StoreOp.observes (sid : String) : StoreOp → Bool
  | applyIngestObservation sid' _ _ _ _ => sid' = sid
  | _ => false

/-- The calls of a run that begins in `s₀` have applied these observations to the Session, in this order. Other
    calls of the store come in between, in any order. -/
inductive Observed (sid : String) (s₀ : SessionStore) : List Sighting → SessionStore → Prop
  | start : Observed sid s₀ [] s₀
  | observe {history : List Sighting} {s s' : SessionStore} {r a : Session} {node : String} {types : List String}
      {o : IngestObservation} {t : Timestamp} (run : Observed sid s₀ history s) (found : s.session? sid = some r)
      (apply : s.applyIngestObservation sid node types o t = .ok (a, s')) :
      Observed sid s₀ (history ++ [⟨o, t, r.status⟩]) s'
  | other {history : List Sighting} {s s' : SessionStore} {op : StoreOp} {clock : ℕ → PyFloat} {fresh : Uuid}
      {a : op.Res} (run : Observed sid s₀ history s) (other : op.observes sid = false)
      (call : op.run clock fresh s = .ok (a, s')) : Observed sid s₀ history s'

/-! ### Steady sources -/

section
variable {history : List Sighting} {source : Option String} {since : Timestamp} {x : Sighting}

theorem Steady.start (hx : x.Shows x.observation.sourceId x.time) :
    Steady (history ++ [x]) x.observation.sourceId x.time := by
  refine ⟨history, x, [], rfl, rfl, fun y hy => ?_⟩
  rw [List.mem_singleton] at hy
  rw [hy]
  exact hx

theorem Steady.extend (h : Steady history source since) (hx : x.Shows source since) :
    Steady (history ++ [x]) source since := by
  obtain ⟨earlier, first, later, rfl, hfirst, hall⟩ := h
  refine ⟨earlier, first, later ++ [x], by simp, hfirst, fun y hy => ?_⟩
  rw [← List.cons_append, List.mem_append, List.mem_singleton] at hy
  rcases hy with hy | rfl
  · exact hall y hy
  · exact hx

end

/-! ### What an observation does -/

section
variable {history : List Sighting} {r : Session} {o : IngestObservation} {stable current : Timestamp}

variable (stable current) in
/-- The candidate that an observation keeps or starts is borne out by the observations up to it, and the recovery
    is ready once it has been stable. -/
theorem Watched.ready (h : Watched history r) (hrec : o.recoverable) :
    let x : Sighting := ⟨o, current, holding⟩
    ∃ since, (r.recoveryCandidateReady stable o.sourceId current).2.recoveryCandidateSince = some since ∧
      (r.recoveryCandidateReady stable o.sourceId current).2.recoveryCandidateSourceId = o.sourceId ∧
      Steady (history ++ [x]) o.sourceId since ∧ since ≤ current ∧
      ((r.recoveryCandidateReady stable o.sourceId current).1 = true ↔ (stable : ℚ) ≤ current - since) := by
  intro x
  have hfresh : Steady (history ++ [x]) o.sourceId current := Steady.start ⟨rfl, hrec, rfl, le_rfl⟩
  have hzero : (decide (stable ≤ 0) = true ↔ (stable : ℚ) ≤ current - current) := by
    rw [decide_eq_true_eq, sub_self, ← NNRat.coe_zero, NNRat.coe_le_coe]
  unfold Session.recoveryCandidateReady
  split
  · rename_i since hsince
    split
    · exact ⟨current, rfl, rfl, hfresh, le_rfl, hzero⟩
    · rename_i hkeep
      simp only [ne_eq, Bool.or_eq_true, decide_eq_true_eq, not_or, not_not, not_lt] at hkeep
      obtain ⟨_, hsteady⟩ := h since hsince
      rw [hkeep.1] at hsteady
      exact ⟨since, hsince, hkeep.1, hsteady.extend ⟨rfl, hrec, rfl, hkeep.2⟩, hkeep.2, decide_eq_true_iff⟩
  · exact ⟨current, rfl, rfl, hfresh, le_rfl, hzero⟩

/-- A recovery leads to LIVE or DEGRADED. -/
theorem recoveryTarget_away {target : Status} {reason : Option String} (h : o.recoveryTarget = some (target, reason)) :
    target = live ∨ target = degraded := by
  obtain ⟨htable, _⟩ := IngestObservation.recoveryTarget_table h
  have hrunning := IngestObservation.recoveryTarget_running h
  revert htable hrunning
  cases target <;> decide

theorem stamp_since (r : Session) (target : Status) (current : Timestamp) :
    (o.stamp r target current).recoveryCandidateSince = r.recoveryCandidateSince := by
  unfold IngestObservation.stamp
  split
  · rfl
  · split <;> rfl

variable (o stable current) in
/-- An observation outside HOLDING leaves no candidate. -/
theorem advance_outside (hh : r.status ≠ holding) (node : String) :
    (o.advance r node stable current).recoveryCandidateSince = none := by
  have hdecide : o.decide r stable current = (o.target r.status, r) := by
    rw [IngestObservation.decide, if_neg hh]
  unfold IngestObservation.advance
  rw [hdecide]
  dsimp only
  split
  · split
    · exact stamp_since _ _ _
    · rfl
  · rw [if_pos hh]
    rfl

theorem advance_unrecoverable (hh : r.status = holding) (hrec : o.recoveryTarget = none) (node : String) :
    o.advance r node stable current = r.clearRecoveryCandidate := by
  simp [IngestObservation.advance, IngestObservation.decide, hh, hrec]

theorem advance_waiting {target : Status} {reason : Option String} (hh : r.status = holding)
    (hrec : o.recoveryTarget = some (target, reason))
    (hready : (r.recoveryCandidateReady stable o.sourceId current).1 = false) (node : String) :
    o.advance r node stable current = (r.recoveryCandidateReady stable o.sourceId current).2 := by
  simp [IngestObservation.advance, IngestObservation.decide, hh, hrec, hready]

theorem advance_recovered {target : Status} {reason : Option String} (hh : r.status = holding)
    (hrec : o.recoveryTarget = some (target, reason))
    (hready : (r.recoveryCandidateReady stable o.sourceId current).1 = true) (node : String) :
    (o.advance r node stable current).status = target ∧
      (o.advance r node stable current).recoveryCandidateSince = none := by
  have hne : target ≠ holding := by rcases recoveryTarget_away hrec with rfl | rfl <;> decide
  have hadv : o.advance r node stable current = (o.stamp
      { (r.recoveryCandidateReady stable o.sourceId current).2 with status := target }.clearRecoveryCandidate target
        current).appendEventLocked "session.recovered" reason
      (.obj (o.payload node ++ [("from_state", .str holding.str), ("to_state", .str target.str)])) "node-agent" current := by
    simp [IngestObservation.advance, IngestObservation.decide, hh, hrec, hready, hne]
  rw [hadv]
  exact ⟨IngestObservation.stamp_status _ _ _, stamp_since _ _ _⟩

variable (o stable current) in
/-- What an observation makes of a record in HOLDING. -/
theorem Watched.advance (h : Watched history r) (hh : r.status = holding) (node : String) :
    let x : Sighting := ⟨o, current, holding⟩
    let r' := o.advance r node stable current
    Watched (history ++ [x]) r' ∧
      (r'.status ≠ holding → ∃ since, Steady (history ++ [x]) o.sourceId since ∧ (stable : ℚ) ≤ current - since) ∧
      (stable = 0 → o.recoverable → r'.status = live ∨ r'.status = degraded) := by
  intro x r'
  cases hrec : o.recoveryTarget with
  | none =>
    have hr' : r' = r.clearRecoveryCandidate := advance_unrecoverable hh hrec node
    rw [hr']
    refine ⟨fun since hs => (Option.some_ne_none since hs.symm).elim, fun hne => absurd hh hne, fun _ ho => ?_⟩
    rw [IngestObservation.recoverable, hrec] at ho
    cases ho
  | some move =>
    obtain ⟨target, reason⟩ := move
    have ho : o.recoverable := by rw [IngestObservation.recoverable, hrec]; rfl
    obtain ⟨since, hsince, hsource, hsteady, hle, hready⟩ := h.ready stable current ho
    cases hr : (r.recoveryCandidateReady stable o.sourceId current).1 with
    | false =>
      have hr' : r' = (r.recoveryCandidateReady stable o.sourceId current).2 := advance_waiting hh hrec hr node
      have hst : r'.status = holding := by
        rw [hr', (IngestObservation.recoveryCandidateReady_same r _ _ _).status, hh]
      refine ⟨fun since' hs' => ⟨hst, ?_⟩, fun hne => absurd hst hne, fun hzero _ => ?_⟩
      · rw [hr'] at hs' ⊢
        rw [hsource]
        obtain rfl := Option.some.inj (hsince.symm.trans hs')
        exact hsteady
      · -- without a stable period the recovery would have been ready
        have hnow : (r.recoveryCandidateReady stable o.sourceId current).1 = true := by
          rw [hready, hzero, NNRat.coe_zero, sub_nonneg, NNRat.coe_le_coe]
          exact hle
        rw [hr] at hnow
        cases hnow
    | true =>
      obtain ⟨hst, hnone⟩ := advance_recovered hh hrec hr node
      refine ⟨fun since' hs' => ?_, fun _ => ⟨since, hsteady, hready.mp hr⟩, fun _ _ => ?_⟩
      · rw [hnone] at hs'
        cases hs'
      · rw [hst]
        exact recoveryTarget_away hrec

end

/-! ### What the other calls do -/

/-- The fields that the watch is about. -/
def Session.watch (r : Session) : Status × Option Timestamp × Option String :=
  (r.status, r.recoveryCandidateSince, r.recoveryCandidateSourceId)

section
variable {history : List Sighting} {r r' : Session} {x : Sighting}

theorem Watched.congr (h : Watched history r) (he : r'.watch = r.watch) : Watched history r' := by
  obtain ⟨hst, he⟩ := Prod.mk.inj he
  obtain ⟨hsince, hsource⟩ := Prod.mk.inj he
  intro since hs
  rw [hst, hsource]
  exact h since (hsince ▸ hs)

theorem watched_of_none (h : r.recoveryCandidateSince = none) : Watched history r := by
  intro since hs
  rw [h] at hs
  cases hs

theorem Watched.none (h : Watched history r) (hst : r.status ≠ holding) : r.recoveryCandidateSince = none := by
  cases hs : r.recoveryCandidateSince with
  | none => rfl
  | some since => exact absurd (h since hs).1 hst

theorem updateOf_watch {context : String} {changes : List Change} {update : Session → Session}
    (h : updateOf context changes = .ok update) (r : Session) : (update r).watch = r.watch := by
  refine updateOf_keeps (fun c _ g hg r => ?_) h r
  cases c with
  | readyAt v =>
    obtain ⟨t, _, hg⟩ := bind_eq_ok.mp hg
    obtain rfl := pure_eq_ok.mp hg
    rfl
  | _ =>
    obtain rfl := Except.ok.inj hg
    rfl

theorem Session.Alike.watch (h : r.Alike r') : r'.watch = r.watch := by
  rw [Session.watch, h.status, h.since, h.source]
  rfl

/-- The owner's checkpoint drops the candidate when it moves the Session. -/
theorem Watched.advanced {next : Option Status} (h : Watched history r) (hadv : advanced r next = .ok r') :
    Watched history r' := by
  cases next with
  | none =>
    obtain rfl := Except.ok.inj hadv
    exact h
  | some next =>
    obtain ⟨_, _, hadv⟩ := bind_eq_ok.mp hadv
    obtain rfl := pure_eq_ok.mp hadv
    exact watched_of_none rfl

theorem Watched.heard (h : Watched history r) (observed : Timestamp) (ready : Bool) :
    Watched history (heard r observed ready) := by
  unfold SessionStore.heard
  dsimp only
  split
  · rename_i hready
    simp only [Bool.and_eq_true, decide_eq_true_eq] at hready
    exact watched_of_none (h.none (by rw [hready.2]; decide))
  · exact h

/-- A call that applies no observation to the Session keeps its candidate or drops it. -/
theorem StoreOp.Rewrites.watched {o : StoreOp} {stable : Timestamp} {sid : String} (hw : o.Rewrites stable sid r r')
    (ho : o.observes sid = false) (h : Watched history r) : Watched history r' := by
  cases hw with
  | reserve => exact h.congr rfl
  | begin => exact h.congr rfl
  | claim hst =>
    have hne : r.status ≠ holding := fun he => by
      rw [he] at hst
      exact absurd hst (by decide)
    exact watched_of_none (h.none hne)
  | cancelled hu => exact h.congr (updateOf_watch hu r)
  | @checkpoint _ _ complete _ _ _ _ _ hu hadv =>
    have hkept := (h.congr (updateOf_watch hu r)).advanced hadv
    cases complete <;> exact hkept.congr rfl
  | stop => exact watched_of_none rfl
  | stopIfCurrent => exact watched_of_none rfl
  | transition =>
    refine watched_of_none ?_
    unfold transitioned
    split <;> rfl
  | transitionIfCurrent =>
    refine watched_of_none ?_
    unfold transitioned
    split <;> rfl
  | update hu => exact h.congr (updateOf_watch hu r)
  | updateIfCurrent _ _ hu => exact (h.congr (updateOf_watch hu r)).congr (audited_alike _ _).watch
  | append => exact h.congr rfl
  | command => exact h.congr rfl
  | bind => exact h.congr rfl
  | hear => exact h.heard _ _
  | ingest => simp [observes] at ho
  | relay => exact h.congr (relay_alike ..).watch

theorem StoreOp.Makes.watched {o : StoreOp} {sid : String} (hm : o.Makes sid r') : Watched history r' := by
  cases hm <;> exact watched_of_none rfl

end

/-! ### Runs -/

section
variable {sid : String} {s₀ s s' : SessionStore} {history : List Sighting} {r r' a : Session} {node : String}
  {types : List String} {o : IngestObservation} {t : Timestamp}

theorem Observed.stable (h : Observed sid s₀ history s) : s.recoveryStableSeconds = s₀.recoveryStableSeconds := by
  induction h with
  | start => rfl
  | observe _ _ apply ih =>
    have hw := StoreOp.writes (o := .applyIngestObservation sid _ _ _ _) (fun _ => .nan) ⟨0, 0⟩ apply
    exact hw.recoveryStableSeconds.trans ih
  | other _ _ call ih => exact (StoreOp.writes _ _ call).recoveryStableSeconds.trans ih

/-- What an observation that the store applied to the Session did to its record. -/
theorem observed_record (happly : s.applyIngestObservation sid node types o t = .ok (a, s')) (hr : s.session? sid = some r)
    (hr' : s'.session? sid = some r') :
    (r.status ∉ activeStates ∧ r' = r) ∨ r.status ∈ activeStates ∧ ∃ r₁ : Session, r₁.watch = r.watch ∧
      r'.watch = (o.advance r₁ node s.recoveryStableSeconds t).watch := by
  obtain ⟨r₀, hr₀, ⟨hst, rfl⟩ | ⟨hst, rfl⟩⟩ := effect_applyIngestObservation happly
  · obtain rfl := Option.some.inj (hr.symm.trans hr₀)
    exact Or.inl ⟨hst, Option.some.inj (hr'.symm.trans hr)⟩
  · obtain rfl := Option.some.inj (hr.symm.trans hr₀)
    rw [session?_put_self] at hr'
    obtain rfl := Option.some.inj hr'
    exact Or.inr ⟨hst, o.appendEvents r node types t, (IngestObservation.appendEvents_alike ..).watch, rfl⟩

theorem Watched.observed (h : Watched history r) (happly : s.applyIngestObservation sid node types o t = .ok (a, s'))
    (hr : s.session? sid = some r) (hr' : s'.session? sid = some r') :
    Watched (history ++ [⟨o, t, r.status⟩]) r' := by
  rcases observed_record happly hr hr' with ⟨hst, rfl⟩ | ⟨hst, r₁, he, he'⟩
  · exact watched_of_none (h.none fun hh => hst (by rw [hh]; decide))
  · have hst₁ : r₁.status = r.status := (Prod.mk.inj he).1
    by_cases hh : r.status = holding
    · have hadv := (h.congr he).advance o s.recoveryStableSeconds t (hst₁.trans hh) node
      rw [hh]
      exact hadv.1.congr he'
    · have hnone := advance_outside o s.recoveryStableSeconds t (fun h₁ => hh (hst₁.symm.trans h₁)) node
      exact watched_of_none ((Prod.mk.inj (Prod.mk.inj he').2).1.trans hnone)

/-- The candidate of a Session is always borne out by the observations that were applied to it. -/
theorem Observed.watched (h : Observed sid s₀ history s) (h₀ : s₀.Unwatched sid) (hr : s.session? sid = some r) :
    Watched history r := by
  induction h generalizing r with
  | start => exact watched_of_none (h₀ r hr)
  | observe run found apply ih => exact (ih found).observed apply found hr
  | other run other call ih =>
    rcases (StoreOp.writes _ _ call).record hr with hold | ⟨_, hm⟩ | ⟨r₀, hr₀, hw⟩
    · exact ih hold
    · exact hm.watched
    · exact hw.watched other (ih hr₀)

/-- **A Session leaves HOLDING for a stable source only**: whatever observations and other calls came before, an
    observation at `t` moves the Session out of HOLDING only if the latest observations, from one at `since` on
    with `t - since` no shorter than the stable period, all found the Session in HOLDING, were recoverable, came
    from the source of this one and were observed no earlier than `since`. Without a stable period the first
    recoverable observation moves the Session. -/
theorem hold_recovery (h₀ : s₀.Unwatched sid) (hrun : Observed sid s₀ history s) (hr : s.session? sid = some r)
    (hh : r.status = holding) (happly : s.applyIngestObservation sid node types o t = .ok (a, s'))
    (hr' : s'.session? sid = some r') :
    (r'.status = live ∨ r'.status = degraded → ∃ since, Steady (history ++ [⟨o, t, holding⟩]) o.sourceId since ∧
        (s₀.recoveryStableSeconds : ℚ) ≤ t - since) ∧
      (s₀.recoveryStableSeconds = 0 → o.recoverable → r'.status = live ∨ r'.status = degraded) := by
  rcases observed_record happly hr hr' with ⟨hst, _⟩ | ⟨_, r₁, he, he'⟩
  · exact absurd (by rw [hh]; decide) hst
  · have hh₁ : r₁.status = holding := (Prod.mk.inj he).1.trans hh
    have hst' := (Prod.mk.inj he').1
    have hwatched : Watched history r₁ := (hrun.watched h₀ hr).congr he
    obtain ⟨_, hleaves, hzero⟩ :=
      hwatched.advance o s.recoveryStableSeconds t hh₁ node
    rw [← hrun.stable, hst']
    refine ⟨fun hleft => hleaves fun hstays => ?_, hzero⟩
    rw [hstays] at hleft
    rcases hleft with hleft | hleft <;> cases hleft

end

/-! A Session in HOLDING, with a stable period of five seconds, and its encoder back at 10. -/

namespace HoldSample

def store : SessionStore where
  sessions := (∅ : AList fun _ : String => Session).insert "s"
    { newSession "s" "u" .dev .directPush 0 with status := holding, nodeId := some "n" }
  orphanCleanupLeases := ∅
  authoritative := true
  recoveryStableSeconds := (5 : ℕ)

def accepted : IngestObservation where
  status := "ACCEPTED"
  path := "live/s"
  online := true
  sourceType := none
  sourceId := some "encoder"
  bitrateBps := none
  maxBitrateBps := none
  tracks := .arr []
  quality := .null
  reasons := []
  warnings := []
  enforced := true
  observedAt := .finite 10

def next (s : SessionStore) (t : Timestamp) : SessionStore :=
  s.after (s.applyIngestObservation "s" "n" [] accepted t)

theorem unwatched : store.Unwatched "s" := by
  intro r hr
  have hnone : (store.session? "s").all fun r => r.recoveryCandidateSince = none := by decide +kernel
  rw [hr] at hnone
  exact of_decide_eq_true hnone

end HoldSample

open HoldSample in
theorem hold_recovery_sample : ∃ since,
    Steady ([⟨accepted, 10, holding⟩] ++ [⟨accepted, 15, holding⟩]) (some "encoder") since ∧ (5 : ℚ) ≤ 15 - since := by
  obtain ⟨a, happly⟩ : ∃ a, store.applyIngestObservation "s" "n" [] accepted 10 = .ok (a, next store 10) :=
    SessionStore.after_eq (by decide +kernel)
  obtain ⟨b, hthen⟩ : ∃ b, (next store 10).applyIngestObservation "s" "n" [] accepted 15 = .ok (b, next (next store 10) 15) :=
    SessionStore.after_eq (by decide +kernel)
  obtain ⟨r₀, hr₀, hst₀⟩ : ∃ r, store.session? "s" = some r ∧ decide (r.status = holding) = true :=
    (Option.any_eq_true _ _).mp (by decide +kernel)
  obtain ⟨r, hr, hst⟩ : ∃ r, (next store 10).session? "s" = some r ∧ decide (r.status = holding) = true :=
    (Option.any_eq_true _ _).mp (by decide +kernel)
  obtain ⟨r', hr', hst'⟩ : ∃ r, (next (next store 10) 15).session? "s" = some r ∧ decide (r.status = live) = true :=
    (Option.any_eq_true _ _).mp (by decide +kernel)
  have hrun : Observed "s" store ([] ++ [⟨accepted, 10, r₀.status⟩]) (next store 10) := .observe .start hr₀ happly
  rw [of_decide_eq_true hst₀] at hrun
  obtain ⟨since, hsteady, hlong⟩ :=
    (hold_recovery unwatched hrun hr (of_decide_eq_true hst) hthen hr').1 (Or.inl (of_decide_eq_true hst'))
  exact ⟨since, hsteady, hlong⟩

end IRLight
