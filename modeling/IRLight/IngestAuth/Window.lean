import IRLight.IngestAuth.Guard
import Mathlib.Algebra.Order.Ring.NNRat

/-! # Failure windows

The bucket of a scope against a ledger of what happened to it since its last success: the failures, the ends of the
locks, and the last mark of a blocked attempt. The bucket holds exactly the failures that count. -/

namespace IRLight.IngestAuth

/-- What happened to a scope since its last success. -/
structure KeyLedger where
  failures : List Timestamp
  locks : List Timestamp
  mark : Option Timestamp

def KeyLedger.empty : KeyLedger := ⟨[], [], none⟩

/-- The failures that count at `now`: those within the trailing window that no unlock has come after. -/
def KeyLedger.counted (config : GuardConfig) (L : KeyLedger) (now : Timestamp) : List Timestamp :=
  L.failures.filter fun t => now ≤ t + config.failureWindowSeconds ∧ ∀ till ∈ L.locks, till ≤ now → till ≤ t

section
variable (config : GuardConfig) (now : Timestamp)

/-- The test of `_prune_bucket`. -/
def inWindow (t : Timestamp) : Bool := now ≤ t + config.failureWindowSeconds ∧ t ≤ now + 1

/-- What a compaction that drops nothing for room leaves of a bucket. -/
def compacted (o : Option Bucket) : Option Bucket :=
  (o.map (pruneBucket config now)).filter fun b => b.failures ≠ [] || b.lockedUntil ≠ 0

/-- What a failure makes of a bucket. -/
def failedBucket (limit : ℕ) (o : Option Bucket) : Bucket :=
  let bucket := pruneBucket config now (o.getD ⟨[], 0, now, none⟩)
  let bucket := { bucket with failures := bucket.failures ++ [now], lastSeenAt := now }
  if ¬now < bucket.lockedUntil ∧ limit ≤ bucket.failures.length then
    { bucket with lockedUntil := now + config.lockoutSeconds }
  else bucket

end

def failuresOf (o : Option Bucket) : List Timestamp := o.elim [] (·.failures)

/-- The bucket of a scope shows the ledger of the scope. All of it happened by the time `last`. -/
inductive Tracks (config : GuardConfig) (last : Timestamp) (L : KeyLedger) (o : Option Bucket) : Prop
  | free (unlocked : ∀ b ∈ o, b.lockedUntil = 0) (unmarked : ∀ b ∈ o, b.lastBlockedEventAt = none)
      (past : ∀ t ∈ failuresOf o, t ≤ last) (failed : ∀ t ∈ L.failures, t ≤ last)
      (counted : ∀ now, last ≤ now → (failuresOf o).filter (inWindow config now) = L.counted config now)
      (ended : ∀ till ∈ L.locks, till ≤ last)
  | locked {b : Bucket} (found : o = some b) (mem : b.lockedUntil ∈ L.locks) (positive : 0 < b.lockedUntil)
      (last_lock : ∀ till ∈ L.locks, till ≤ b.lockedUntil) (failed : ∀ t ∈ L.failures, t < b.lockedUntil)
      (mark : b.lastBlockedEventAt = L.mark)

section
variable {config : GuardConfig} {last now : Timestamp} {L : KeyLedger} {o : Option Bucket} {b : Bucket} {limit : ℕ}

theorem tracks_empty : Tracks config last .empty none := by
  refine .free ?_ ?_ ?_ ?_ (fun _ _ => rfl) ?_ <;> simp [failuresOf, KeyLedger.empty]

theorem Tracks.mono (h : Tracks config last L o) (hnow : last ≤ now) : Tracks config now L o := by
  cases h with
  | free unlocked unmarked past failed counted ended =>
    exact .free unlocked unmarked (fun t ht => (past t ht).trans hnow) (fun t ht => (failed t ht).trans hnow)
      (fun later hlater => counted later (hnow.trans hlater)) fun till ht => (ended till ht).trans hnow
  | locked found mem positive last_lock failed mark => exact .locked found mem positive last_lock failed mark

/-! ### Compaction -/

variable (config now) in
theorem pruneBucket_open (h : ¬(0 < b.lockedUntil ∧ b.lockedUntil ≤ now)) :
    pruneBucket config now b = { b with failures := b.failures.filter (inWindow config now) } := by
  rw [pruneBucket, if_neg h]
  rfl

theorem compacted_ended (h : 0 < b.lockedUntil ∧ b.lockedUntil ≤ now) : compacted config now (some b) = none := by
  simp [compacted, pruneBucket, h]

theorem compacted_locked (h : now < b.lockedUntil) :
    compacted config now (some b) = some { b with failures := b.failures.filter (inWindow config now) } := by
  have hopen : ¬(0 < b.lockedUntil ∧ b.lockedUntil ≤ now) := fun hended => absurd h (not_lt.mpr hended.2)
  have hne : b.lockedUntil ≠ 0 := (bot_le.trans_lt h).ne'
  rw [compacted, Option.map_some, pruneBucket_open config now hopen]
  simp [hne]

/-- A bucket without a lock keeps the failures in the window, and goes when there are none. -/
theorem compacted_unlocked (h : b.lockedUntil = 0) : compacted config now (some b) =
    if b.failures.filter (inWindow config now) = [] then none
    else some { b with failures := b.failures.filter (inWindow config now) } := by
  rw [compacted, Option.map_some, pruneBucket_open config now (by simp [h]), Option.filter_some]
  by_cases hnil : b.failures.filter (inWindow config now) = []
  · rw [if_pos hnil, if_neg (by simp [hnil, h])]
  · rw [if_neg hnil, if_pos (by simp [hnil])]

theorem failuresOf_compacted (h : ∀ b ∈ o, b.lockedUntil = 0) :
    failuresOf (compacted config now o) = (failuresOf o).filter (inWindow config now) := by
  cases o with
  | none => rfl
  | some b =>
    rw [compacted_unlocked (h b rfl)]
    split
    · rename_i hnil
      exact hnil.symm
    · rfl

theorem mem_compacted_unlocked (h : ∀ b ∈ o, b.lockedUntil = 0) (hb : b ∈ compacted config now o) :
    b.lockedUntil = 0 ∧ ∃ b₀ ∈ o, b.lastBlockedEventAt = b₀.lastBlockedEventAt := by
  cases o with
  | none => cases hb
  | some b₀ =>
    rw [compacted_unlocked (h b₀ rfl)] at hb
    split at hb
    · cases hb
    · obtain rfl := Option.some.inj hb
      exact ⟨h b₀ rfl, b₀, rfl, rfl⟩

/-- Of failures that have happened, those in a later window are in an earlier one. -/
theorem filter_inWindow {failures : List Timestamp} {later : Timestamp} (hpast : ∀ t ∈ failures, t ≤ now)
    (hlater : now ≤ later) :
    (failures.filter (inWindow config now)).filter (inWindow config later) = failures.filter (inWindow config later) := by
  rw [List.filter_filter]
  refine List.filter_congr fun t ht => ?_
  have hin : inWindow config later t → inWindow config now t := by
    intro h
    simp only [inWindow, decide_eq_true_eq] at h ⊢
    exact ⟨hlater.trans h.1, (hpast t ht).trans le_self_add⟩
  cases hwindow : inWindow config later t with
  | false => simp
  | true => simp [hin hwindow]

/-- Compaction keeps the bucket in step with the ledger, and leaves no lock that has ended. -/
theorem Tracks.compact (h : Tracks config last L o) (hnow : last ≤ now) :
    Tracks config now L (compacted config now o) ∧ ∀ b ∈ compacted config now o, b.lockedUntil = 0 ∨ now < b.lockedUntil := by
  cases h with
  | free unlocked unmarked past failed counted ended =>
    have hpast : ∀ t ∈ failuresOf o, t ≤ now := fun t ht => (past t ht).trans hnow
    refine ⟨.free (fun b hb => (mem_compacted_unlocked unlocked hb).1) (fun b hb => ?_) ?_
      (fun t ht => (failed t ht).trans hnow) ?_ (fun till ht => (ended till ht).trans hnow),
      fun b hb => Or.inl (mem_compacted_unlocked unlocked hb).1⟩
    · obtain ⟨_, b₀, hb₀, hmark⟩ := mem_compacted_unlocked unlocked hb
      rw [hmark]
      exact unmarked b₀ hb₀
    · rw [failuresOf_compacted unlocked]
      exact fun t ht => hpast t (List.mem_of_mem_filter ht)
    · intro later hlater
      rw [failuresOf_compacted unlocked, filter_inWindow hpast hlater]
      exact counted later (hnow.trans hlater)
  | @locked b found mem positive last_lock failed mark =>
    subst found
    by_cases hend : b.lockedUntil ≤ now
    · rw [compacted_ended ⟨positive, hend⟩]
      refine ⟨.free (by simp) (by simp) (by simp [failuresOf]) (fun t ht => ((failed t ht).trans_le hend).le) ?_
        fun till ht => (last_lock till ht).trans hend, by simp⟩
      -- every failure came before this lock ended
      intro later hlater
      refine (List.filter_eq_nil_iff.mpr fun t ht hcounts => ?_).symm
      rw [decide_eq_true_eq] at hcounts
      exact absurd (hcounts.2 _ mem (hend.trans hlater)) (not_le.mpr (failed t ht))
    · rw [compacted_locked (not_le.mp hend)]
      refine ⟨.locked rfl mem positive last_lock failed mark, fun b' hb' => ?_⟩
      obtain rfl := Option.some.inj hb'
      exact Or.inr (not_le.mp hend)

variable (config) in
/-- Compaction moves no lock that has not ended. -/
theorem compacted_any : (compacted config now o).any (now < ·.lockedUntil) = o.any (now < ·.lockedUntil) := by
  cases o with
  | none => rfl
  | some b =>
    by_cases hnow : now < b.lockedUntil
    · rw [compacted_locked hnow]
      rfl
    · have hsome : (some b).any (now < ·.lockedUntil) = false := by simpa using hnow
      rw [hsome, Bool.eq_false_iff]
      intro hany
      obtain ⟨b', hb', hlock⟩ := (Option.any_eq_true _ _).mp hany
      obtain ⟨hb', -⟩ := Option.filter_eq_some_iff.mp hb'
      obtain rfl := Option.some.inj hb'
      rw [decide_eq_true_eq, pruneBucket] at hlock
      split at hlock
      · exact not_lt_bot hlock
      · exact hnow hlock

/-! ### Failures, successes and marks -/

/-- The ledger with a failure, and with a lock if the failure has locked the scope. -/
def KeyLedger.fail (config : GuardConfig) (L : KeyLedger) (now : Timestamp) (locks : Bool) : KeyLedger :=
  if locks then ⟨L.failures ++ [now], L.locks ++ [now + config.lockoutSeconds], none⟩
  else { L with failures := L.failures ++ [now] }

/-- A failure that comes when the last lock has ended counts. -/
theorem KeyLedger.counted_fail (hended : ∀ till ∈ L.locks, till ≤ now) {later : Timestamp} :
    (L.fail config now false).counted config later =
      L.counted config later ++ [now].filter fun t => later ≤ t + config.failureWindowSeconds := by
  show (L.failures ++ [now]).filter _ = _
  rw [List.filter_append]
  congr 1
  refine List.filter_congr fun t ht => ?_
  obtain rfl := List.mem_singleton.mp ht
  have hlocks : ∀ till ∈ L.locks, till ≤ later → till ≤ t := fun till htill _ => hended till htill
  exact decide_eq_decide.mpr (and_iff_left hlocks)

variable (config now limit) in
/-- What a failure makes of a bucket that is not locked. -/
theorem failedBucket_unlocked (unlocked : ∀ b ∈ o, b.lockedUntil = 0) (unmarked : ∀ b ∈ o, b.lastBlockedEventAt = none) :
    (failedBucket config now limit o).failures = (failuresOf o).filter (inWindow config now) ++ [now] ∧
      (failedBucket config now limit o).lastBlockedEventAt = none ∧
      (failedBucket config now limit o).lockedUntil =
        if limit ≤ ((failuresOf o).filter (inWindow config now)).length + 1 then now + config.lockoutSeconds else 0 := by
  obtain ⟨b, hb, hfailures, hlock, hmark⟩ : ∃ b, o.getD ⟨[], 0, now, none⟩ = b ∧ b.failures = failuresOf o ∧
      b.lockedUntil = 0 ∧ b.lastBlockedEventAt = none := by
    cases o with
    | none => exact ⟨_, rfl, rfl, rfl, rfl⟩
    | some b => exact ⟨b, rfl, rfl, unlocked b rfl, unmarked b rfl⟩
  have hprune := pruneBucket_open config now (b := b) (by simp [hlock])
  unfold failedBucket
  rw [hb, hprune, hfailures]
  dsimp only
  rw [hlock, List.length_append, List.length_singleton]
  by_cases hlimit : limit ≤ ((failuresOf o).filter (inWindow config now)).length + 1
  · rw [if_pos ⟨not_lt_bot, hlimit⟩, if_pos hlimit]
    exact ⟨rfl, hmark, rfl⟩
  · rw [if_neg fun hboth => hlimit hboth.2, if_neg hlimit]
    exact ⟨rfl, hmark, rfl⟩

variable (config limit) in
/-- A failure of a locked scope keeps the lock. -/
theorem failedBucket_locked (h : now < b.lockedUntil) :
    (failedBucket config now limit (some b)).lockedUntil = b.lockedUntil ∧
      (failedBucket config now limit (some b)).lastBlockedEventAt = b.lastBlockedEventAt := by
  have hopen : ¬(0 < b.lockedUntil ∧ b.lockedUntil ≤ now) := fun hended => absurd h (not_lt.mpr hended.2)
  unfold failedBucket
  rw [Option.getD_some, pruneBucket_open config now hopen]
  dsimp only
  rw [if_neg fun hboth => hboth.1 h]
  exact ⟨rfl, rfl⟩

variable (limit) in
/-- What a failure does to a scope: it locks it if it was not locked and enough failures count, and it keeps the
    bucket in step with the ledger. -/
theorem Tracks.fail (h : Tracks config now L o) (hlocks : ∀ b ∈ o, b.lockedUntil = 0 ∨ now < b.lockedUntil)
    (hlockout : 0 < config.lockoutSeconds) :
    let before := o.any (now < ·.lockedUntil)
    let after := decide (now < (failedBucket config now limit o).lockedUntil)
    (after = (before || decide (limit ≤ (L.counted config now).length + 1))) ∧
      Tracks config now (L.fail config now (!before && after)) (some (failedBucket config now limit o)) := by
  cases h with
  | free unlocked unmarked past failed counted ended =>
    obtain ⟨hfailures, hmark, hlock⟩ := failedBucket_unlocked config now limit unlocked unmarked
    have hbefore : o.any (now < ·.lockedUntil) = false := by
      cases o with
      | none => rfl
      | some b => simp [unlocked b rfl]
    rw [counted now le_rfl] at hfailures hlock
    have hafter : decide (now < (failedBucket config now limit o).lockedUntil) =
        decide (limit ≤ (L.counted config now).length + 1) := by
      refine decide_eq_decide.mpr ?_
      rw [hlock]
      split
      · exact ⟨fun _ => ‹_›, fun _ => lt_add_of_pos_right _ hlockout⟩
      · exact ⟨fun hlt => absurd hlt not_lt_bot, fun hle => absurd hle ‹_›⟩
    rw [hbefore, hafter]
    dsimp only
    rw [Bool.false_or, Bool.not_false, Bool.true_and]
    refine ⟨rfl, ?_⟩
    have hfailed : ∀ t ∈ L.failures ++ [now], t ≤ now := by
      intro t ht
      rcases List.mem_append.mp ht with ht | ht
      · exact failed t ht
      · exact (List.mem_singleton.mp ht).le
    by_cases hlimit : limit ≤ (L.counted config now).length + 1
    · rw [if_pos hlimit] at hlock
      rw [decide_eq_true hlimit]
      have hlater : now < now + config.lockoutSeconds := lt_add_of_pos_right _ hlockout
      refine .locked rfl ?_ (hlock ▸ bot_le.trans_lt hlater) ?_ ?_ hmark
      · rw [hlock]
        exact List.mem_append_right _ (List.mem_singleton_self _)
      · intro till ht
        rw [hlock]
        rcases List.mem_append.mp ht with ht | ht
        · exact (ended till ht).trans hlater.le
        · exact (List.mem_singleton.mp ht).le
      · intro t ht
        rw [hlock]
        exact (hfailed t ht).trans_lt hlater
    · rw [if_neg hlimit] at hlock
      rw [decide_eq_false hlimit]
      refine .free (by simpa using hlock) (by simpa using hmark) ?_ hfailed ?_ ended
      · intro t ht
        have ht' : t ∈ L.counted config now ++ [now] := hfailures ▸ ht
        rcases List.mem_append.mp ht' with ht' | ht'
        · exact failed t (List.mem_of_mem_filter ht')
        · exact (List.mem_singleton.mp ht').le
      · intro later hlater
        have hnow : [now].filter (inWindow config later) = [now].filter fun t => later ≤ t + config.failureWindowSeconds := by
          refine List.filter_congr fun t ht => ?_
          obtain rfl := List.mem_singleton.mp ht
          exact decide_eq_decide.mpr (and_iff_left (hlater.trans le_self_add))
        show (failedBucket config now limit o).failures.filter _ = _
        rw [L.counted_fail ended, hfailures, List.filter_append, hnow, ← counted now le_rfl, filter_inWindow past hlater,
          counted later hlater]
  | @locked b found mem positive last_lock failed mark =>
    subst found
    have hnow : now < b.lockedUntil := (hlocks b rfl).resolve_left (ne_of_gt positive)
    obtain ⟨hlock, hmark⟩ := failedBucket_locked config limit hnow
    have hbefore : (some b).any (now < ·.lockedUntil) = true := by simpa using hnow
    rw [hbefore, hlock, decide_eq_true hnow]
    refine ⟨rfl, .locked rfl (hlock ▸ mem) (hlock ▸ positive) (hlock ▸ last_lock) ?_ (hmark.trans mark)⟩
    intro t ht
    rw [hlock]
    rcases List.mem_append.mp ht with ht | ht
    · exact failed t ht
    · rw [List.mem_singleton.mp ht]
      exact hnow

/-- A mark of the bucket is one of the ledger. -/
theorem Tracks.remark (h : Tracks config last L o) {m : Timestamp} (hm : (o.bind (·.lastBlockedEventAt)) = some m) :
    Tracks config last { L with mark := some m } o := by
  cases h with
  | free unlocked unmarked past failed counted ended =>
    obtain ⟨b, hb, hmark⟩ := Option.bind_eq_some_iff.mp hm
    rw [unmarked b hb] at hmark
    cases hmark
  | locked found mem positive last_lock failed mark =>
    subst found
    exact .locked rfl mem positive last_lock failed hm

/-- Marking a locked bucket keeps it in step with the ledger. -/
theorem Tracks.mark (h : Tracks config now L (some b)) (hlock : now < b.lockedUntil) :
    Tracks config now { L with mark := some now } (some { b with lastBlockedEventAt := some now }) := by
  cases h with
  | free unlocked unmarked past failed counted ended =>
    rw [unlocked b rfl] at hlock
    exact absurd hlock not_lt_bot
  | locked found mem positive last_lock failed mark =>
    obtain rfl := Option.some.inj found
    exact .locked rfl mem positive last_lock failed rfl

/-- The mark of a locked bucket is that of the ledger. -/
theorem Tracks.mark_eq (h : Tracks config now L (some b)) (hlock : now < b.lockedUntil) : b.lastBlockedEventAt = L.mark := by
  cases h with
  | free unlocked unmarked past failed counted ended =>
    rw [unlocked b rfl] at hlock
    exact absurd hlock not_lt_bot
  | locked found mem positive last_lock failed mark =>
    obtain rfl := Option.some.inj found
    exact mark

end
end IRLight.IngestAuth
