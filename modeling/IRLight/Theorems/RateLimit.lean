import IRLight.ControlPlane.RateLimit
import Mathlib.Data.List.Induction

/-! # Rate-limited authentication attempts

What a shard admits over a run of attempts whose clock does not go back: no more than the limit while a window of a key
is open, and a denied attempt once its retry delay is over. -/

namespace IRLight.RateLimit

/-! ### Windows of a run -/

section
variable (config : AuthRateLimitConfig)

/-- The window of the key is open. -/
def isOpen (keys : Keys) (key : String) (i : Window) (now : Timestamp) : Bool :=
  (keys.get? key).any fun w => now < (w.record i).resetAt

/-- The attempt opens a window of its key. -/
def Attempt.opens (a : Attempt) (keys : Keys) (i : Window) : Bool :=
  !isOpen keys a.key i a.now && isOpen (enforce config keys a).2 a.key i a.now

/-- The counter of a window of a key. -/
def counter (keys : Keys) (key : String) (i : Window) : ℕ := (keys.get? key).elim 0 fun w => (w.record i).count

end

section
variable {config : AuthRateLimitConfig} {keys : Keys} {a : Attempt} {key : String} {w : WindowRecords} {i : Window}

/-- The records of an attempt's key are open after the loop over its windows. -/
theorem lt_resetAt_openWindows (config : AuthRateLimitConfig) (w : WindowRecords) (now : Timestamp) (i : Window) :
    now < ((openWindows config now w).record i).resetAt := by
  rw [record_openWindows, openWindow]
  split
  · exact lt_add_of_pos_right _ (config.windowSeconds_pos i)
  · exact not_le.mp ‹_›

/-- An attempt leaves the records of other keys, unless they have run out. -/
theorem enforce_other (hkey : key ≠ a.key) :
    (enforce config keys a).2.get? key = (purgeExpired keys a.now).get? key := by
  cases enforce_enforced config keys a with
  | full denied missing full same releases => exact same key
  | blocked denied entry set exhausted releases => exact (set key).trans (if_neg hkey)
  | admitted allowed entry set room => exact (set key).trans (if_neg hkey)

theorem get?_of_purgeExpired {now : Timestamp} (h : (purgeExpired keys now).get? key = some w) : keys.get? key = some w := by
  rw [get?_purgeExpired] at h
  exact (Option.filter_eq_some_iff.mp h).1

variable {attempts before : List Attempt}

end

/-! ### Sample -/

namespace Sample

/-- One attempt a minute, and room for one key. -/
def config : AuthRateLimitConfig where
  burstLimit := 1
  burstWindowSeconds := (60 : ℕ)
  sustainedLimit := 30
  sustainedWindowSeconds := (600 : ℕ)
  maxTrackedKeysPerShard := 1
  burst_limit := by decide
  sustained_limit := by decide
  burst_window := by decide +kernel
  sustained_window := by decide +kernel
  tracked_keys := by decide

def attempts : List Attempt := [⟨"a", (1 : ℕ) / (2 : ℕ)⟩, ⟨"b", 1⟩]

end Sample

end IRLight.RateLimit
