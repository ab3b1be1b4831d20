import IRLight.Collections.Dict
import IRLight.Python
import Mathlib.Algebra.Order.Ring.Cast
import Mathlib.Algebra.Order.Ring.NNRat

/-! # The rate limit of authentication attempts

`auth_rate_limit`: two fixed windows for each key of a shard, and a bounded table of keys. `_enforce_rate_limit` reads
the shard under its lock, charges the attempt, and writes the shard back if the attempt has changed it. -/

namespace IRLight.RateLimit

/-- The two windows of a key, by their index in `windows`. -/
inductive Window where
  | burst
  | sustained
  deriving DecidableEq

def Window.all : List Window := [.burst, .sustained]

/-- `AuthRateLimitConfig`, with what `__post_init__` has checked. -/
structure AuthRateLimitConfig where
  burstLimit : ℕ
  burstWindowSeconds : Timestamp
  sustainedLimit : ℕ
  sustainedWindowSeconds : Timestamp
  maxTrackedKeysPerShard : ℕ
  burst_limit : 1 ≤ burstLimit ∧ burstLimit ≤ 10000
  sustained_limit : 1 ≤ sustainedLimit ∧ sustainedLimit ≤ 10000
  burst_window : 1 ≤ burstWindowSeconds ∧ burstWindowSeconds ≤ 86400
  sustained_window : 1 ≤ sustainedWindowSeconds ∧ sustainedWindowSeconds ≤ 86400
  tracked_keys : 1 ≤ maxTrackedKeysPerShard ∧ maxTrackedKeysPerShard ≤ 65536

namespace AuthRateLimitConfig
variable (config : AuthRateLimitConfig)

def limit : Window → ℕ
  | .burst => config.burstLimit
  | .sustained => config.sustainedLimit

def windowSeconds : Window → Timestamp
  | .burst => config.burstWindowSeconds
  | .sustained => config.sustainedWindowSeconds

end AuthRateLimitConfig

structure WindowRecord where
  resetAt : Timestamp
  count : ℕ

/-- The records of a key. -/
structure WindowRecords where
  burst : WindowRecord
  sustained : WindowRecord

def WindowRecords.record (w : WindowRecords) : Window → WindowRecord
  | .burst => w.burst
  | .sustained => w.sustained

/-- What a shard says. -/
abbrev Keys := Dict String WindowRecords

structure Admission where
  allowed : Bool
  retryAfter : ℕ
  changed : Bool

structure Attempt where
  key : String
  now : Timestamp

/-- `all(record["reset_at"] <= now for record in windows)`. -/
def WindowRecords.expired (w : WindowRecords) (now : Timestamp) : Bool :=
  Window.all.all fun i => (w.record i).resetAt ≤ now

/-- `max(record["reset_at"] for record in windows)`. -/
def WindowRecords.release (w : WindowRecords) : Timestamp := max w.burst.resetAt w.sustained.resetAt

/-- `_purge_expired`. -/
def purgeExpired (keys : Keys) (now : Timestamp) : Keys := keys.filter fun _ w => !w.expired now

/-- `max(1, math.ceil(till - now))`. -/
def retryDelay (till now : Timestamp) : ℕ := max 1 ((till : ℚ) - now).ceil.toNat

/-- `_earliest_release`. -/
def earliestRelease (keys : Keys) (h : keys.items ≠ []) (now : Timestamp) : ℕ :=
  retryDelay ((keys.items.map fun i => i.2.release).min (mt List.map_eq_nil_iff.mp h)) now

section
variable (config : AuthRateLimitConfig)

/-- A window that has run out opens again. -/
def openWindow (now : Timestamp) (i : Window) (record : WindowRecord) : WindowRecord :=
  if record.resetAt ≤ now then ⟨now + config.windowSeconds i, 0⟩ else record

/-- The records after the loop over the windows. -/
def openWindows (now : Timestamp) (w : WindowRecords) : WindowRecords :=
  ⟨openWindow config now .burst w.burst, openWindow config now .sustained w.sustained⟩

/-- `blocked_until`, after the loop. -/
def blockedUntil (w : WindowRecords) : List Timestamp :=
  (Window.all.filter fun i => config.limit i ≤ (w.record i).count).map fun i => (w.record i).resetAt

/-- `record["count"] += 1` for every record. -/
def WindowRecords.charge (w : WindowRecords) : WindowRecords :=
  ⟨{ w.burst with count := w.burst.count + 1 }, { w.sustained with count := w.sustained.count + 1 }⟩

/-- `_register_attempt` from the loop over the windows on. -/
def chargeAttempt (keys : Keys) (key : String) (now : Timestamp) (windows : WindowRecords) (changed : Bool) :
    Admission × Keys :=
  let changed := changed || Window.all.any fun i => (windows.record i).resetAt ≤ now
  let windows := openWindows config now windows
  if h : blockedUntil config windows ≠ [] then
    (⟨false, retryDelay ((blockedUntil config windows).max h) now, changed⟩, keys.set key windows)
  else (⟨true, 0, true⟩, keys.set key windows.charge)

theorem items_ne_nil {keys : Keys} (h : config.maxTrackedKeysPerShard ≤ keys.size) : keys.items ≠ [] :=
  List.ne_nil_of_length_pos (config.tracked_keys.1.trans h)

/-- `_register_attempt`. -/
def registerAttempt (keys : Keys) (key : String) (now : Timestamp) : Admission × Keys :=
  let tracked := keys.size
  let keys := purgeExpired keys now
  let changed : Bool := keys.size ≠ tracked
  match keys.get? key with
  | none =>
    if h : config.maxTrackedKeysPerShard ≤ keys.size then
      (⟨false, earliestRelease keys (items_ne_nil config h) now, changed⟩, keys)
    else chargeAttempt config (keys.set key ⟨⟨now, 0⟩, ⟨now, 0⟩⟩) key now ⟨⟨now, 0⟩, ⟨now, 0⟩⟩ true
  | some windows => chargeAttempt config keys key now windows changed

/-- `_enforce_rate_limit` on a shard. A shard that is written lists its keys in order. -/
def enforce (keys : Keys) (a : Attempt) : Admission × Keys :=
  let r := registerAttempt config keys a.key a.now
  (r.1, if r.1.changed then r.2.sort fun i j => i.1 ≤ j.1 else keys)

/-- The shard after a run of attempts. It starts empty. -/
def runShard (attempts : List Attempt) : Keys := attempts.foldl (fun keys a => (enforce config keys a).2) .empty

end

/-! ### Windows and delays -/

section
variable {config : AuthRateLimitConfig} {keys : Keys} {w : WindowRecords} {now till : Timestamp} {i : Window} {key : String}

theorem Window.mem_all (i : Window) : i ∈ Window.all := by
  cases i <;> decide

theorem AuthRateLimitConfig.windowSeconds_pos (config : AuthRateLimitConfig) (i : Window) : 0 < config.windowSeconds i := by
  cases i
  · exact zero_lt_one.trans_le config.burst_window.1
  · exact zero_lt_one.trans_le config.sustained_window.1

@[simp] theorem record_openWindows :
    (openWindows config now w).record i = openWindow config now i (w.record i) := by
  cases i <;> rfl

@[simp] theorem record_charge : w.charge.record i = { w.record i with count := (w.record i).count + 1 } := by
  cases i <;> rfl

theorem WindowRecords.expired_iff : w.expired now = true ↔ ∀ i, (w.record i).resetAt ≤ now := by
  rw [expired, List.all_eq_true]
  exact ⟨fun h i => of_decide_eq_true (h i i.mem_all), fun h i _ => decide_eq_true (h i)⟩

theorem mem_blockedUntil {t : Timestamp} : t ∈ blockedUntil config w ↔
    ∃ i, config.limit i ≤ (w.record i).count ∧ (w.record i).resetAt = t := by
  rw [blockedUntil, List.mem_map]
  constructor
  · rintro ⟨i, hi, rfl⟩
    exact ⟨i, of_decide_eq_true (List.mem_filter.mp hi).2, rfl⟩
  · rintro ⟨i, hi, rfl⟩
    exact ⟨i, List.mem_filter.mpr ⟨i.mem_all, decide_eq_true hi⟩, rfl⟩

/-- The delay is long enough, and a second at least. -/
theorem le_add_retryDelay : till ≤ now + retryDelay till now := by
  have hceil : (till : ℚ) - now ≤ ((till : ℚ) - now).ceil := Rat.le_ceil
  have hnat : ((till : ℚ) - now).ceil ≤ (retryDelay till now : ℤ) := by
    unfold retryDelay
    omega
  have hcast : (((till : ℚ) - now).ceil : ℚ) ≤ ((retryDelay till now : ℤ) : ℚ) :=
    Int.cast_le.mpr hnat
  rw [← NNRat.coe_le_coe, NNRat.coe_add, NNRat.coe_natCast]
  rw [Int.cast_natCast] at hcast
  exact sub_le_iff_le_add'.mp (hceil.trans hcast)

theorem exists_earliestRelease (h : keys.items ≠ []) : ∃ key w, keys.get? key = some w ∧
    w.release ≤ now + earliestRelease keys h now := by
  obtain ⟨⟨key, w⟩, hmem, hrelease⟩ := List.mem_map.mp (List.min_mem (mt List.map_eq_nil_iff.mp h :
    keys.items.map (fun i => i.2.release) ≠ []))
  refine ⟨key, w, Dict.get?_eq_some.mpr hmem, ?_⟩
  rw [earliestRelease, ← hrelease]
  exact le_add_retryDelay

theorem get?_purgeExpired : (purgeExpired keys now).get? key = (keys.get? key).filter fun w => !w.expired now :=
  Dict.get?_filter

end

/-! ### What an attempt does -/

/-- The records that the loop over the windows starts from: those of the key, or fresh ones if there is room. -/
def Entry (config : AuthRateLimitConfig) (keys : Keys) (a : Attempt) (w : WindowRecords) : Prop :=
  (purgeExpired keys a.now).get? a.key = some w ∨
    (purgeExpired keys a.now).get? a.key = none ∧
      (purgeExpired keys a.now).size < config.maxTrackedKeysPerShard ∧ w = ⟨⟨a.now, 0⟩, ⟨a.now, 0⟩⟩

/-- What an attempt does to a shard. -/
inductive Enforced (config : AuthRateLimitConfig) (keys : Keys) (a : Attempt) (r : Admission) (keys' : Keys) : Prop
  | full (denied : r.allowed = false) (missing : (purgeExpired keys a.now).get? a.key = none)
      (full : config.maxTrackedKeysPerShard ≤ (purgeExpired keys a.now).size)
      (same : ∀ key, keys'.get? key = (purgeExpired keys a.now).get? key)
      (releases : ∃ key w, (purgeExpired keys a.now).get? key = some w ∧ w.release ≤ a.now + r.retryAfter)
  | blocked {w : WindowRecords} (denied : r.allowed = false) (entry : Entry config keys a w)
      (set : ∀ key, keys'.get? key =
        if key = a.key then some (openWindows config a.now w) else (purgeExpired keys a.now).get? key)
      (exhausted : ∃ i, config.limit i ≤ ((openWindows config a.now w).record i).count)
      (releases : ∀ i, config.limit i ≤ ((openWindows config a.now w).record i).count →
        ((openWindows config a.now w).record i).resetAt ≤ a.now + r.retryAfter)
  | admitted {w : WindowRecords} (allowed : r.allowed = true) (entry : Entry config keys a w)
      (set : ∀ key, keys'.get? key =
        if key = a.key then some (openWindows config a.now w).charge else (purgeExpired keys a.now).get? key)
      (room : ∀ i, ((openWindows config a.now w).record i).count < config.limit i)

section
variable {config : AuthRateLimitConfig} {keys keys' : Keys} {a : Attempt} {w : WindowRecords} {changed : Bool}

theorem get?_set {key k : String} {v : WindowRecords} :
    (keys.set k v).get? key = if key = k then some v else keys.get? key := by
  split
  · rename_i hkey
    rw [hkey, Dict.get?_set_self]
  · rename_i hkey
    exact Dict.get?_set_ne hkey

theorem Enforced.congr {r : Admission} {keys'' : Keys} (h : Enforced config keys a r keys')
    (hsame : ∀ key, keys''.get? key = keys'.get? key) : Enforced config keys a r keys'' := by
  cases h with
  | full denied missing full same releases =>
    exact .full denied missing full (fun key => (hsame key).trans (same key)) releases
  | blocked denied entry set exhausted releases =>
    exact .blocked denied entry (fun key => (hsame key).trans (set key)) exhausted releases
  | admitted allowed entry set room => exact .admitted allowed entry (fun key => (hsame key).trans (set key)) room

/-- The loop over the windows, on a table that has the records of the key. -/
theorem chargeAttempt_enforced (changed : Bool) (hentry : Entry config keys a w) (hget : keys'.get? a.key = some w)
    (hother : ∀ key, key ≠ a.key → keys'.get? key = (purgeExpired keys a.now).get? key) :
    let r := chargeAttempt config keys' a.key a.now w changed
    Enforced config keys a r.1 r.2 ∧ (r.1.changed = false → changed = false ∧ ∀ key, r.2.get? key = keys'.get? key) := by
  have hset : ∀ v key, (keys'.set a.key v).get? key =
      if key = a.key then some v else (purgeExpired keys a.now).get? key := by
    intro v key
    rw [get?_set]
    split
    · rfl
    · rename_i hkey
      exact hother key hkey
  unfold chargeAttempt
  dsimp only
  split
  · rename_i hblocked
    refine ⟨.blocked rfl hentry (hset _) ?_ ?_, fun hsame => ?_⟩
    · obtain ⟨t, ht⟩ := List.exists_mem_of_ne_nil _ hblocked
      obtain ⟨i, hi, -⟩ := mem_blockedUntil.mp ht
      exact ⟨i, hi⟩
    · intro i hi
      exact (List.le_max_of_mem (mem_blockedUntil.mpr ⟨i, hi, rfl⟩)).trans le_add_retryDelay
    · obtain ⟨hchanged, hopen⟩ := Bool.or_eq_false_iff.mp hsame
      have hkept : ∀ i, openWindow config a.now i (w.record i) = w.record i := fun i =>
        if_neg fun hle => List.any_eq_false.mp hopen i i.mem_all (decide_eq_true hle)
      have hw : openWindows config a.now w = w := congrArg₂ WindowRecords.mk (hkept .burst) (hkept .sustained)
      refine ⟨hchanged, fun key => ?_⟩
      rw [get?_set, hw]
      split
      · rename_i hkey
        rw [hkey, hget]
      · rfl
  · rename_i hfree
    refine ⟨.admitted rfl hentry (hset _) fun i => ?_, fun hsame => by cases hsame⟩
    rw [not_not] at hfree
    refine not_le.mp fun hlimit => ?_
    have hmem := mem_blockedUntil.mpr ⟨i, hlimit, rfl⟩
    rw [hfree] at hmem
    cases hmem

variable (config keys a) in
/-- An attempt that changes nothing leaves the table as it was. -/
theorem registerAttempt_enforced :
    let r := registerAttempt config keys a.key a.now
    Enforced config keys a r.1 r.2 ∧ (r.1.changed = false → ∀ key, r.2.get? key = keys.get? key) := by
  have hunchanged : decide ((purgeExpired keys a.now).size ≠ keys.size) = false → purgeExpired keys a.now = keys := fun h =>
    Dict.filter_of_size_eq (not_not.mp (of_decide_eq_false h))
  unfold registerAttempt
  dsimp only
  split
  · rename_i hmissing
    split
    · rename_i hfull
      refine ⟨.full rfl hmissing hfull (fun _ => rfl) (exists_earliestRelease (items_ne_nil config hfull)), fun hsame key => ?_⟩
      exact congrArg (fun keys : Keys => keys.get? key) (hunchanged hsame)
    · rename_i hroom
      have hset : ((purgeExpired keys a.now).set a.key ⟨⟨a.now, 0⟩, ⟨a.now, 0⟩⟩).get? a.key = some ⟨⟨a.now, 0⟩, ⟨a.now, 0⟩⟩ :=
        Dict.get?_set_self
      obtain ⟨henforced, hsame⟩ := chargeAttempt_enforced true (Or.inr ⟨hmissing, not_le.mp hroom, rfl⟩) hset
        fun key hkey => Dict.get?_set_ne hkey
      refine ⟨henforced, fun h => ?_⟩
      cases (hsame h).1
  · rename_i windows hget
    obtain ⟨henforced, hsame⟩ := chargeAttempt_enforced (decide ((purgeExpired keys a.now).size ≠ keys.size))
      (Or.inl hget) hget fun _ _ => rfl
    refine ⟨henforced, fun h key => ?_⟩
    obtain ⟨hchanged, hsame⟩ := hsame h
    rw [hsame key, hunchanged hchanged]

variable (config keys a) in
/-- **What an attempt does to a shard.** A shard that is not written is as if it were. -/
theorem enforce_enforced : Enforced config keys a (enforce config keys a).1 (enforce config keys a).2 := by
  obtain ⟨henforced, hsame⟩ := registerAttempt_enforced config keys a
  refine henforced.congr fun key => ?_
  unfold enforce
  dsimp only
  split
  · exact Dict.get?_sort
  · rename_i hchanged
    exact (hsame (eq_false_of_ne_true hchanged) key).symm

/-! ### The size of the table -/

end

end IRLight.RateLimit
