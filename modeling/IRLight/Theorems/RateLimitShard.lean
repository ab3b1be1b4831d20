import IRLight.Collections.Splits
import IRLight.ControlPlane.RateLimitShard
import IRLight.Theorems.RateLimit
import Mathlib.Algebra.Group.Action.Defs
import Mathlib.Algebra.Order.BigOperators.Group.List

/-! # Counters that survive their files

A run of charges on the file of a shard, beside the run of the same attempts on the table that the file stands for. The two
agree as long as no table outgrows what `_read_shard` accepts. -/

namespace IRLight.RateLimit

section
variable (config : AuthRateLimitConfig) (floatText : PyFloat → String)

/-- The table after a run of charges, if no table is lost. -/
def tableAfter (charges : List Charge) : Keys := runShard config (charges.map Charge.attempt)

/-- The table that a charge has changed is read back from the file that it is written to. -/
def ReadBack (keys : Keys) (c : Charge) : Prop :=
  let r := register config keys c
  r.1.changed → ∀ key, (readShard floatText (writeShard r.2)).get? key = r.2.get? key

/-- The table that a charge has changed is written to a file that `_read_shard` accepts. -/
def Fits (keys : Keys) (c : Charge) : Prop :=
  let r := register config keys c
  r.1.changed → fileSize floatText r.2 ≤ maxStateFileBytes

end

/-! ### A file and its table -/

section
variable {config : AuthRateLimitConfig} {floatText : PyFloat → String} {keys : Keys} {file : ShardFile} {c : Charge}
  {charges : List Charge}

theorem Keyed.enforced {r : Admission} {keys' : Keys} (h : Keyed keys) (henforced : Enforced config keys c.attempt r keys') :
    Keyed keys' := by
  have hpurged : ∀ {key w}, (purgeExpired keys c.attempt.now).get? key = some w → ∃ k : AttemptKey, k.text = key :=
    fun hget => h _ _ (get?_of_purgeExpired hget)
  have hset : ∀ {key w v}, (if key = c.attempt.key then some v else (purgeExpired keys c.attempt.now).get? key) = some w →
      ∃ k : AttemptKey, k.text = key := by
    intro key w v hget
    split at hget
    · rename_i hkey
      exact ⟨c.key, hkey.symm⟩
    · exact hpurged hget
  intro key w hget
  cases henforced with
  | full denied missing full same releases => exact hpurged (same key ▸ hget)
  | blocked denied entry set exhausted releases => exact hset (set key ▸ hget)
  | admitted allowed entry set room => exact hset (set key ▸ hget)

theorem Keyed.register (h : Keyed keys) : Keyed (register config keys c).2 :=
  h.enforced (registerAttempt_enforced config keys c.attempt).1

/-- What is read back has been small enough. -/
theorem ReadBack.fits (h : ReadBack config floatText keys c) : Fits config floatText keys c := by
  intro hchanged
  by_contra hlarge
  have hlost := readShard_writeShard_large (not_le.mp hlarge)
  have hitems : (register config keys c).2.items = [] := by
    refine List.eq_nil_iff_forall_not_mem.mpr fun i hi => ?_
    have hget := h hchanged i.1
    rw [hlost, Dict.get?_empty, Dict.get?_eq_some.mpr hi] at hget
    cases hget
  rw [fileSize_empty hitems] at hlarge
  exact hlarge (by decide)

variable {a : Attempt} {key : String} {w : WindowRecords} {i : Window} {till : Timestamp}

/-- The count of the window of the key that ends then. -/
def held (keys : Keys) (key : String) (i : Window) (till : Timestamp) : ℕ :=
  (keys.get? key).elim 0 fun w => if (w.record i).resetAt = till then (w.record i).count else 0

/-- No window counts more than its limit. -/
def Bounded (config : AuthRateLimitConfig) (keys : Keys) : Prop :=
  ∀ key w, keys.get? key = some w → ∀ i, (w.record i).count ≤ config.limit i

/-- The records that an attempt starts from are within the limits, and so they are after the loop over the windows. -/
theorem Bounded.opened (h : Bounded config keys) (hentry : Entry config keys a w) (i : Window) :
    ((openWindows config a.now w).record i).count ≤ config.limit i := by
  rw [record_openWindows, openWindow]
  split
  · exact Nat.zero_le _
  · rcases hentry with hget | ⟨-, -, rfl⟩
    · exact h _ _ (get?_of_purgeExpired hget) i
    · cases i <;> exact Nat.zero_le _

theorem Bounded.enforced {r : Admission} {keys' : Keys} (h : Bounded config keys) (henforced : Enforced config keys a r keys') :
    Bounded config keys' := by
  intro key w hget i
  cases henforced with
  | full denied missing full same releases =>
    rw [same] at hget
    exact h key w (get?_of_purgeExpired hget) i
  | blocked denied entry set exhausted releases =>
    rw [set] at hget
    split at hget
    · obtain rfl := Option.some.inj hget
      exact h.opened entry i
    · exact h key w (get?_of_purgeExpired hget) i
  | admitted allowed entry set room =>
    rw [set] at hget
    split at hget
    · obtain rfl := Option.some.inj hget
      rw [record_charge]
      exact room i
    · exact h key w (get?_of_purgeExpired hget) i

/-- Every table of the run is written to a file that is accepted. -/
def EveryTableFits (config : AuthRateLimitConfig) (floatText : PyFloat → String) (charges : List Charge) : Prop :=
  ∀ before c after, charges = before ++ c :: after → Fits config floatText (tableAfter config before) c

theorem EveryTableFits.left {before after : List Charge} (h : EveryTableFits config floatText (before ++ after)) :
    EveryTableFits config floatText before := by
  intro seen c later hsplit
  refine h seen c (later ++ after) ?_
  rw [hsplit, List.append_assoc, List.cons_append]

/-- The windows of the key are open. -/
def Live (keys : Keys) (key : String) (now : Timestamp) : Prop := ∃ w, keys.get? key = some w ∧ ∀ i, now < (w.record i).resetAt

theorem live_enforce (hroom : keys.size < config.maxTrackedKeysPerShard) : Live (enforce config keys a).2 a.key a.now := by
  cases enforce_enforced config keys a with
  | full denied missing full same releases =>
    exact absurd (full.trans Dict.size_filter_le) (not_le.mpr hroom)
  | @blocked w denied entry set exhausted releases =>
    exact ⟨_, (set a.key).trans (if_pos rfl), lt_resetAt_openWindows config w a.now⟩
  | @admitted w allowed entry set room =>
    refine ⟨_, (set a.key).trans (if_pos rfl), fun i => ?_⟩
    rw [record_charge]
    exact lt_resetAt_openWindows config w a.now i

theorem Live.enforce (h : Live keys key a.now) (hroom : keys.size < config.maxTrackedKeysPerShard) :
    Live (enforce config keys a).2 key a.now := by
  by_cases hkey : key = a.key
  · exact hkey ▸ live_enforce hroom
  · obtain ⟨w, hget, hlive⟩ := h
    refine ⟨w, ?_, hlive⟩
    have hkept : w.expired a.now = false :=
      eq_false_of_ne_true fun hexpired => absurd (WindowRecords.expired_iff.mp hexpired .burst) (not_le.mpr (hlive .burst))
    rw [enforce_other hkey, get?_purgeExpired, hget, Option.filter_some, hkept]
    rfl

end

/-! ### A full table -/

namespace Flood

/-- The defaults, with one shard of as many keys as may be. -/
def config : AuthRateLimitConfig :=
  { Sample.config with
    burstLimit := 10
    maxTrackedKeysPerShard := 65536
    burst_limit := by decide
    tracked_keys := by decide }

/-- A key for a number. -/
def key (n : ℕ) : AttemptKey := ⟨(List.range 32).map fun j => Fin.ofNat 16 (n / 16 ^ j), rfl⟩

/-- One attempt for each of 65536 keys, all within one second. -/
def charges : List Charge := (List.range 65536).map fun n => ⟨key n, (1000 : ℕ)⟩

/-- `float.__repr__` of the numbers that these attempts write. -/
def floatText : PyFloat → String
  | .finite q => toString q.num ++ ".0"
  | _ => ""

theorem digitChar_inj : ∀ {a b : Fin 16}, Nat.digitChar a = Nat.digitChar b → a = b := by
  decide

/-- The last four digits tell the numbers apart. -/
theorem key_inj {m n : ℕ} (hm : m < 65536) (hn : n < 65536) (h : (key m).text = (key n).text) : m = n := by
  have hdigits : (List.range 32).map (fun j => Fin.ofNat 16 (m / 16 ^ j)) =
      (List.range 32).map fun j => Fin.ofNat 16 (n / 16 ^ j) :=
    List.map_injective_iff.mpr (fun _ _ => digitChar_inj) (String.ofList_injective h)
  have hdigit : ∀ j < 32, m / 16 ^ j % 16 = n / 16 ^ j % 16 := fun j hj =>
    congrArg Fin.val (List.map_inj_left.mp hdigits j (List.mem_range.mpr hj))
  have h0 := hdigit 0 (by decide)
  have h1 := hdigit 1 (by decide)
  have h2 := hdigit 2 (by decide)
  have h3 := hdigit 3 (by decide)
  omega

theorem nodup : (charges.map fun c => c.key.text).Nodup := by
  rw [charges, List.map_map]
  exact List.Nodup.map_on (fun m hm n hn => key_inj (List.mem_range.mp hm) (List.mem_range.mp hn)) List.nodup_range

end Flood

end IRLight.RateLimit
