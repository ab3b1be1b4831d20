import IRLight.IngestAuth.CacheKey

/-! # The positive cache

`PositiveAuthCache` of the Node's proxy: keys of authorized requests with the time at which each entry runs out,
the entry used last at the end. `clock k` is the reading that a method's `k`-th look at the clock gives. -/

namespace IRLight.IngestAuth

/-- `_validated_cache_time` of a reading. -/
def validatedCacheTime (value : PyFloat) (field : String) : Except Exc Timestamp :=
  requireTimestamp value (.runtimeError s!"ingest auth cache {field} is invalid")

/-- `_validated_cache_time` of a value. `None` is the clock. -/
def validatedCacheValue (value : Json) (reading : PyFloat) (field : String) : Except Exc Timestamp :=
  match value with
  | .null => validatedCacheTime reading field
  | .int n =>
    if n.natAbs < floatOverflow then validatedCacheTime (.finite n) field
    else .error (.runtimeError s!"ingest auth cache {field} is invalid")
  | .float x => validatedCacheTime x field
  | _ => .error (.runtimeError s!"ingest auth cache {field} is invalid")

structure PositiveAuthCache where
  maxAgeSeconds : Timestamp
  maxEntries : ℕ
  entries : Dict Digest Timestamp

namespace PositiveAuthCache

/-- `_prune`. The entries used least recently go first. -/
def prune (c : PositiveAuthCache) (now : Timestamp) : PositiveAuthCache :=
  let live := c.entries.filter fun _ expiresAt => now < expiresAt
  { c with entries := live.drop (live.size - c.maxEntries) }

def store (c : PositiveAuthCache) (key : Digest) (upstreamValidUntil : Json) (clock : ℕ → PyFloat) :
    Except Exc (Bool × PositiveAuthCache) := do
  let current ← validatedCacheTime (clock 0) "clock"
  let validUntil ← validatedCacheValue upstreamValidUntil (clock 1) "valid-until"
  let expiresAt := min validUntil (current + c.maxAgeSeconds)
  if expiresAt ≤ current then return (false, c)
  let entries := (c.entries.set key expiresAt).moveToEnd key
  return (true, { c with entries := entries }.prune current)

def allowed (c : PositiveAuthCache) (key : Digest) (clock : ℕ → PyFloat) : Except Exc (Bool × PositiveAuthCache) := do
  let current ← validatedCacheTime (clock 0) "clock"
  let c := c.prune current
  match c.entries.get? key with
  | none => return (false, c)
  | some expiresAt =>
    if expiresAt ≤ current then return (false, c)
    else return (true, { c with entries := c.entries.moveToEnd key })

def evict (c : PositiveAuthCache) (key : Digest) : PositiveAuthCache := { c with entries := c.entries.erase key }

/-- The entries are within the bound. -/
def Bounded (c : PositiveAuthCache) : Prop := c.entries.size ≤ c.maxEntries

variable {c c' : PositiveAuthCache} {key key' : Digest} {e now : Timestamp} {clock : ℕ → PyFloat} {value : Json} {b : Bool}

/-! ### What the methods do to the entries -/

theorem get?_prune (h : (c.prune now).entries.get? key = some e) : c.entries.get? key = some e ∧ now < e := by
  have hlive := Dict.get?_drop h
  rw [Dict.get?_filter, Option.filter_eq_some_iff] at hlive
  exact ⟨hlive.1, of_decide_eq_true hlive.2⟩

theorem bounded_prune : (c.prune now).Bounded := by
  rw [Bounded, prune, Dict.size_drop]
  exact tsub_tsub_le

/-- A store changes nothing, or adds an entry that runs out after now, at the latest when the upstream said and when
    its age is over. -/
theorem store_cases (h : c.store key value clock = .ok (b, c')) :
    c' = c ∨ ∃ current validUntil : Timestamp, clock 0 = .finite current ∧
      validatedCacheValue value (clock 1) "valid-until" = .ok validUntil ∧ c'.Bounded ∧
      c'.maxAgeSeconds = c.maxAgeSeconds ∧ c'.maxEntries = c.maxEntries ∧ current < validUntil ∧
      ∀ key' e, c'.entries.get? key' = some e →
        (key' = key ∧ e ≤ validUntil ∧ e ≤ current + c.maxAgeSeconds) ∨ (key' ≠ key ∧ c.entries.get? key' = some e) := by
  unfold store at h
  obtain ⟨current, hcurrent, h⟩ := bind_eq_ok.mp h
  obtain ⟨validUntil, hvalid, h⟩ := bind_eq_ok.mp h
  simp only at h
  split at h
  · exact .inl (Prod.ext_iff.mp (Except.ok.inj h)).2.symm
  · rename_i hlate
    obtain ⟨-, rfl⟩ := Prod.ext_iff.mp (Except.ok.inj h)
    refine .inr ⟨current, validUntil, requireTimestamp_eq_ok.mp hcurrent, hvalid, bounded_prune, rfl, rfl,
      (not_le.mp hlate).trans_le (min_le_left _ _), fun key' e he => ?_⟩
    obtain ⟨hget, -⟩ := get?_prune he
    rw [Dict.get?_moveToEnd] at hget
    by_cases hkey : key' = key
    · subst hkey
      rw [Dict.get?_set_self] at hget
      obtain rfl := Option.some.inj hget
      exact .inl ⟨rfl, min_le_left _ _, min_le_right _ _⟩
    · rw [Dict.get?_set_ne hkey] at hget
      exact .inr ⟨hkey, hget⟩

/-- A look removes entries at most, and it finds only an entry that has not run out. -/
theorem allowed_cases (h : c.allowed key clock = .ok (b, c')) :
    (∀ key' e, c'.entries.get? key' = some e → c.entries.get? key' = some e) ∧ c'.Bounded ∧
      c'.maxAgeSeconds = c.maxAgeSeconds ∧ c'.maxEntries = c.maxEntries ∧
      (b → ∃ current e : Timestamp, clock 0 = .finite current ∧ c.entries.get? key = some e ∧ current < e) := by
  unfold allowed at h
  obtain ⟨current, hcurrent, h⟩ := bind_eq_ok.mp h
  have hsub : ∀ {key' e}, (c.prune current).entries.get? key' = some e → c.entries.get? key' = some e :=
    fun he => (get?_prune he).1
  simp only at h
  split at h
  · obtain ⟨rfl, rfl⟩ := Prod.ext_iff.mp (Except.ok.inj h)
    exact ⟨fun _ _ => hsub, bounded_prune, rfl, rfl, fun hb => absurd hb Bool.false_ne_true⟩
  · rename_i e he
    split at h
    · obtain ⟨rfl, rfl⟩ := Prod.ext_iff.mp (Except.ok.inj h)
      exact ⟨fun _ _ => hsub, bounded_prune, rfl, rfl, fun hb => absurd hb Bool.false_ne_true⟩
    · obtain ⟨rfl, rfl⟩ := Prod.ext_iff.mp (Except.ok.inj h)
      refine ⟨fun key' e' he' => ?_, ?_, rfl, rfl, fun _ => ?_⟩
      · rw [Dict.get?_moveToEnd] at he'
        exact hsub he'
      · rw [Bounded, Dict.size_moveToEnd]
        exact bounded_prune
      · exact ⟨current, e, requireTimestamp_eq_ok.mp hcurrent, (get?_prune he).1, (get?_prune he).2⟩

end PositiveAuthCache

end IRLight.IngestAuth
