import IRLight.IngestAuth.Window
import IRLight.Theorems.Lockout

/-! # The guard's sliding window

A scope is locked at a failure exactly when enough of its failures count: those of the trailing window that came
after its last unlock or success. A blocked attempt is reported at most once an interval and lock. -/

namespace IRLight.IngestAuth

/-! ### Calls -/

/-- The bucket of a scope in the file. -/
def GuardFiles.bucket? (s : GuardFiles) (key : BucketKey) : Option Bucket := s.file.bind fun doc => doc.buckets.get? key

def GuardFiles.lockedAt (s : GuardFiles) (key : BucketKey) (now : Timestamp) : Bool :=
  (s.bucket? key).any (now < ·.lockedUntil)

/-- When a blocked attempt has marked the bucket last. -/
def GuardFiles.markAt (s : GuardFiles) (key : BucketKey) : Option Timestamp :=
  (s.bucket? key).bind (·.lastBlockedEventAt)

/-- The number of failures that locks a scope. -/
def GuardConfig.limitOf (config : GuardConfig) : Scope → ℕ
  | .ip => config.maxFailuresPerIp
  | .credential => config.maxFailuresPerCredential

section
variable (config : GuardConfig) (lib : Stdlib) (a : Attempt) (c : GuardCall) (s : GuardFiles) (key : BucketKey)

/-- The scopes of an attempt. -/
def attemptKeys : List BucketKey := (scopeSpecs config lib a).map fun spec => lib.bucketKey spec.scope spec.value

/-- The call takes effect: the guard is on, the file can be read, and no I/O error comes before it is replaced. -/
def GuardCall.done : Bool :=
  config.enabled && (c.fault = none || c.fault = some .unsynced) && (s.reload config).isOk

/-- The document that the call puts in the place of the one it has loaded, if any. -/
def GuardCall.body (doc : GuardDoc) : Option GuardDoc :=
  match c.method with
  | .check _ => none
  | .recordFailure a => (recordFailure config lib a c.now doc).2
  | .recordBlocked a => (recordBlocked config lib a c.now doc).2
  | .recordSuccess username =>
    (safeText username 256).bind fun credential => (recordSuccess config lib credential c.now doc).2

/-- The call records a failure of the scope. -/
def GuardCall.fails : Bool :=
  match c.method with
  | .recordFailure a => c.done config s && key ∈ attemptKeys config lib a
  | _ => false

/-- The call records a success of the scope. -/
def GuardCall.succeeds : Bool :=
  match c.method with
  | .recordSuccess username =>
    c.done config s && (safeText username 256).any fun credential => key = lib.bucketKey .credential credential
  | _ => false

/-- The scope becomes locked by the call. -/
def GuardCall.locks : Bool := !s.lockedAt key c.now && (c.run config lib s).2.lockedAt key c.now

/-- The call is a blocked attempt that has marked the scope. -/
def GuardCall.marks : Bool := (c.method matches .recordBlocked _) && (c.run config lib s).2.markAt key = some c.now

/-- The table does not exceed its bound: what the last compaction of a failure finds fits. -/
def GuardCall.WithinLimit : Prop :=
  c.done config s = true → ∀ a doc, c.method = .recordFailure a → s.reload config = .ok doc →
    (liveBuckets config c.now (addFailures config lib c.now (compactBuckets config c.now doc.buckets)
      (scopeSpecs config lib a)).1).size ≤ config.bucketLimit

/-- The ledger of a scope after a call. -/
def KeyLedger.step (L : KeyLedger) : KeyLedger :=
  if c.succeeds config lib s key then .empty
  else if c.fails config lib s key then L.fail config c.now (c.locks config lib s key)
  else if c.marks config lib s key then { L with mark := some c.now }
  else L

end

section
variable {config : GuardConfig} {lib : Stdlib} {a : Attempt} {c : GuardCall} {s : GuardFiles} {key : BucketKey}
  {doc doc' : GuardDoc} {now : Timestamp}

theorem isOk_iff {ε α : Type} {x : Except ε α} : x.isOk = true ↔ ∃ a, x = .ok a := by
  cases x with
  | error e =>
    constructor
    · intro h
      cases h
    · rintro ⟨_, h⟩
      cases h
  | ok a => exact ⟨fun _ => ⟨a, rfl⟩, fun _ => rfl⟩

theorem GuardCall.done_iff : c.done config s = true ↔
    config.enabled = true ∧ (c.fault = none ∨ c.fault = some .unsynced) ∧ ∃ doc, s.reload config = .ok doc := by
  simp only [done, Bool.and_eq_true, Bool.or_eq_true, decide_eq_true_eq, isOk_iff, and_assoc]

theorem GuardCall.fails_eq (hmethod : c.method = .recordFailure a) :
    c.fails config lib s key = (c.done config s && decide (key ∈ attemptKeys config lib a)) := by
  rw [fails, hmethod]

theorem GuardCall.succeeds_eq {username : String} (hmethod : c.method = .recordSuccess username) :
    c.succeeds config lib s key = (c.done config s &&
      (safeText username 256).any fun credential => key = lib.bucketKey .credential credential) := by
  rw [succeeds, hmethod]

theorem GuardCall.body_recordSuccess {username : String} (hmethod : c.method = .recordSuccess username) :
    c.body config lib doc =
      (safeText username 256).bind fun credential => (recordSuccess config lib credential c.now doc).2 := by
  rw [body, hmethod]

theorem GuardFiles.transact_done {α : Type} {fault : Option IoFault} (body : GuardDoc → α × Option GuardDoc)
    (hload : s.reload config = .ok doc) (hfault : fault = none ∨ fault = some .unsynced) :
    (s.transact config fault body).2 = (body doc).2.elim s (GuardFiles.persist config) := by
  unfold transact
  rw [hload]
  rcases hfault with rfl | rfl
  · cases h : body doc with
    | mk a o => cases o <;> simp [h]
  · cases h : body doc with
    | mk a o => cases o <;> simp [h]

/-- A transaction that does not take effect leaves the file. -/
theorem GuardFiles.transact_lost {α : Type} {fault : Option IoFault} (body : GuardDoc → α × Option GuardDoc)
    (h : ¬((fault = none ∨ fault = some .unsynced) ∧ ∃ doc, s.reload config = .ok doc)) :
    (s.transact config fault body).2.file = s.file := by
  rcases s.transact_cases config fault body with he | he | ⟨doc, _, _, hload, _, _, hfault⟩
  · rw [he]
  · rw [he]
  · exact absurd ⟨hfault, doc, hload⟩ h

variable (lib) in
/-- A call that takes effect puts its document in the place of the file, if it makes one. -/
theorem GuardCall.run_done (h : c.done config s = true) : ∃ doc, s.reload config = .ok doc ∧
    (c.run config lib s).2 = (c.body config lib doc).elim s (GuardFiles.persist config) := by
  obtain ⟨henabled, hfault, doc, hload⟩ := done_iff.mp h
  refine ⟨doc, hload, ?_⟩
  unfold GuardCall.run GuardCall.body
  rw [henabled]
  cases c.method with
  | check a =>
    simp only [if_true, Prod.map_snd, id]
    exact GuardFiles.transact_done (IngestAuth.check config lib a c.now) hload hfault
  | recordFailure a =>
    simp only [if_true, Prod.map_snd, id]
    exact GuardFiles.transact_done (recordFailure config lib a c.now) hload hfault
  | recordBlocked a =>
    simp only [if_true, Prod.map_snd, id]
    exact GuardFiles.transact_done (recordBlocked config lib a c.now) hload hfault
  | recordSuccess username =>
    dsimp only
    cases safeText username 256 with
    | none => rfl
    | some credential =>
      simp only [Prod.map_snd, id]
      exact GuardFiles.transact_done (recordSuccess config lib credential c.now) hload hfault

theorem GuardCall.run_lost (h : c.done config s ≠ true) : (c.run config lib s).2.file = s.file := by
  cases henabled : config.enabled with
  | false => rw [run_disabled henabled]
  | true =>
    have hlost : ¬((c.fault = none ∨ c.fault = some .unsynced) ∧ ∃ doc, s.reload config = .ok doc) := fun hboth =>
      h (done_iff.mpr ⟨henabled, hboth⟩)
    unfold GuardCall.run
    rw [henabled]
    cases c.method with
    | check a =>
      simp only [if_true, Prod.map_snd, id]
      exact GuardFiles.transact_lost (IngestAuth.check config lib a c.now) hlost
    | recordFailure a =>
      simp only [if_true, Prod.map_snd, id]
      exact GuardFiles.transact_lost (recordFailure config lib a c.now) hlost
    | recordBlocked a =>
      simp only [if_true, Prod.map_snd, id]
      exact GuardFiles.transact_lost (recordBlocked config lib a c.now) hlost
    | recordSuccess username =>
      dsimp only
      cases safeText username 256 with
      | none => rfl
      | some credential =>
        simp only [Prod.map_snd, id]
        exact GuardFiles.transact_lost (recordSuccess config lib credential c.now) hlost

/-! ### What a call does to a bucket -/

@[simp] theorem GuardDoc.buckets_appendEvent {type : GuardEventType} {payload : EventPayload} :
    (doc.appendEvent config type now payload).buckets = doc.buckets := rfl

theorem GuardFiles.bucket?_persist : (GuardFiles.persist config doc).bucket? key = doc.buckets.get? key :=
  Dict.get?_sort

theorem GuardFiles.bucket?_reload (h : s.reload config = .ok doc) : doc.buckets.get? key = s.bucket? key := by
  unfold reload at h
  unfold bucket?
  split at h
  · rename_i doc₀ hfile
    rw [hfile, ← Except.ok.inj h]
    rfl
  · rename_i hfile
    split at h
    · cases h
    · rw [hfile, ← Except.ok.inj h]
      rfl

theorem GuardFiles.bucket?_of_file {s' : GuardFiles} (h : s'.file = s.file) : s'.bucket? key = s.bucket? key := by
  rw [bucket?, h, bucket?]

theorem get?_liveBuckets {buckets : Buckets} :
    (liveBuckets config now buckets).get? key = compacted config now (buckets.get? key) := by
  rw [liveBuckets, Dict.get?_filter, Dict.get?_mapVal, compacted]

theorem get?_compactBuckets {buckets : Buckets} (h : key ∉ overflow config (liveBuckets config now buckets)) :
    (compactBuckets config now buckets).get? key = compacted config now (buckets.get? key) := by
  rw [compactBuckets, Dict.get?_filter, get?_liveBuckets]
  cases compacted config now (buckets.get? key) with
  | none => rfl
  | some b => rw [Option.filter_some, if_pos (decide_eq_true h)]

theorem get?_addFailure {acc : Buckets × List Scope} {spec : ScopeSpec} :
    (addFailure config lib now acc spec).1.get? key =
      if key = lib.bucketKey spec.scope spec.value then some (failedBucket config now spec.limit (acc.1.get? key))
      else acc.1.get? key := by
  unfold addFailure failedBucket
  by_cases hkey : key = lib.bucketKey spec.scope spec.value
  · subst hkey
    rw [if_pos rfl]
    simp only
    split
    · exact Dict.get?_set_self
    · exact Dict.get?_set_self
  · rw [if_neg hkey]
    simp only
    split
    · exact Dict.get?_set_ne hkey
    · exact Dict.get?_set_ne hkey

/-- Failures of other scopes leave a bucket. -/
theorem get?_failures_other (specs : List ScopeSpec) (acc : Buckets × List Scope)
    (h : key ∉ specs.map fun spec => lib.bucketKey spec.scope spec.value) :
    (specs.foldl (addFailure config lib now) acc).1.get? key = acc.1.get? key := by
  induction specs generalizing acc with
  | nil => rfl
  | cons spec specs ih =>
    rw [List.map_cons, List.mem_cons, not_or] at h
    rw [List.foldl_cons, ih _ h.2, get?_addFailure, if_neg h.1]

/-- An attempt counts as one failure of each of its scopes. -/
theorem get?_failures (specs : List ScopeSpec) (acc : Buckets × List Scope)
    (hnodup : (specs.map fun spec => lib.bucketKey spec.scope spec.value).Nodup) {spec : ScopeSpec} (hspec : spec ∈ specs)
    (hkey : lib.bucketKey spec.scope spec.value = key) :
    (specs.foldl (addFailure config lib now) acc).1.get? key =
      some (failedBucket config now spec.limit (acc.1.get? key)) := by
  induction specs generalizing acc with
  | nil => cases hspec
  | cons first specs ih =>
    rw [List.map_cons, List.nodup_cons] at hnodup
    rw [List.foldl_cons]
    rcases List.mem_cons.mp hspec with rfl | hlater
    · rw [get?_failures_other specs _ (hkey ▸ hnodup.1), get?_addFailure, if_pos hkey.symm]
    · have hne : key ≠ lib.bucketKey first.scope first.value := by
        rintro rfl
        exact hnodup.1 (List.mem_map.mpr ⟨spec, hlater, hkey⟩)
      rw [ih _ hnodup.2 hlater, get?_addFailure, if_neg hne]

variable (config lib a) in
/-- The scopes of an attempt are different ones, each with its own limit. -/
theorem scopeSpecs_spec : ((scopeSpecs config lib a).map (·.scope)).Nodup ∧
    ∀ spec ∈ scopeSpecs config lib a, spec.limit = config.limitOf spec.scope := by
  unfold scopeSpecs
  cases lib.normalizeIp a.sourceIp with
  | none => cases safeText a.username 256 <;> simp [GuardConfig.limitOf]
  | some ip => cases safeText a.username 256 <;> simp [GuardConfig.limitOf]

variable (config lib a) in
theorem attemptKeys_nodup : ((scopeSpecs config lib a).map fun spec => lib.bucketKey spec.scope spec.value).Nodup := by
  have hscopes := (scopeSpecs_spec config lib a).1
  have hscope : (fun spec : ScopeSpec => spec.scope) =
      BucketKey.scope ∘ fun spec => lib.bucketKey spec.scope spec.value := rfl
  rw [hscope, ← List.map_map] at hscopes
  exact hscopes.of_map

/-! ### What a call does to a scope -/

theorem GuardFiles.overflow_reload (hf : s.Fits config) (h : s.reload config = .ok doc) :
    key ∉ overflow config (liveBuckets config now doc.buckets) :=
  notMem_overflow (hf.reload h)

variable (config lib a now doc) in
/-- A failure is always persisted. -/
theorem recordFailure_some : ∃ doc', (recordFailure config lib a now doc).2 = some doc' := by
  unfold recordFailure
  exact ⟨_, rfl⟩

/-- What a failure leaves of a bucket. -/
theorem recordFailure_bucket (hf : s.Fits config) (hload : s.reload config = .ok doc)
    (hlimit : (liveBuckets config now (addFailures config lib now (compactBuckets config now doc.buckets)
      (scopeSpecs config lib a)).1).size ≤ config.bucketLimit)
    (h : (recordFailure config lib a now doc).2 = some doc') :
    doc'.buckets.get? key = compacted config now
      (if key ∈ attemptKeys config lib a then
        some (failedBucket config now (config.limitOf key.scope) (compacted config now (s.bucket? key)))
      else compacted config now (s.bucket? key)) := by
  obtain ⟨d, hd⟩ : ∃ d, (recordFailure config lib a now doc).1 = d := ⟨_, rfl⟩
  have hbuckets := recordFailure_buckets (Prod.ext hd h)
  have hroom : key ∉ overflow config (liveBuckets config now (addFailures config lib now
      (compactBuckets config now doc.buckets) (scopeSpecs config lib a)).1) := by
    rw [overflow, Nat.sub_eq_zero_of_le hlimit]
    exact List.not_mem_nil
  have hcompacted : (compactBuckets config now doc.buckets).get? key = compacted config now (s.bucket? key) := by
    rw [get?_compactBuckets (GuardFiles.overflow_reload hf hload), GuardFiles.bucket?_reload hload]
  have hlimits := (scopeSpecs_spec config lib a).2
  have hfailed : (addFailures config lib now (compactBuckets config now doc.buckets) (scopeSpecs config lib a)).1.get? key =
      if key ∈ attemptKeys config lib a then
        some (failedBucket config now (config.limitOf key.scope) (compacted config now (s.bucket? key)))
      else compacted config now (s.bucket? key) := by
    unfold addFailures attemptKeys
    split
    · rename_i hmem
      obtain ⟨spec, hspec, hkey⟩ := List.mem_map.mp hmem
      have hscope : key.scope = spec.scope := by
        rw [← hkey]
        rfl
      rw [get?_failures _ _ (attemptKeys_nodup config lib a) hspec hkey, hcompacted, hlimits spec hspec, hscope]
    · rename_i hmem
      rw [get?_failures_other _ _ hmem, hcompacted]
  rw [hbuckets, get?_compactBuckets hroom, hfailed]

/-- A scope that a decision names is locked. -/
theorem lockedScopes_spec {buckets : Buckets} {specs : List ScopeSpec} {spec : ScopeSpec}
    (hscopes : (specs.map (·.scope)).Nodup) (hspec : spec ∈ specs)
    (h : spec.scope ∈ (decision config lib now buckets specs).lockedScopes) :
    ∃ b, buckets.get? (lib.bucketKey spec.scope spec.value) = some b ∧ now < b.lockedUntil := by
  obtain ⟨locked, hlocked, hscope⟩ := List.mem_map.mp h
  obtain ⟨spec', hspec', hlock⟩ := List.mem_filterMap.mp hlocked
  obtain ⟨t, ht, rfl⟩ := Option.map_eq_some_iff.mp hlock
  obtain rfl : spec' = spec := List.inj_on_of_nodup_map hscopes hspec' hspec hscope
  obtain ⟨ht, hnow⟩ := Option.filter_eq_some_iff.mp ht
  obtain ⟨b, hb, rfl⟩ := Option.map_eq_some_iff.mp ht
  refine ⟨b, hb, ?_⟩
  rw [decide_eq_true_eq, pruneBucket] at hnow
  split at hnow
  · exact absurd hnow not_lt_bot
  · exact hnow

/-- A blocked attempt that is reported marks scopes that are locked, and whose last mark is old enough. -/
theorem recordBlocked_bucket (hf : s.Fits config) (hload : s.reload config = .ok doc)
    (h : (recordBlocked config lib a now doc).2 = some doc') : ∃ keys : List BucketKey, keys ≠ [] ∧
      (∀ key ∈ keys, key ∈ attemptKeys config lib a ∧ ∃ b ∈ compacted config now (s.bucket? key),
        now < b.lockedUntil ∧ ∀ m ∈ b.lastBlockedEventAt, m + config.blockedEventIntervalSeconds ≤ now) ∧
      ∀ key, doc'.buckets.get? key = (compacted config now (s.bucket? key)).map fun b =>
        if key ∈ keys then { b with lastBlockedEventAt := some now } else b := by
  have hcompacted : ∀ key, (compactBuckets config now doc.buckets).get? key = compacted config now (s.bucket? key) := by
    intro key
    rw [get?_compactBuckets (GuardFiles.overflow_reload hf hload), GuardFiles.bucket?_reload hload]
  unfold recordBlocked at h
  simp only at h
  split at h
  · cases h
  split at h
  · cases h
  rename_i hdue
  refine ⟨(List.filter _ (scopeSpecs config lib a)).map fun spec => lib.bucketKey spec.scope spec.value,
    fun hnil => hdue (List.map_eq_nil_iff.mp hnil), ?_, ?_⟩
  · intro key hkey
    obtain ⟨spec, hspec, rfl⟩ := List.mem_map.mp hkey
    obtain ⟨hmem, hboth⟩ := List.mem_filter.mp hspec
    obtain ⟨hlocked, hlate⟩ := of_decide_eq_true hboth
    refine ⟨List.mem_map_of_mem hmem, ?_⟩
    obtain ⟨b, hb, hlate⟩ := (Option.any_eq_true _ _).mp hlate
    rw [hcompacted] at hb
    refine ⟨b, hb, ?_, ?_⟩
    · obtain ⟨b', hb', hlock⟩ := lockedScopes_spec (scopeSpecs_spec config lib a).1 hmem hlocked
      rw [hcompacted, hb] at hb'
      obtain rfl := Option.some.inj hb'
      exact hlock
    · intro m hm
      rw [hm, Option.getD_some] at hlate
      exact of_decide_eq_true hlate
  · intro key
    rw [← Option.some.inj h, ← hcompacted, GuardDoc.buckets_appendEvent, Dict.get?_mapVal]

/-- A success clears the bucket of its scope. -/
theorem recordSuccess_bucket {credential : String} (hf : s.Fits config) (hload : s.reload config = .ok doc)
    (h : (recordSuccess config lib credential now doc).2 = some doc') :
    doc'.buckets.get? key =
      if key = lib.bucketKey .credential credential then none else compacted config now (s.bucket? key) := by
  have hbuckets := recordSuccess_buckets (u := ()) (Prod.ext rfl h)
  have hroom : key ∉ overflow config (liveBuckets config now (doc.buckets.erase (lib.bucketKey .credential credential))) :=
    notMem_overflow (Dict.size_erase_le.trans (hf.reload hload))
  rw [hbuckets, get?_compactBuckets hroom]
  split
  · rename_i hkey
    rw [hkey, Dict.get?_erase_self]
    rfl
  · rename_i hkey
    rw [Dict.get?_erase_ne hkey, GuardFiles.bucket?_reload hload]

/-- A success persists nothing only if its scope has no bucket. -/
theorem recordSuccess_none {credential : String} (hload : s.reload config = .ok doc)
    (h : (recordSuccess config lib credential now doc).2 = none) :
    s.bucket? (lib.bucketKey .credential credential) = none := by
  unfold recordSuccess at h
  simp only at h
  split at h
  · cases h
  · rename_i hmissing
    rw [← GuardFiles.bucket?_reload hload]
    exact Option.not_isSome_iff_eq_none.mp hmissing

/-! ### What a call does to a ledger -/

variable {L : KeyLedger} {last : Timestamp}

/-- A call that is neither a success nor a failure of the scope. -/
theorem Tracks.idle (h : Tracks config last L ((c.run config lib s).2.bucket? key))
    (hsucceeds : c.succeeds config lib s key = false) (hfails : c.fails config lib s key = false) :
    Tracks config last (L.step config lib c s key) ((c.run config lib s).2.bucket? key) := by
  unfold KeyLedger.step
  rw [hsucceeds, hfails]
  simp only [Bool.false_eq_true, if_false]
  split
  · rename_i hmarks
    rw [GuardCall.marks, Bool.and_eq_true] at hmarks
    exact h.remark (of_decide_eq_true hmarks.2)
  · exact h

/-- A call that does not take effect. -/
theorem Tracks.lost (h : Tracks config last L (s.bucket? key)) (hdone : c.done config s ≠ true) :
    Tracks config last (L.step config lib c s key) ((c.run config lib s).2.bucket? key) := by
  have hoff : c.done config s = false := eq_false_of_ne_true hdone
  refine idle ?_ ?_ ?_
  · rw [GuardFiles.bucket?_of_file (GuardCall.run_lost hdone)]
    exact h
  · unfold GuardCall.succeeds
    rw [hoff]
    cases c.method <;> rfl
  · unfold GuardCall.fails
    rw [hoff]
    cases c.method <;> rfl

/-- The bucket of a scope after a failure of the scope. -/
theorem GuardCall.run_fails (hf : s.Fits config) (hlimit : c.WithinLimit config lib s)
    (h : c.fails config lib s key = true) : (c.run config lib s).2.bucket? key = compacted config c.now
      (some (failedBucket config c.now (config.limitOf key.scope) (compacted config c.now (s.bucket? key)))) := by
  unfold fails at h
  split at h
  · rename_i a hmethod
    rw [Bool.and_eq_true, decide_eq_true_eq] at h
    obtain ⟨doc, hload, hrun⟩ := run_done lib h.1
    have hbody : c.body config lib doc = (recordFailure config lib a c.now doc).2 := by rw [body, hmethod]
    obtain ⟨doc', hdoc'⟩ := recordFailure_some config lib a doc c.now
    rw [hrun, hbody, hdoc', Option.elim_some, GuardFiles.bucket?_persist,
      recordFailure_bucket hf hload (hlimit h.1 a doc hmethod hload) hdoc', if_pos h.2]
  · cases h

/-- **What a failure does to its scope.** It locks a scope that is not locked just if enough failures count. -/
theorem Tracks.run_fails (h : Tracks config c.now L (s.bucket? key)) (hlockout : 0 < config.lockoutSeconds)
    (hf : s.Fits config) (hlimit : c.WithinLimit config lib s) (hfails : c.fails config lib s key = true) :
    c.locks config lib s key =
        (!s.lockedAt key c.now && decide (config.limitOf key.scope ≤ (L.counted config c.now).length + 1)) ∧
      Tracks config c.now (L.fail config c.now (c.locks config lib s key)) ((c.run config lib s).2.bucket? key) := by
  obtain ⟨hcompacted, hended⟩ := h.compact le_rfl
  obtain ⟨hafter, htracks⟩ := hcompacted.fail (config.limitOf key.scope) hended hlockout
  have hlocks : c.locks config lib s key = (!(compacted config c.now (s.bucket? key)).any (c.now < ·.lockedUntil) &&
      decide (c.now <
        (failedBucket config c.now (config.limitOf key.scope) (compacted config c.now (s.bucket? key))).lockedUntil)) := by
    rw [GuardCall.locks, GuardFiles.lockedAt, GuardFiles.lockedAt, GuardCall.run_fails hf hlimit hfails, compacted_any config,
      compacted_any config, Option.any_some]
  have hbefore : (compacted config c.now (s.bucket? key)).any (c.now < ·.lockedUntil) = s.lockedAt key c.now := compacted_any config
  constructor
  · rw [hlocks, hafter, hbefore]
    cases s.lockedAt key c.now <;> simp
  · rw [GuardCall.run_fails hf hlimit hfails, hlocks]
    exact (htracks.compact le_rfl).1

/-- One call keeps the bucket of a scope in step with its ledger. -/
theorem Tracks.run (h : Tracks config c.now L (s.bucket? key)) (hlockout : 0 < config.lockoutSeconds)
    (hf : s.Fits config) (hlimit : c.WithinLimit config lib s) :
    Tracks config c.now (L.step config lib c s key) ((c.run config lib s).2.bucket? key) := by
  by_cases hdone : c.done config s = true
  swap
  · exact h.lost hdone
  cases hfails : c.fails config lib s key with
  | true =>
    have hsucceeds : c.succeeds config lib s key = false := by
      unfold GuardCall.fails at hfails
      unfold GuardCall.succeeds
      cases hmethod : c.method with
      | recordSuccess username =>
        rw [hmethod] at hfails
        cases hfails
      | check a => rfl
      | recordFailure a => rfl
      | recordBlocked a => rfl
    rw [KeyLedger.step, hsucceeds, hfails, if_neg Bool.false_ne_true, if_pos rfl]
    exact (h.run_fails hlockout hf hlimit hfails).2
  | false =>
    obtain ⟨doc, hload, hrun⟩ := GuardCall.run_done lib hdone
    cases hmethod : c.method with
    | check a =>
      have hbody : c.body config lib doc = none := by rw [GuardCall.body, hmethod]
      refine idle ?_ (by rw [GuardCall.succeeds, hmethod]) hfails
      rw [hrun, hbody]
      exact h
    | recordFailure a =>
      have hbody : c.body config lib doc = (recordFailure config lib a c.now doc).2 := by rw [GuardCall.body, hmethod]
      obtain ⟨doc', hdoc'⟩ := recordFailure_some config lib a doc c.now
      have hother : key ∉ attemptKeys config lib a := by
        intro hkey
        rw [GuardCall.fails_eq hmethod, hdone, decide_eq_true hkey] at hfails
        cases hfails
      refine idle ?_ (by rw [GuardCall.succeeds, hmethod]) hfails
      rw [hrun, hbody, hdoc', Option.elim_some, GuardFiles.bucket?_persist,
        recordFailure_bucket hf hload (hlimit hdone a doc hmethod hload) hdoc', if_neg hother]
      exact ((h.compact le_rfl).1.compact le_rfl).1
    | recordBlocked a =>
      have hbody : c.body config lib doc = (recordBlocked config lib a c.now doc).2 := by rw [GuardCall.body, hmethod]
      have hsucceeds : c.succeeds config lib s key = false := by rw [GuardCall.succeeds, hmethod]
      cases hdoc' : (recordBlocked config lib a c.now doc).2 with
      | none =>
        refine idle ?_ hsucceeds hfails
        rw [hrun, hbody, hdoc']
        exact h
      | some doc' =>
        obtain ⟨keys, -, hkeys, hget⟩ := recordBlocked_bucket hf hload hdoc'
        have hafter : (c.run config lib s).2.bucket? key = (compacted config c.now (s.bucket? key)).map fun b =>
            if key ∈ keys then { b with lastBlockedEventAt := some c.now } else b := by
          rw [hrun, hbody, hdoc', Option.elim_some, GuardFiles.bucket?_persist, hget]
        have hcompacted := (h.compact le_rfl).1
        by_cases hkey : key ∈ keys
        · obtain ⟨-, b, hb, hlock, -⟩ := hkeys key hkey
          rw [Option.mem_def] at hb
          rw [hb, Option.map_some, if_pos hkey] at hafter
          rw [hb] at hcompacted
          have hmarks : c.marks config lib s key = true := by
            rw [GuardCall.marks, hmethod, GuardFiles.markAt, hafter]
            exact decide_eq_true rfl
          rw [KeyLedger.step, hsucceeds, hfails, hmarks, hafter]
          exact hcompacted.mark hlock
        · refine idle ?_ hsucceeds hfails
          simp only [hkey, if_false, Option.map_id'] at hafter
          rw [hafter]
          exact hcompacted
    | recordSuccess username =>
      cases hcredential : safeText username 256 with
      | none =>
        have hbody : c.body config lib doc = none := by
          rw [GuardCall.body_recordSuccess hmethod, hcredential, Option.bind_none]
        refine idle ?_ ?_ hfails
        · rw [hrun, hbody]
          exact h
        · rw [GuardCall.succeeds_eq hmethod, hcredential, Option.any_none, Bool.and_false]
      | some credential =>
        have hbody : c.body config lib doc = (recordSuccess config lib credential c.now doc).2 := by
          rw [GuardCall.body_recordSuccess hmethod, hcredential, Option.bind_some]
        have hsucceeds : c.succeeds config lib s key = decide (key = lib.bucketKey .credential credential) := by
          rw [GuardCall.succeeds_eq hmethod, hcredential, hdone, Option.any_some, Bool.true_and]
        by_cases hkey : key = lib.bucketKey .credential credential
        · have hafter : (c.run config lib s).2.bucket? key = none := by
            rw [hrun, hbody]
            cases hdoc' : (recordSuccess config lib credential c.now doc).2 with
            | none => rw [Option.elim_none, hkey, recordSuccess_none hload hdoc']
            | some doc' =>
              rw [Option.elim_some, GuardFiles.bucket?_persist, recordSuccess_bucket hf hload hdoc', if_pos hkey]
          rw [KeyLedger.step, hsucceeds, decide_eq_true hkey, if_pos rfl, hafter]
          exact tracks_empty
        · refine idle ?_ (hsucceeds.trans (decide_eq_false hkey)) hfails
          rw [hrun, hbody]
          cases hdoc' : (recordSuccess config lib credential c.now doc).2 with
          | none => exact h
          | some doc' =>
            rw [Option.elim_some, GuardFiles.bucket?_persist, recordSuccess_bucket hf hload hdoc', if_neg hkey]
            exact (h.compact le_rfl).1

end

/-! ### Events -/

/-- What the file says, or the state it starts from. -/
def GuardFiles.contents (s : GuardFiles) : GuardDoc := s.file.getD .initial

/-- The events of a document that comes after another one: some of its events, and new ones of the types `φ` with
    later sequence numbers. -/
structure GuardDoc.Extends (φ : GuardEventType → Prop) (doc doc' : GuardDoc) : Prop where
  next_le : doc.nextSequence ≤ doc'.nextSequence
  added : ∀ e ∈ doc'.events, e ∈ doc.events ∨ doc.nextSequence ≤ e.sequence ∧ φ e.type
  ordered : doc.events.Pairwise (·.sequence < ·.sequence) → doc'.events.Pairwise (·.sequence < ·.sequence)

/-- A blocked attempt of the call is reported. -/
def GuardCall.Reports (config : GuardConfig) (lib : Stdlib) (c : GuardCall) (s : GuardFiles) : Prop :=
  ∃ a doc doc', c.method = .recordBlocked a ∧ s.reload config = .ok doc ∧
    (recordBlocked config lib a c.now doc).2 = some doc' ∧ (c.run config lib s).2 = .persist config doc'

section
variable {config : GuardConfig} {lib : Stdlib} {c : GuardCall} {s : GuardFiles} {doc doc' doc'' : GuardDoc}
  {now : Timestamp} {φ ψ : GuardEventType → Prop}

namespace GuardDoc.Extends

theorem trans (h : doc.Extends φ doc') (h' : doc'.Extends φ doc'') : doc.Extends φ doc'' where
  next_le := h.next_le.trans h'.next_le
  added := by
    intro e he
    rcases h'.added e he with he | ⟨hnext, hφ⟩
    · exact h.added e he
    · exact Or.inr ⟨h.next_le.trans hnext, hφ⟩
  ordered := fun hordered => h'.ordered (h.ordered hordered)

theorem mono (h : doc.Extends φ doc') (hφ : ∀ type, φ type → ψ type) : doc.Extends ψ doc' where
  next_le := h.next_le
  added := fun e he => (h.added e he).imp_right fun hnew => ⟨hnew.1, hφ _ hnew.2⟩
  ordered := h.ordered

theorem append (config : GuardConfig) (doc : GuardDoc) {type : GuardEventType} (now : Timestamp) (payload : EventPayload)
    (hφ : φ type) : doc.Extends φ (doc.appendEvent config type now payload) where
  next_le := Nat.le_succ _
  added := by
    intro e he
    rcases List.mem_append.mp ((lastItems_sublist _ _).mem he) with he | he
    · exact Or.inl he
    · obtain rfl := List.mem_singleton.mp he
      exact Or.inr ⟨le_rfl, hφ⟩
  ordered := by
    intro h
    refine List.Pairwise.sublist (lastItems_sublist _ _) (List.pairwise_append.mpr ⟨h, List.pairwise_singleton _ _, ?_⟩)
    intro e he e' he'
    obtain rfl := List.mem_singleton.mp he'
    exact (doc.sequenced e he).2

end GuardDoc.Extends

/-- A reported attempt marks a locked scope whose last mark is old enough. -/
theorem GuardCall.Reports.marks (h : c.Reports config lib s) (hf : s.Fits config) {ledger : BucketKey → KeyLedger}
    (htracks : ∀ key, Tracks config c.now (ledger key) (s.bucket? key)) :
    ∃ a, c.method = .recordBlocked a ∧ ∃ key ∈ attemptKeys config lib a, s.lockedAt key c.now ∧
      (c.run config lib s).2.markAt key = some c.now ∧
        ∀ m ∈ (ledger key).mark, m + config.blockedEventIntervalSeconds ≤ c.now := by
  obtain ⟨a, doc, doc', hmethod, hload, hdoc', hrun⟩ := h
  obtain ⟨keys, hne, hkeys, hget⟩ := recordBlocked_bucket hf hload hdoc'
  obtain ⟨key, hkey⟩ := List.exists_mem_of_ne_nil keys hne
  obtain ⟨hattempt, b, hb, hlock, hdue⟩ := hkeys key hkey
  rw [Option.mem_def] at hb
  have hcompacted := ((htracks key).compact le_rfl).1
  rw [hb] at hcompacted
  refine ⟨a, hmethod, key, hattempt, ?_, ?_, ?_⟩
  · rw [GuardFiles.lockedAt, ← compacted_any config, hb]
    exact decide_eq_true hlock
  · rw [hrun, GuardFiles.markAt, GuardFiles.bucket?_persist, hget, hb, Option.map_some, if_pos hkey]
    rfl
  · rw [← hcompacted.mark_eq hlock]
    exact hdue

end

/-! ### Runs -/

section
variable {config : GuardConfig} {lib : Stdlib} {calls before between : List GuardCall} {c : GuardCall} {key : BucketKey}
  {last : Timestamp}

end

/-! ### Sample -/

namespace Sample

def first : GuardCall := failure "198.51.100.1" "victim" 1

def second : GuardCall := failure "198.51.100.2" "victim" 61

end Sample

end IRLight.IngestAuth
