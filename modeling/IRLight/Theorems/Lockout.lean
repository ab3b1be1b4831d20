import IRLight.IngestAuth.Guard
import Mathlib.Data.List.Induction

/-! # Lockouts

A lock on a scope ends when its time has come, or when a success clears the scope's credential bucket. The
table of buckets is bounded, and a failure may make the guard drop the buckets seen least recently, locked ones
among them. While no locked bucket is dropped so, every check that involves the scope is blocked until the lock
ends. -/

namespace IRLight.IngestAuth

/-! ### Buckets -/

section
variable {config : GuardConfig} {lib : Stdlib} {now : Timestamp} {buckets : Buckets} {key : BucketKey} {b : Bucket}

theorem lockedUntil_pruneBucket (h : now < b.lockedUntil) : (pruneBucket config now b).lockedUntil = b.lockedUntil := by
  unfold pruneBucket
  rw [if_neg fun hc => absurd h (not_lt.mpr hc.2)]

/-- Pruning a bucket again at the same time changes nothing. -/
theorem pruneBucket_pruneBucket : pruneBucket config now (pruneBucket config now b) = pruneBucket config now b := by
  unfold pruneBucket
  by_cases h : 0 < b.lockedUntil ∧ b.lockedUntil ≤ now <;> simp [h]

theorem get?_liveBuckets_locked (hb : buckets.get? key = some b) (h : now < b.lockedUntil) :
    (liveBuckets config now buckets).get? key = some (pruneBucket config now b) := by
  have hne : (pruneBucket config now b).lockedUntil ≠ 0 := by
    rw [lockedUntil_pruneBucket h]
    exact (bot_le.trans_lt h).ne'
  rw [liveBuckets, Dict.get?_filter, Dict.get?_mapVal, hb]
  simp [hne]

theorem get?_compactBuckets_locked (hb : buckets.get? key = some b) (h : now < b.lockedUntil)
    (hkept : key ∉ overflow config (liveBuckets config now buckets)) :
    (compactBuckets config now buckets).get? key = some (pruneBucket config now b) := by
  rw [compactBuckets, Dict.get?_filter, get?_liveBuckets_locked hb h]
  simp [hkept]

theorem size_liveBuckets_le : (liveBuckets config now buckets).size ≤ buckets.size :=
  Dict.size_filter_le.trans Dict.size_mapVal.le

/-- Compaction makes the table fit. -/
theorem size_compactBuckets_le : (compactBuckets config now buckets).size ≤ config.bucketLimit := by
  rw [compactBuckets, overflow, Dict.size_filter_notMem_take]
  omega

/-- In a table that fits nothing is dropped. -/
theorem notMem_overflow (h : buckets.size ≤ config.bucketLimit) :
    key ∉ overflow config (liveBuckets config now buckets) := by
  rw [overflow, Nat.sub_eq_zero_of_le (size_liveBuckets_le.trans h)]
  exact List.not_mem_nil

/-- A failure keeps the end of a lock that has not ended, and moves no other scope's. -/
theorem addFailure_locked (config : GuardConfig) (lib : Stdlib) {acc : Buckets × List Scope} (spec : ScopeSpec) (hb : acc.1.get? key = some b)
    (h : now < b.lockedUntil) :
    ∃ b', (addFailure config lib now acc spec).1.get? key = some b' ∧ b'.lockedUntil = b.lockedUntil := by
  unfold addFailure
  by_cases hkey : key = lib.bucketKey spec.scope spec.value
  · subst hkey
    have hlocked : now < (pruneBucket config now b).lockedUntil := by rwa [lockedUntil_pruneBucket h]
    simp only [hb, Option.getD_some, hlocked, not_true_eq_false, false_and, if_false]
    exact ⟨_, Dict.get?_set_self, lockedUntil_pruneBucket h⟩
  · simp only
    split
    · exact ⟨b, (Dict.get?_set_ne hkey).trans hb, rfl⟩
    · exact ⟨b, (Dict.get?_set_ne hkey).trans hb, rfl⟩

theorem addFailures_locked (specs : List ScopeSpec) (hb : buckets.get? key = some b) (h : now < b.lockedUntil) :
    ∃ b', (addFailures config lib now buckets specs).1.get? key = some b' ∧ b'.lockedUntil = b.lockedUntil := by
  unfold addFailures
  generalize ([] : List Scope) = scopes
  induction specs generalizing buckets scopes b with
  | nil => exact ⟨b, hb, rfl⟩
  | cons spec specs ih =>
    obtain ⟨b₁, hb₁, h₁⟩ : ∃ b', (addFailure config lib now (buckets, scopes) spec).1.get? key = some b' ∧
        b'.lockedUntil = b.lockedUntil := addFailure_locked config lib spec hb h
    obtain ⟨b₂, hb₂, h₂⟩ := ih hb₁ (h.trans_eq h₁.symm) _
    exact ⟨b₂, hb₂, h₂.trans h₁⟩

/-- An attempt that involves a locked scope is blocked. -/
theorem decision_blocked (config : GuardConfig) {specs : List ScopeSpec} {spec : ScopeSpec} (hspec : spec ∈ specs)
    (hb : buckets.get? (lib.bucketKey spec.scope spec.value) = some b) (h : now < b.lockedUntil) :
    (decision config lib now buckets specs).blocked ∧ spec.scope ∈ (decision config lib now buckets specs).lockedScopes := by
  have hlock : lockOf config lib now buckets spec = some b.lockedUntil := by
    rw [lockOf, hb, Option.map_some, lockedUntil_pruneBucket h]
    simp [h]
  have hmem : (spec.scope, b.lockedUntil) ∈
      specs.filterMap fun spec => (lockOf config lib now buckets spec).map fun t => (spec.scope, t) :=
    List.mem_filterMap.mpr ⟨spec, hspec, by rw [hlock]; rfl⟩
  exact ⟨decide_eq_true (List.ne_nil_of_mem hmem), List.mem_map_of_mem hmem⟩

end

/-! ### Files -/

/-- The scope of the bucket is locked until then. -/
def GuardFiles.Locked (s : GuardFiles) (key : BucketKey) (till : Timestamp) : Prop :=
  ∃ doc b, s.file = some doc ∧ doc.buckets.get? key = some b ∧ b.lockedUntil = till

/-- The table in the file fits. -/
def GuardFiles.Fits (config : GuardConfig) (s : GuardFiles) : Prop :=
  ∀ doc, s.file = some doc → doc.buckets.size ≤ config.bucketLimit

/-- The call is a success that clears the bucket. -/
def GuardCall.Clears (lib : Stdlib) (c : GuardCall) (key : BucketKey) : Prop :=
  ∃ username credential, c.method = .recordSuccess username ∧ safeText username 256 = some credential ∧
    key = lib.bucketKey .credential credential ∧ (c.fault = none ∨ c.fault = some .unsynced)

/-- If the call is a failure, then of the buckets that its last compaction drops because the table is full none is
    locked. -/
def GuardCall.Spares (config : GuardConfig) (lib : Stdlib) (c : GuardCall) (s : GuardFiles) : Prop :=
  ∀ a doc, c.method = .recordFailure a → s.file = some doc →
    let buckets := (addFailures config lib c.now (compactBuckets config c.now doc.buckets) (scopeSpecs config lib a)).1
    ∀ key ∈ overflow config (liveBuckets config c.now buckets), ∀ b, doc.buckets.get? key = some b →
      b.lockedUntil ≤ c.now

section
variable {config : GuardConfig} {lib : Stdlib} {s : GuardFiles} {c : GuardCall} {key : BucketKey} {till : Timestamp}

/-- What a method does to the files: nothing, arm the marker, or replace the file with the document it made. -/
theorem GuardFiles.transact_cases (s : GuardFiles) (config : GuardConfig) {α : Type} (fault : Option IoFault)
    (body : GuardDoc → α × Option GuardDoc) :
    (s.transact config fault body).2 = s ∨ (s.transact config fault body).2 = { s with initialized := true } ∨
      ∃ doc a doc', s.reload config = .ok doc ∧ body doc = (a, some doc') ∧
        (s.transact config fault body).2 = .persist config doc' ∧ (fault = none ∨ fault = some .unsynced) := by
  unfold transact
  split
  · exact .inl rfl
  · exact .inl rfl
  · exact .inl rfl
  · rename_i doc _ _ hload
    split
    · exact .inl rfl
    · exact .inr (.inr ⟨doc, _, _, hload, ‹_›, rfl, .inl rfl⟩)
    · exact .inr (.inl rfl)
    · exact .inr (.inr ⟨doc, _, _, hload, ‹_›, rfl, .inr rfl⟩)
    · exact .inl rfl

/-- A method that persists nothing gives its answer, or an I/O error. -/
theorem GuardFiles.transact_readOnly {α : Type} (fault : Option IoFault) {body : GuardDoc → α × Option GuardDoc}
    {doc : GuardDoc} {a : α} (hload : s.reload config = .ok doc) (hbody : body doc = (a, none)) :
    (fault = none → (s.transact config fault body).1 = .ok a) ∧
      ∀ a', (s.transact config fault body).1 = .ok a' → a' = a := by
  unfold transact
  rw [hload]
  constructor
  · rintro rfl
    simp only [hbody]
  · intro a' h
    split at h
    · cases h
    · cases h
    · cases h
    · rename_i doc' _ _ heq
      obtain rfl := Except.ok.inj heq
      rw [hbody] at h
      exact (Except.ok.inj h).symm

@[simp] theorem GuardDoc.buckets_trimEvents {doc : GuardDoc} : (doc.trimEvents config).buckets = doc.buckets := rfl

theorem GuardFiles.reload_of_file {doc : GuardDoc} (h : s.file = some doc) :
    s.reload config = .ok (doc.trimEvents config) := by
  rw [reload, h]

/-- The buckets of a loaded document are those of the file, or there are none yet. -/
theorem GuardFiles.reload_buckets {doc : GuardDoc} (h : s.reload config = .ok doc) :
    (∃ doc₀, s.file = some doc₀ ∧ doc.buckets = doc₀.buckets) ∨ doc.buckets = .empty := by
  unfold reload at h
  split at h
  · rename_i doc₀ hfile
    exact .inl ⟨doc₀, hfile, by rw [← Except.ok.inj h]; rfl⟩
  · split at h
    · cases h
    · rw [← Except.ok.inj h]
      exact .inr rfl

theorem GuardFiles.Locked.persist {doc : GuardDoc} {b : Bucket} (hb : doc.buckets.get? key = some b)
    (h : b.lockedUntil = till) : (GuardFiles.persist config doc).Locked key till :=
  ⟨_, b, rfl, by rw [Dict.get?_sort]; exact hb, h⟩

theorem GuardFiles.Fits.persist {doc : GuardDoc} (h : doc.buckets.size ≤ config.bucketLimit) :
    (GuardFiles.persist config doc).Fits config := by
  rintro doc' ⟨⟩
  rw [Dict.size_sort]
  exact h

/-- The table of a loaded document fits, and compaction drops nothing of it but what has run out. -/
theorem GuardFiles.Fits.reload (hf : s.Fits config) {doc : GuardDoc} (h : s.reload config = .ok doc) :
    doc.buckets.size ≤ config.bucketLimit := by
  rcases reload_buckets h with ⟨doc₀, hfile, he⟩ | he
  · rw [he]
    exact hf doc₀ hfile
  · rw [he]
    exact Nat.zero_le _

/-- A transaction that leaves the table in the file as a compaction would keeps it fit. -/
theorem GuardFiles.Fits.transact (hf : s.Fits config) {α : Type} {fault : Option IoFault}
    {body : GuardDoc → α × Option GuardDoc}
    (h : ∀ doc a doc', body doc = (a, some doc') → doc'.buckets.size ≤ config.bucketLimit) :
    (s.transact config fault body).2.Fits config := by
  rcases transact_cases s config fault body with he | he | ⟨doc, a, doc', -, hb, he, -⟩
  · rw [he]
    exact hf
  · rw [he]
    exact hf
  · rw [he]
    exact .persist (h doc a doc' hb)

/-- A transaction that keeps the lock in the document it makes keeps it in the file. -/
theorem GuardFiles.Locked.transact (hl : s.Locked key till) {α : Type} {fault : Option IoFault}
    {body : GuardDoc → α × Option GuardDoc}
    (h : ∀ doc b a doc', s.file = some doc → doc.buckets.get? key = some b → b.lockedUntil = till →
      body (doc.trimEvents config) = (a, some doc') → (fault = none ∨ fault = some .unsynced) →
        ∃ b', doc'.buckets.get? key = some b' ∧ b'.lockedUntil = till) :
    (s.transact config fault body).2.Locked key till := by
  rcases transact_cases s config fault body with
    he | he | ⟨doc, a, doc', hload, hb, he, hfault⟩
  · rw [he]
    exact hl
  · rw [he]
    exact hl
  · obtain ⟨doc₀, b, hfile, hget, htill⟩ := hl
    obtain rfl := Except.ok.inj ((reload_of_file hfile).symm.trans hload)
    obtain ⟨b', hget', htill'⟩ := h doc₀ b a doc' hfile hget htill hb hfault
    rw [he]
    exact .persist hget' htill'

/-! ### Calls -/

variable {a : Attempt} {doc doc' : GuardDoc} {now : Timestamp} {d : Decision}

/-- A check persists nothing. -/
theorem check_ne : check config lib a now doc ≠ (d, some doc') := fun h => by
  cases (Prod.ext_iff.mp h).2

theorem recordFailure_buckets (h : recordFailure config lib a now doc = (d, some doc')) :
    doc'.buckets = compactBuckets config now
      (addFailures config lib now (compactBuckets config now doc.buckets) (scopeSpecs config lib a)).1 := by
  unfold recordFailure at h
  have hdoc := Option.some.inj (Prod.ext_iff.mp h).2
  rw [← hdoc]
  split <;> rfl

theorem recordBlocked_buckets (h : recordBlocked config lib a now doc = (d, some doc')) :
    ∃ keys : List BucketKey, doc'.buckets = (compactBuckets config now doc.buckets).mapVal fun key b =>
      if key ∈ keys then { b with lastBlockedEventAt := some now } else b := by
  unfold recordBlocked at h
  simp only at h
  split at h
  · cases (Prod.ext_iff.mp h).2
  · split at h
    · cases (Prod.ext_iff.mp h).2
    · have hdoc := Option.some.inj (Prod.ext_iff.mp h).2
      exact ⟨_, by rw [← hdoc]; rfl⟩

theorem recordSuccess_buckets {credential : String} {u : Unit}
    (h : recordSuccess config lib credential now doc = (u, some doc')) :
    doc'.buckets = compactBuckets config now (doc.buckets.erase (lib.bucketKey .credential credential)) := by
  unfold recordSuccess at h
  have hdoc := (Prod.ext_iff.mp h).2
  simp only at hdoc
  split at hdoc
  · rw [← Option.some.inj hdoc]
  · cases hdoc

/-- Every call leaves a table that fits. -/
theorem GuardFiles.Fits.run (hf : s.Fits config) : (c.run config lib s).2.Fits config := by
  unfold GuardCall.run
  split
  · split
    · rw [Prod.map_snd]
      exact hf.transact fun doc d doc' h => absurd h check_ne
    · exact hf
  · split
    · rw [Prod.map_snd]
      refine hf.transact fun doc d doc' h => ?_
      rw [recordFailure_buckets h]
      exact size_compactBuckets_le
    · exact hf
  · split
    · rw [Prod.map_snd]
      refine hf.transact fun doc d doc' h => ?_
      obtain ⟨keys, hk⟩ := recordBlocked_buckets h
      rw [hk, Dict.size_mapVal]
      exact size_compactBuckets_le
    · exact hf
  · split
    · rw [Prod.map_snd]
      refine hf.transact fun doc u doc' h => ?_
      rw [recordSuccess_buckets h]
      exact size_compactBuckets_le
    · exact hf

/-- A call before the end of a lock keeps it, unless it clears the bucket or drops it from a full table. -/
theorem GuardFiles.Locked.run (hl : s.Locked key till) (hf : s.Fits config) (hnow : c.now < till)
    (hspares : c.Spares config lib s) (hclears : ¬c.Clears lib key) : (c.run config lib s).2.Locked key till := by
  have hkept : ∀ {doc b}, s.file = some doc → doc.buckets.get? key = some b → b.lockedUntil = till →
      (compactBuckets config c.now doc.buckets).get? key = some (pruneBucket config c.now b) := by
    intro doc b hfile hb htill
    exact get?_compactBuckets_locked hb (hnow.trans_eq htill.symm) (notMem_overflow (hf doc hfile))
  have hpruned : ∀ {b : Bucket}, b.lockedUntil = till → (pruneBucket config c.now b).lockedUntil = till := by
    intro b htill
    rw [lockedUntil_pruneBucket (hnow.trans_eq htill.symm), htill]
  unfold GuardCall.run
  split
  · split
    · rw [Prod.map_snd]
      exact hl.transact fun doc b d doc' _ _ _ h => absurd h check_ne
    · exact hl
  · rename_i a hmethod
    split
    · rw [Prod.map_snd]
      refine hl.transact fun doc b d doc' hfile hb htill h _ => ?_
      rw [recordFailure_buckets h, GuardDoc.buckets_trimEvents]
      obtain ⟨b', hb', h'⟩ := addFailures_locked (scopeSpecs config lib a) (hkept hfile hb htill)
        (hnow.trans_eq (hpruned htill).symm)
      have htill' : b'.lockedUntil = till := h'.trans (hpruned htill)
      refine ⟨_, get?_compactBuckets_locked hb' (hnow.trans_eq htill'.symm) fun hdrop => ?_, hpruned htill'⟩
      exact absurd (hspares a doc hmethod hfile key hdrop b hb) (not_le.mpr (hnow.trans_eq htill.symm))
    · exact hl
  · split
    · rw [Prod.map_snd]
      refine hl.transact fun doc b d doc' hfile hb htill h _ => ?_
      obtain ⟨keys, hk⟩ := recordBlocked_buckets h
      rw [hk, GuardDoc.buckets_trimEvents, Dict.get?_mapVal, hkept hfile hb htill]
      refine ⟨_, rfl, ?_⟩
      split <;> exact hpruned htill
    · exact hl
  · rename_i username hmethod
    split
    · rename_i credential _ hcredential
      rw [Prod.map_snd]
      refine hl.transact fun doc b u doc' hfile hb htill h hfault => ?_
      have hne : key ≠ lib.bucketKey .credential credential :=
        fun hkey => hclears ⟨username, credential, hmethod, hcredential, hkey, hfault⟩
      rw [recordSuccess_buckets h, GuardDoc.buckets_trimEvents]
      refine ⟨_, get?_compactBuckets_locked ((Dict.get?_erase_ne hne).trans hb) (hnow.trans_eq htill.symm) ?_, hpruned htill⟩
      exact notMem_overflow (Dict.size_erase_le.trans (hf doc hfile))
    · exact hl

/-- A guard that is switched off touches no file. -/
theorem run_disabled (h : config.enabled = false) : (c.run config lib s).2 = s := by
  unfold GuardCall.run
  rw [h]
  split <;> rfl

/-- The call is a check of an attempt that involves the bucket. -/
def GuardCall.Checks (config : GuardConfig) (lib : Stdlib) (c : GuardCall) (key : BucketKey) : Prop :=
  ∃ a, c.method = .check a ∧ ∃ spec ∈ scopeSpecs config lib a, lib.bucketKey spec.scope spec.value = key

/-- A check that answers finds the lock, and only an I/O error keeps it from answering. -/
theorem GuardFiles.Locked.check (hl : s.Locked key till) (hf : s.Fits config) (henabled : config.enabled)
    (hcheck : c.Checks config lib key) (hnow : c.now < till) :
    (c.fault = none → ∃ o, (c.run config lib s).1 = .ok o) ∧
      ∀ o, (c.run config lib s).1 = .ok o → ∃ d, o = some d ∧ d.blocked ∧ key.scope ∈ d.lockedScopes := by
  obtain ⟨doc, b, hfile, hb, rfl⟩ := hl
  obtain ⟨a, hmethod, spec, hspec, rfl⟩ := hcheck
  have hkept : (compactBuckets config c.now doc.buckets).get? (lib.bucketKey spec.scope spec.value) =
      some (pruneBucket config c.now b) :=
    get?_compactBuckets_locked hb hnow (notMem_overflow (hf doc hfile))
  have hblocked := decision_blocked config hspec hkept (by rwa [lockedUntil_pruneBucket hnow])
  have hrun : (c.run config lib s).1 = (s.transact config c.fault (IngestAuth.check config lib a c.now)).1.map some := by
    unfold GuardCall.run
    rw [hmethod]
    simp only [henabled, if_true]
    rfl
  have hload : s.reload config = .ok (doc.trimEvents config) := reload_of_file hfile
  obtain ⟨hanswers, honly⟩ := transact_readOnly c.fault hload
    (show IngestAuth.check config lib a c.now (doc.trimEvents config) = (_, none) from rfl)
  rw [hrun]
  refine ⟨fun hfault => ⟨_, by rw [hanswers hfault]; rfl⟩, fun o ho => ?_⟩
  cases hres : (s.transact config c.fault (IngestAuth.check config lib a c.now)).1 with
  | error e =>
    rw [hres] at ho
    cases ho
  | ok d =>
    rw [hres] at ho
    obtain rfl := Except.ok.inj ho
    exact ⟨d, rfl, honly d hres ▸ hblocked⟩

end

/-! ### Runs -/

section
variable {config : GuardConfig} {lib : Stdlib} {before between : List GuardCall} {c : GuardCall} {key : BucketKey}
  {till : Timestamp}

theorem runGuard_concat : runGuard config lib (before ++ [c]) = (c.run config lib (runGuard config lib before)).2 := by
  rw [runGuard, List.foldl_append]
  rfl

theorem fits_runGuard : (runGuard config lib before).Fits config := by
  induction before using List.reverseRecOn with
  | nil => exact fun doc h => by cases h
  | append_singleton before c ih =>
    rw [runGuard_concat]
    exact ih.run

theorem enabled_of_locked (h : (runGuard config lib before).Locked key till) : config.enabled = true := by
  by_contra hoff
  have hinitial : runGuard config lib before = .initial := by
    induction before using List.reverseRecOn with
    | nil => rfl
    | append_singleton before c ih =>
      rw [runGuard_concat, run_disabled (by simpa using hoff)]
      refine ih ?_
      rwa [runGuard_concat, run_disabled (by simpa using hoff)] at h
  obtain ⟨doc, -, hfile, -⟩ := h
  rw [hinitial] at hfile
  cases hfile

/-- A lock lasts over every run of calls before its end that neither clear its bucket nor drop it. -/
theorem locked_runGuard (hlocked : (runGuard config lib before).Locked key till)
    (hnow : ∀ q ∈ between, q.now < till)
    (hspares : ∀ p q r, between = p ++ q :: r → q.Spares config lib (runGuard config lib (before ++ p)))
    (hclears : ∀ q ∈ between, ¬q.Clears lib key) : (runGuard config lib (before ++ between)).Locked key till := by
  induction between using List.reverseRecOn with
  | nil => rwa [List.append_nil]
  | append_singleton between c ih =>
    rw [← List.append_assoc, runGuard_concat]
    have hl := ih (fun q hq => hnow q (List.mem_append_left _ hq))
      (fun p q r hpqr => hspares p q (r ++ [c]) (by rw [hpqr, List.append_assoc, List.cons_append]))
      (fun q hq => hclears q (List.mem_append_left _ hq))
    have hc : c ∈ between ++ [c] := List.mem_append_right _ (List.mem_singleton_self c)
    exact hl.run fits_runGuard (hnow c hc) (hspares between c [] rfl) (hclears c hc)

/-- **A lockout holds.** Once a scope is locked until some time, every check before it that involves the scope is
    blocked, unless a success has cleared the bucket in between: as long as no failure makes the guard drop a locked
    bucket from a full table. -/
theorem lockout_holds (config : GuardConfig) (lib : Stdlib)
    (hclock : (before ++ between ++ [c]).Pairwise fun x y => x.now ≤ y.now)
    (hlocked : (runGuard config lib before).Locked key till)
    (hspares : ∀ p q r, between = p ++ q :: r → q.Spares config lib (runGuard config lib (before ++ p)))
    (hclears : ∀ q ∈ between, ¬q.Clears lib key)
    (hcheck : c.Checks config lib key) (hnow : c.now < till) :
    let answer := (c.run config lib (runGuard config lib (before ++ between))).1
    (c.fault = none → ∃ o, answer = .ok o) ∧
      ∀ o, answer = .ok o → ∃ d, o = some d ∧ d.blocked ∧ key.scope ∈ d.lockedScopes := by
  have hearlier : ∀ q ∈ between, q.now < till := fun q hq =>
    ((List.pairwise_append.mp hclock).2.2 q (List.mem_append_right _ hq) c (List.mem_singleton_self c)).trans_lt hnow
  exact (locked_runGuard hlocked hearlier hspares hclears).check fits_runGuard (enabled_of_locked hlocked) hcheck hnow

end

/-! ### Samples -/

namespace Sample

/-- The SHA-256 digests of the addresses and user names of the runs below. -/
def digests : List (String × BitVec 256) :=
  [ ("198.51.100.1", 0x7f60d869b36f6e64c0c99395754c14658bc62173eadceb489ea008ddfe76398d),
    ("198.51.100.2", 0x8c9bbd8a13b8a1f9016d2b64ef226bfdca4945918f299b5a34141013b8ae8ecc),
    ("victim", 0x1bdd5b5b92e2d9f30a3b223bb359551d0da20e3702923e5f7b0a73889eba3d21),
    ("203.0.113.1", 0xa1ceb3dc7b127ea22d04f67b50908245930cfa9a3f91e1d38c0b266c44669ee7),
    ("203.0.113.2", 0xcdd7d717470134c78ea853e0b26db3e23bbe3baf492793b87f6d457c8a8eebc0),
    ("203.0.113.3", 0x8a41be1b9384df10fe153ecb37c4cccec16c29e84a26a029b58d18b2a7727397),
    ("203.0.113.4", 0x5aa23fc6904a74c72a2a2a9067fc55d767282046799c2e98a281bb73575ce65d),
    ("203.0.113.5", 0x440a628a0c975ea32d4db42ca94acebc975ab378b3ee2a692ccf2ecae6038bbd),
    ("203.0.113.6", 0x67c29aecb747836784e2af72a780064f07939731f113d0811937141f4e1f0cf5),
    ("203.0.113.7", 0xfec52565aa0cf18f57d7cf5b3ac728503b8992d2d6f7d46da1d1201090902b02),
    ("203.0.113.8", 0xddbea5471056690e5b1dcfe0c39ffca2f91ee81710048d066e2d53c7d012e14e),
    ("203.0.113.9", 0xd861b7e91033ebc1c1e8e7af3929010158b3241b54ca87ef73e79c32f26400ec),
    ("203.0.113.10", 0x631f08140b24b7274d12df3c37a1a80ce5876dafd7007d772e0114fddf88b682),
    ("203.0.113.11", 0x16306f61c07cc133da797ce470862b04babdd133778e375f3d7ffc0c09e79f41),
    ("203.0.113.12", 0xa9fcca236a6b9f61c542d12a29084c62c775cc1532a34885627c82dc9adcb0fc),
    ("203.0.113.13", 0x10dc059b817ed16937d8381e8d1728ee9777139388ab21c7a2afbf6e01bb9ba8),
    ("203.0.113.14", 0x230ef0fb721eaba078f3d0a123bb5ffa067384fbe4a2c42edb2a2dd3e0a2f853),
    ("203.0.113.15", 0xc74177bda5584327497095b3b8d074991950acead07b625bd368763408b65e7d),
    ("203.0.113.16", 0x9030966295e0ca383bc308f5ec612c834f6ca3b2fca35f78653266a7ddd7741d),
    ("guess-1", 0xac074837ceda8c409c9bac06d54457d63507c85f9a6d586d3f5d4d9debef8475),
    ("guess-2", 0x10168a1c3f9c8e4fa5010f2540705bf82ca14afdf1f957a5c792017a1f5aa13f),
    ("guess-3", 0x08d8507a7e1b5925634cc1411b7f933eed3f2754c7b27e789a6e64de2d2b9930),
    ("guess-4", 0x96c13a0ade3cf78566c7ba596e1d395229d07a6edeb2b0a6aa8161efd174edd2),
    ("guess-5", 0x9aed9c16d71b3e63eecfed20a0bb6701fd0984c5a999454f4d82d6758be98025),
    ("guess-6", 0x456a7d2aa1fb5959e023df50fe2df3762f3641f927a13c1ea2c04b314afe1932),
    ("guess-7", 0xdcffa52be178e5bbb1ddd055772609070948769911866ff3e4fc0fafba7bb0e1),
    ("guess-8", 0xcc93bca12686482ba678f42833d3e9c64128b2a7b92183c913d6e80c5a7f2b96),
    ("guess-9", 0xc957815d1fdf32297032b715f2289dec5ea0bd205215c20826bbcd495c61e5f4),
    ("guess-10", 0xfb451c3725693a1faf7eb1632ccb60c5231e0ad3ff7bdc1302c49cf7b7aa3fc9),
    ("guess-11", 0x753c5829aadf978726274ac9cb477388a6aa8886ee68d764f92b1df14c42d0d4),
    ("guess-12", 0xe25b1ec8bb9a46b80b0bc8c2a6f0473cb7d6448eb5aa4ae9406637ce13dcb263),
    ("guess-13", 0xdc190dca1d58acfc7e76e49b88d2b63b3274cbee5437fb95bacc524b2976ac1f),
    ("guess-14", 0xd099101c10d5385df500b092cf30ea8784e59645940330777224d64c636cff41),
    ("guess-15", 0x3fc2f4a36df4dfd47738db9a2e6f96b31dd3538e5969c0028b09fda8a55969eb),
    ("guess-16", 0xacbaaeec910ecffe48a81f27821a7c6d55464caa508f23eb34431fafd0216894) ]

/-- The addresses are in normal form, and no user name is an identifier. -/
def lib : Stdlib :=
  { sha256 := fun text => ⟨(digests.lookup text).getD 0⟩
    ipAddress := some
    uuid := fun _ => none
    lower := id }

/-- The least bucket limit that the environment may set. -/
def config : GuardConfig := { bucketLimit := 32 }

def failure (sourceIp username : String) (t : ℕ) : GuardCall :=
  ⟨.recordFailure { sourceIp := sourceIp, username := username, protocol := "rtmp" }, t, none⟩

/-- Eight failures lock the credential. -/
def lock : List GuardCall := (List.range' 1 8).map (failure "198.51.100.1" "victim")

/-- Failures for other credentials, each from its own address. -/
def flood : List GuardCall :=
  (List.range' 1 16).map fun i => failure s!"203.0.113.{i}" s!"guess-{i}" (8 + i)

def retry : GuardCall := ⟨.check { sourceIp := "198.51.100.2", username := "victim" }, 25, none⟩

/-- The victim's credential. -/
def victim : BucketKey := lib.bucketKey .credential "victim"

end Sample

/-- When the lock on the bucket ends. -/
def GuardFiles.lockEnd (s : GuardFiles) (key : BucketKey) : Option Timestamp :=
  (s.file.bind fun doc => doc.buckets.get? key).map (·.lockedUntil)

theorem GuardFiles.Locked.of_lockEnd {s : GuardFiles} {key : BucketKey} {till : Timestamp}
    (h : s.lockEnd key = some till) : s.Locked key till := by
  obtain ⟨b, hb, htill⟩ := Option.map_eq_some_iff.mp h
  obtain ⟨doc, hfile, hget⟩ := Option.bind_eq_some_iff.mp hb
  exact ⟨doc, b, hfile, hget, htill⟩

theorem GuardCall.Checks.of_any {config : GuardConfig} {lib : Stdlib} {c : GuardCall} {a : Attempt} {key : BucketKey}
    (hmethod : c.method = .check a)
    (h : (scopeSpecs config lib a).any fun spec => lib.bucketKey spec.scope spec.value = key) :
    c.Checks config lib key := by
  obtain ⟨spec, hspec, hkey⟩ := List.any_eq_true.mp h
  exact ⟨a, hmethod, spec, hspec, of_decide_eq_true hkey⟩

/-- A failure whose buckets all fit drops none. -/
theorem GuardCall.Spares.of_fits {config : GuardConfig} {lib : Stdlib} {c : GuardCall} {a : Attempt} {s : GuardFiles}
    (hmethod : c.method = .recordFailure a)
    (h : s.file.all fun doc => (addFailures config lib c.now (compactBuckets config c.now doc.buckets)
      (scopeSpecs config lib a)).1.size ≤ config.bucketLimit) : c.Spares config lib s := by
  intro a' doc hmethod' hfile buckets key hkey
  obtain rfl : a = a' := by
    rw [hmethod] at hmethod'
    exact GuardMethod.recordFailure.inj hmethod'
  rw [hfile, Option.all_some] at h
  have hfits : buckets.size ≤ config.bucketLimit := of_decide_eq_true h
  exact absurd hkey (notMem_overflow hfits)

open Sample in
theorem lockout_holds_sample :
    let answer := (retry.run config lib (runGuard config lib (lock ++ [failure "203.0.113.1" "guess-1" 9]))).1
    (retry.fault = none → ∃ o, answer = .ok o) ∧
      ∀ o, answer = .ok o → ∃ d, o = some d ∧ d.blocked ∧ victim.scope ∈ d.lockedScopes := by
  have hlocked : (runGuard config lib lock).Locked victim 128 := .of_lockEnd (by decide +kernel)
  have hcheck : retry.Checks config lib victim := .of_any rfl (by decide +kernel)
  refine lockout_holds config lib (by decide +kernel) hlocked ?_ ?_ hcheck (by decide +kernel)
  · intro p q r h
    obtain ⟨rfl, hq⟩ := List.append_eq_singleton_iff.mp h.symm |>.resolve_right (by simp)
    obtain ⟨rfl, -⟩ := List.cons.inj hq
    rw [List.append_nil]
    exact .of_fits rfl (by decide +kernel)
  · rintro q hq ⟨username, credential, hmethod, -⟩
    obtain rfl := List.mem_singleton.mp hq
    cases hmethod

/-- A lock of two minutes is gone after sixteen failures for other credentials from other addresses. -/
theorem lockout_flushed : ¬∀ (before between : List GuardCall) (c : GuardCall) (key : BucketKey) (till : Timestamp),
    (before ++ between ++ [c]).Pairwise (fun x y => x.now ≤ y.now) →
    (runGuard Sample.config Sample.lib before).Locked key till →
    (∀ q ∈ between, ¬q.Clears Sample.lib key) → c.Checks Sample.config Sample.lib key → c.now < till →
    ∀ o, (c.run Sample.config Sample.lib (runGuard Sample.config Sample.lib (before ++ between))).1 = .ok o →
      ∃ d, o = some d ∧ d.blocked := by
  intro h
  have hlocked : (runGuard Sample.config Sample.lib Sample.lock).Locked Sample.victim 128 :=
    .of_lockEnd (by decide +kernel)
  have hclears : ∀ q ∈ Sample.flood, ¬q.Clears Sample.lib Sample.victim := by
    rintro q hq ⟨username, credential, hmethod, -⟩
    obtain ⟨i, -, rfl⟩ := List.mem_map.mp hq
    cases hmethod
  have hcheck : Sample.retry.Checks Sample.config Sample.lib Sample.victim := .of_any rfl (by decide +kernel)
  have hblocked := h Sample.lock Sample.flood Sample.retry Sample.victim 128 (by decide +kernel) hlocked hclears
    hcheck (by decide +kernel)
  have hanswer : ((Sample.retry.run Sample.config Sample.lib
      (runGuard Sample.config Sample.lib (Sample.lock ++ Sample.flood))).1.toOption.bind id).map (·.blocked) =
        some false := by
    decide +kernel
  obtain ⟨d, hd, hfalse⟩ := Option.map_eq_some_iff.mp hanswer
  obtain ⟨o, ho, rfl⟩ := Option.bind_eq_some_iff.mp hd
  cases hrun : (Sample.retry.run Sample.config Sample.lib
      (runGuard Sample.config Sample.lib (Sample.lock ++ Sample.flood))).1 with
  | error e =>
    rw [hrun] at ho
    cases ho
  | ok o' =>
    rw [hrun] at ho
    obtain rfl := Option.some.inj ho
    obtain ⟨d', hd', hblocked⟩ := hblocked _ hrun
    obtain rfl := Option.some.inj hd'
    exact absurd hblocked (by simp [hfalse])

end IRLight.IngestAuth
