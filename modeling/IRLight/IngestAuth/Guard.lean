import IRLight.Collections.Dict
import IRLight.Python

/-! # The ingest authentication guard

Failure windows and temporary lockouts of the Control API's MediaMTX hook. Every public method reloads the
state file under the guard's lock and may replace it once; a method that meets an I/O error raises. -/

namespace IRLight

/-- A SHA-256 digest. -/
structure Digest where
  bits : BitVec 256
  deriving DecidableEq

/-- `hexdigest`. -/
def Digest.text (d : Digest) : String :=
  String.ofList ((List.range 64).reverse.map fun i => Nat.digitChar (d.bits.toNat / 16 ^ i % 16))

namespace IngestAuth

structure GuardConfig where
  enabled : Bool := true
  failureWindowSeconds : Timestamp := (60 : ℕ)
  maxFailuresPerIp : ℕ := 20
  maxFailuresPerCredential : ℕ := 8
  lockoutSeconds : Timestamp := (120 : ℕ)
  eventLimit : ℕ := 200
  bucketLimit : ℕ := 4096
  blockedEventIntervalSeconds : Timestamp := (5 : ℕ)

/-- What the guard calls of the standard library: a digest, and the normal forms of an address, an identifier
    and a protocol name. `none` is a `ValueError`. -/
structure Stdlib where
  sha256 : String → Digest
  ipAddress : String → Option String
  uuid : String → Option String
  lower : String → String

inductive Scope where
  | ip
  | credential
  deriving DecidableEq

structure BucketKey where
  scope : Scope
  digest : Digest
  deriving DecidableEq

/-- The order of the names `scope:digest`. Texts of digests have one length, so they compare as the digests do. -/
def BucketKey.le (i j : BucketKey) : Bool :=
  if i.scope = j.scope then i.digest.bits ≤ j.digest.bits else i.scope = .credential

structure Bucket where
  failures : List Timestamp
  lockedUntil : Timestamp
  lastSeenAt : Timestamp
  lastBlockedEventAt : Option Timestamp := none

abbrev Buckets := Dict BucketKey Bucket

structure Decision where
  blocked : Bool
  lockedScopes : List Scope
  retryAfterSeconds : ℕ

inductive GuardEventType where
  | authFailed
  | authLocked
  | authBlocked

structure EventPayload where
  sessionId : Option String
  credentialFingerprint : Option String
  sourceIp : Option String
  protocol : Option String
  publisherId : Option String
  lockedScopes : List Scope
  retryAfterSeconds : ℕ
  newlyLockedScopes : Option (List Scope) := none

structure GuardEvent where
  sequence : ℕ
  type : GuardEventType
  occurredAt : Timestamp
  payload : EventPayload

/-- The contents of the state file. What `_validate_state` asks of the sequence numbers holds of every value. -/
structure GuardDoc where
  buckets : Buckets
  events : List GuardEvent
  nextSequence : ℕ
  sequenced : ∀ e ∈ events, 0 < e.sequence ∧ e.sequence < nextSequence
  next_pos : 0 < nextSequence

def GuardDoc.initial : GuardDoc := ⟨.empty, [], 1, by simp, Nat.one_pos⟩

/-- The state file and its initialization marker. -/
structure GuardFiles where
  file : Option GuardDoc
  initialized : Bool

def GuardFiles.initial : GuardFiles := ⟨none, false⟩

/-- `_safe_text`. -/
def safeText (value : String) (limit : ℕ) : Option String :=
  let normalized := strip value
  if normalized = "" then none else some (clip limit normalized)

namespace Stdlib
variable (lib : Stdlib)

def normalizeIp (value : String) : Option String :=
  (safeText value 128).map fun raw => (lib.ipAddress raw).getD raw

def sessionId (value : String) : Option String := (safeText value 128).bind lib.uuid

def fingerprint (value : String) : Option String :=
  (safeText value 256).map fun raw => clip 16 (lib.sha256 raw).text

def bucketKey (scope : Scope) (value : String) : BucketKey := ⟨scope, lib.sha256 value⟩

end Stdlib

/-- Who tries to publish. -/
structure Attempt where
  sourceIp : String
  username : String
  protocol : String := ""
  publisherId : String := ""

/-- A scope of an attempt, with the value it is counted under and the number of failures that locks it. -/
structure ScopeSpec where
  scope : Scope
  value : String
  limit : ℕ

/-! ### Buckets -/

section
variable (config : GuardConfig)

/-- `_prune_bucket`. -/
def pruneBucket (now : Timestamp) (bucket : Bucket) : Bucket :=
  if 0 < bucket.lockedUntil ∧ bucket.lockedUntil ≤ now then { bucket with failures := [], lockedUntil := 0 }
  else
    { bucket with
      failures := bucket.failures.filter fun t => now ≤ t + config.failureWindowSeconds ∧ t ≤ now + 1 }

/-- The buckets that still say something at `now`. -/
def liveBuckets (now : Timestamp) (buckets : Buckets) : Buckets :=
  (buckets.mapVal fun _ => pruneBucket config now).filter fun _ b => b.failures ≠ [] || b.lockedUntil ≠ 0

/-- The keys that `_compact_buckets` drops because there are too many: those seen least recently. -/
def overflow (live : Buckets) : List BucketKey :=
  ((live.sort fun i j => i.2.lastSeenAt ≤ j.2.lastSeenAt).items.take (live.size - config.bucketLimit)).map Prod.fst

/-- `_compact_buckets`. -/
def compactBuckets (now : Timestamp) (buckets : Buckets) : Buckets :=
  let live := liveBuckets config now buckets
  live.filter fun key _ => key ∉ overflow config live

variable (lib : Stdlib)

/-- `_scope_specs`. -/
def scopeSpecs (a : Attempt) : List ScopeSpec :=
  (lib.normalizeIp a.sourceIp).toList.map (⟨.ip, ·, config.maxFailuresPerIp⟩) ++
    (safeText a.username 256).toList.map (⟨.credential, ·, config.maxFailuresPerCredential⟩)

/-- When the lock on the scope ends, if it is locked. The bucket is pruned in place before it is read. -/
def lockOf (now : Timestamp) (buckets : Buckets) (spec : ScopeSpec) : Option Timestamp :=
  ((buckets.get? (lib.bucketKey spec.scope spec.value)).map fun b => (pruneBucket config now b).lockedUntil).filter
    (now < ·)

/-- `_decision`. -/
def decision (now : Timestamp) (buckets : Buckets) (specs : List ScopeSpec) : Decision :=
  let locked := specs.filterMap fun spec => (lockOf config lib now buckets spec).map fun t => (spec.scope, t)
  { blocked := locked ≠ []
    lockedScopes := locked.map Prod.fst
    retryAfterSeconds := (locked.map fun l => max 1 ((l.2 : ℚ) - now).ceil.toNat).foldl max 0 }

/-- One round of the loop in `record_failure`. -/
def addFailure (now : Timestamp) (acc : Buckets × List Scope) (spec : ScopeSpec) : Buckets × List Scope :=
  let key := lib.bucketKey spec.scope spec.value
  let bucket := pruneBucket config now ((acc.1.get? key).getD ⟨[], 0, now, none⟩)
  let bucket := { bucket with failures := bucket.failures ++ [now], lastSeenAt := now }
  if ¬now < bucket.lockedUntil ∧ spec.limit ≤ bucket.failures.length then
    (acc.1.set key { bucket with lockedUntil := now + config.lockoutSeconds }, acc.2 ++ [spec.scope])
  else (acc.1.set key bucket, acc.2)

/-- The buckets after the loop in `record_failure`, and the scopes it has locked. -/
def addFailures (now : Timestamp) (buckets : Buckets) (specs : List ScopeSpec) : Buckets × List Scope :=
  specs.foldl (addFailure config lib now) (buckets, [])

/-! ### Events -/

/-- `_event_payload`. -/
def eventPayload (a : Attempt) (d : Decision) : EventPayload :=
  { sessionId := lib.sessionId a.username
    credentialFingerprint := lib.fingerprint a.username
    sourceIp := lib.normalizeIp a.sourceIp
    protocol := safeText (lib.lower a.protocol) 32
    publisherId := safeText a.publisherId 128
    lockedScopes := d.lockedScopes
    retryAfterSeconds := d.retryAfterSeconds }

/-- `_append_event`. -/
def GuardDoc.appendEvent (doc : GuardDoc) (type : GuardEventType) (now : Timestamp) (payload : EventPayload) : GuardDoc :=
  { doc with
    events := lastItems config.eventLimit (doc.events ++ [⟨doc.nextSequence, type, now, payload⟩])
    nextSequence := doc.nextSequence + 1
    sequenced := by
      intro e he
      rcases List.mem_append.mp ((lastItems_sublist _ _).mem he) with he | he
      · exact ⟨(doc.sequenced e he).1, Nat.lt_succ_of_lt (doc.sequenced e he).2⟩
      · obtain rfl := List.mem_singleton.mp he
        exact ⟨doc.next_pos, Nat.lt_succ_self _⟩
    next_pos := Nat.succ_pos _ }

/-- `self._events[-self.config.event_limit :]`. -/
def GuardDoc.trimEvents (doc : GuardDoc) : GuardDoc :=
  { doc with
    events := lastItems config.eventLimit doc.events
    sequenced := fun e he => doc.sequenced e ((lastItems_sublist _ _).mem he) }

/-- `sorted(newly_locked)`, a sort by name. -/
def sortedScopes (scopes : List Scope) : List Scope := [Scope.credential, .ip].filter (· ∈ scopes)

/-! ### The public methods

Each of them as its transaction sees it: the document it has loaded gives the answer, and the document to
persist when there is one. -/

def check (a : Attempt) (now : Timestamp) (doc : GuardDoc) : Decision × Option GuardDoc :=
  (decision config lib now (compactBuckets config now doc.buckets) (scopeSpecs config lib a), none)

def recordFailure (a : Attempt) (now : Timestamp) (doc : GuardDoc) : Decision × Option GuardDoc :=
  let specs := scopeSpecs config lib a
  let (buckets, newlyLocked) := addFailures config lib now (compactBuckets config now doc.buckets) specs
  let buckets := compactBuckets config now buckets
  let d := decision config lib now buckets specs
  let payload := eventPayload lib a d
  let doc := { doc with buckets := buckets }.appendEvent config .authFailed now payload
  let doc := if newlyLocked = [] then doc else
    doc.appendEvent config .authLocked now { payload with newlyLockedScopes := some (sortedScopes newlyLocked) }
  (d, some doc)

/-- Whether the last `ingest.auth_blocked` event of the scope is old enough for the next one. -/
def eventDue (now : Timestamp) (buckets : Buckets) (spec : ScopeSpec) : Bool :=
  (buckets.get? (lib.bucketKey spec.scope spec.value)).any fun b =>
    b.lastBlockedEventAt.getD 0 + config.blockedEventIntervalSeconds ≤ now

def recordBlocked (a : Attempt) (now : Timestamp) (doc : GuardDoc) : Decision × Option GuardDoc :=
  let specs := scopeSpecs config lib a
  let buckets := compactBuckets config now doc.buckets
  let d := decision config lib now buckets specs
  if ¬d.blocked then (d, none)
  else
    let due := specs.filter fun spec => spec.scope ∈ d.lockedScopes ∧ eventDue config lib now buckets spec
    if due = [] then (d, none)
    else
      let keys := due.map fun spec => lib.bucketKey spec.scope spec.value
      let buckets := buckets.mapVal fun key b => if key ∈ keys then { b with lastBlockedEventAt := some now } else b
      let doc := { doc with buckets := buckets }.appendEvent config .authBlocked now (eventPayload lib a d)
      (d, some doc)

def recordSuccess (credential : String) (now : Timestamp) (doc : GuardDoc) : Unit × Option GuardDoc :=
  let key := lib.bucketKey .credential credential
  let buckets := compactBuckets config now (doc.buckets.erase key)
  ((), if (doc.buckets.get? key).isSome then some { doc with buckets := buckets } else none)

end

/-! ### Transactions -/

/-- An `IngestAuthGuardStateError`. -/
structure GuardStateError where
  message : String

/-- An I/O error that a method may meet: before it has read the file, before it has armed the marker, before the
    file is replaced, or after that. -/
inductive IoFault where
  | unlocked
  | unread
  | unmarked
  | unreplaced
  | unsynced
  deriving DecidableEq

/-- `_reload`. -/
def GuardFiles.reload (s : GuardFiles) (config : GuardConfig) : Except GuardStateError GuardDoc :=
  match s.file with
  | some doc => .ok (doc.trimEvents config)
  | none =>
    if s.initialized then .error ⟨"ingest authentication guard state disappeared after initialization"⟩
    else .ok .initial

/-- `_persist`: the items of the document go to the file in the order of their names. -/
def GuardFiles.persist (config : GuardConfig) (doc : GuardDoc) : GuardFiles :=
  { file := some { doc.trimEvents config with buckets := doc.buckets.sort fun i j => i.1.le j.1 }
    initialized := true }

/-- A method under the lock. -/
def GuardFiles.transact {α : Type} (s : GuardFiles) (config : GuardConfig) (fault : Option IoFault)
    (body : GuardDoc → α × Option GuardDoc) : Except GuardStateError α × GuardFiles :=
  let unlocked := ⟨"ingest authentication guard state cannot be locked"⟩
  match fault, s.reload config with
  | some .unlocked, _ => (.error unlocked, s)
  | some .unread, _ => (.error ⟨"ingest authentication guard state cannot be read"⟩, s)
  | _, .error e => (.error e, s)
  | _, .ok doc =>
    match body doc, fault with
    | (a, none), _ => (.ok a, s)
    | (a, some doc), none => (.ok a, .persist config doc)
    | _, some .unreplaced => (.error unlocked, { s with initialized := true })
    | (_, some doc), some .unsynced => (.error unlocked, .persist config doc)
    | _, some _ => (.error unlocked, s)

/-- A call of one of the methods. -/
inductive GuardMethod where
  | check (attempt : Attempt)
  | recordFailure (attempt : Attempt)
  | recordBlocked (attempt : Attempt)
  | recordSuccess (username : String)

structure GuardCall where
  method : GuardMethod
  now : Timestamp
  fault : Option IoFault

/-- The answer to a call, `none` where the method has none, and the files after it. -/
def GuardCall.run (config : GuardConfig) (lib : Stdlib) (c : GuardCall) (s : GuardFiles) :
    Except GuardStateError (Option Decision) × GuardFiles :=
  match c.method with
  | .check a =>
    if config.enabled then (s.transact config c.fault (check config lib a c.now)).map (.map some) id
    else (.ok (some ⟨false, [], 0⟩), s)
  | .recordFailure a =>
    if config.enabled then (s.transact config c.fault (recordFailure config lib a c.now)).map (.map some) id
    else (.ok (some ⟨false, [], 0⟩), s)
  | .recordBlocked a =>
    if config.enabled then (s.transact config c.fault (recordBlocked config lib a c.now)).map (.map some) id
    else (.ok (some ⟨false, [], 0⟩), s)
  | .recordSuccess username =>
    match config.enabled, safeText username 256 with
    | true, some credential =>
      (s.transact config c.fault (recordSuccess config lib credential c.now)).map (.map fun _ => none) id
    | _, _ => (.ok none, s)

/-- The files after a run of calls. -/
def runGuard (config : GuardConfig) (lib : Stdlib) (calls : List GuardCall) : GuardFiles :=
  calls.foldl (fun s c => (c.run config lib s).2) .initial

end IngestAuth
end IRLight
