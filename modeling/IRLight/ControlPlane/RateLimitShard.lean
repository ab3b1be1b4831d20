import IRLight.ControlPlane.RateLimit
import IRLight.Formats.CompactJson

/-! # The files of the rate limit

`_read_shard` and `_write_shard` of `auth_rate_limit`. The file of a shard holds the compact text of a JSON document, from
which `json.loads` gives the document back. A float is a number, and its text is left open. -/

namespace IRLight.RateLimit

def maxStateFileBytes : ℕ := 4 * 1024 * 1024
def attemptKeyChars : ℕ := 32

/-- What `_attempt_key` gives: the first digits of a hexadecimal digest. -/
structure AttemptKey where
  digits : List (Fin 16)
  length_digits : digits.length = attemptKeyChars

def AttemptKey.text (k : AttemptKey) : String := String.ofList (k.digits.map fun d : Fin 16 => Nat.digitChar d)

/-- The document in the file of a shard. A file that has just been created is empty. -/
abbrev ShardFile := Option Json

/-! ### Writing -/

def WindowRecord.json (r : WindowRecord) : Json := .obj [("reset_at", .float (.finite r.resetAt)), ("count", .int r.count)]

def WindowRecords.json (w : WindowRecords) : Json := .arr [w.burst.json, w.sustained.json]

/-- `{"keys": keys}`. -/
def document (keys : Keys) : Json := .obj [("keys", .obj (keys.items.map fun i => (i.1, i.2.json)))]

/-- `_write_shard`. -/
def writeShard (keys : Keys) : ShardFile := some (document keys).sorted

/-! ### Reading -/

def nonNegative (q : ℚ) : Option Timestamp := if h : 0 ≤ q then some ⟨q, h⟩ else none

/-- `float(reset_at)`, if it is finite and not negative. -/
def validatedReset : Json → Option Timestamp
  | .int n => if n.natAbs < floatOverflow then nonNegative n else none
  | .float (.finite q) => nonNegative q
  | _ => none

def validatedCount : Json → Option ℕ
  | .int n => if 0 ≤ n then some n.toNat else none
  | _ => none

/-- `_validated_window_record`. -/
def validatedWindowRecord (record : Json) : Option WindowRecord := do
  let resetAt ← (record.get? "reset_at").bind validatedReset
  let count ← (record.get? "count").bind validatedCount
  return ⟨resetAt, count⟩

/-- The records of a key. -/
def validatedWindows : Json → Option WindowRecords
  | .arr [burst, sustained] => do return ⟨← validatedWindowRecord burst, ← validatedWindowRecord sustained⟩
  | _ => none

/-- An entry of `keys.items()`, after the ones before it. -/
def validatedEntry (validated : Keys) (entry : String × Json) : Option Keys :=
  if entry.1 = "" ∨ attemptKeyChars < entry.1.length then none
  else (validatedWindows entry.2).map (validated.set entry.1)

/-- `_validated_state`. One bad entry loses the table. -/
def validatedState (payload : Json) : Keys :=
  match payload.get? "keys" with
  | some (.obj entries) => (entries.foldlM validatedEntry .empty).getD .empty
  | _ => .empty

section
variable (config : AuthRateLimitConfig) (floatText : PyFloat → String)

/-- `_read_shard`. -/
def readShard : ShardFile → Keys
  | none => .empty
  | some payload =>
    if maxStateFileBytes < (payload.compact floatText).utf8ByteSize then .empty else validatedState payload

/-- What is charged: a call of `enforce_authentication_rate_limit` with its key and its clock. -/
structure Charge where
  key : AttemptKey
  now : Timestamp

def Charge.attempt (c : Charge) : Attempt := ⟨c.key.text, c.now⟩

/-- `_register_attempt`, of a charge. -/
def register (keys : Keys) (c : Charge) : Admission × Keys := registerAttempt config keys c.key.text c.now

/-- The size of the file that a table is written to. -/
def fileSize (keys : Keys) : ℕ := ((document keys).sorted.compact floatText).utf8ByteSize

end

/-! ### What is written -/

open Json

/-- The record as it is written. -/
def WindowRecord.written (r : WindowRecord) : Json := .obj [("count", .int r.count), ("reset_at", .float (.finite r.resetAt))]

def WindowRecords.written (w : WindowRecords) : Json := .arr [w.burst.written, w.sustained.written]

/-- The table in the order in which it is written. -/
def inOrder (keys : Keys) : Keys := keys.sort fun i j => i.1 ≤ j.1

section
variable {floatText : PyFloat → String} {keys : Keys} {r : WindowRecord} {w : WindowRecords}

theorem sorted_record : r.json.sorted = r.written := by
  have hle : ¬("reset_at" ≤ "count") := by decide
  rw [WindowRecord.json, sorted, sortedFields_eq]
  simp only [List.map_cons, List.map_nil, List.insertionSort_cons, List.insertionSort_nil, List.orderedInsert, if_neg hle, sorted]
  rfl

theorem sorted_records : w.json.sorted = w.written := by
  rw [WindowRecords.json, sorted, sortedItems, sortedItems, sortedItems, sorted_record, sorted_record]
  rfl

theorem sorted_document : (document keys).sorted =
    .obj [("keys", .obj ((inOrder keys).items.map fun i => (i.1, i.2.written)))] := by
  have hfields : sortedFields (keys.items.map fun i => (i.1, i.2.json)) = keys.items.map fun i => (i.1, i.2.written) := by
    rw [sortedFields_eq, List.map_map]
    exact List.map_congr_left fun i _ => congrArg (Prod.mk i.1) sorted_records
  have hsort : (keys.items.map fun i => (i.1, i.2.written)).insertionSort (fun i j => i.1 ≤ j.1) =
      (inOrder keys).items.map fun i => (i.1, i.2.written) :=
    (List.map_insertionSort _ _ (fun i : String × WindowRecords => (i.1, i.2.written)) _ fun _ _ _ _ => Iff.rfl).symm
  rw [document, sorted, sortedFields, sortedFields, List.insertionSort_cons, List.insertionSort_nil, List.orderedInsert, sorted,
    hfields, hsort]

/-! ### The size of a file -/

/-- The keys of the table are keys of attempts. -/
def Keyed (keys : Keys) : Prop := ∀ key w, keys.get? key = some w → ∃ k : AttemptKey, k.text = key

/-- The text of an entry as it is written. -/
def entryText (floatText : PyFloat → String) (i : String × WindowRecords) : String :=
  JsonValue.quote i.1 ++ ":" ++ i.2.written.compact floatText

theorem compact_document : (document keys).sorted.compact floatText =
    "\x7b\"keys\":\x7b" ++ ",".intercalate ((inOrder keys).items.map (entryText floatText)) ++ "\x7d\x7d" := by
  have hkeys : JsonValue.quote "keys" ++ ":" = "\"keys\":" := by decide
  have hentries : compactFields floatText ((inOrder keys).items.map fun i => (i.1, i.2.written)) =
      (inOrder keys).items.map (entryText floatText) := by
    rw [compactFields_eq, List.map_map]
    rfl
  have hopen : "\x7b\"keys\":\x7b" = "\x7b" ++ ("\"keys\":" ++ "\x7b") := by decide
  have hclose : "\x7d\x7d" = "\x7d" ++ "\x7d" := by decide
  rw [sorted_document, compact, compactFields, compactFields, hkeys, String.intercalate_singleton, compact, hentries, hopen,
    hclose]
  simp only [String.append_assoc]

theorem fileSize_empty (h : keys.items = []) : fileSize floatText keys = 11 := by
  have horder : (inOrder keys).items = [] := List.perm_nil.mp (h ▸ List.perm_insertionSort _ keys.items)
  rw [fileSize, compact_document, horder]
  rfl

/-- A table whose file is too large is lost. -/
theorem readShard_writeShard_large (h : maxStateFileBytes < fileSize floatText keys) :
    readShard floatText (writeShard keys) = .empty := if_pos h

end

end IRLight.RateLimit
