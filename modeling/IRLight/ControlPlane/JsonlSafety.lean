import IRLight.Formats.Lines
import IRLight.Formats.Percent

/-! # Bounded records of the operations tooling

`operations_jsonl_safety.py`: one reader has a cap in bytes, the other one has it in characters and the bytes are counted
afterwards. -/

namespace IRLight.Jsonl
open Lines Percent

/-- What the readers yield. -/
inductive Item where
  | text (line : List Char)
  | oversized
  | invalidUtf8
  deriving DecidableEq

/-- `iter_bounded_lines`. A cap of 0 raises. -/
def iterBoundedLines (stream : List Char) (maxRecordBytes : ℕ) : Except String (List Item) :=
  if maxRecordBytes ≤ 0 then .error "max_record_bytes must be positive"
  else .ok (boundedLines '\n' maxRecordBytes .text .oversized stream)

/-- What the reader of bytes says of a line that was read whole. -/
def byteLine (maxRecordBytes : ℕ) (line : Bytes) : Item :=
  if maxRecordBytes < line.length then .oversized
  else
    match decodeStrict line with
    | some text => .text text
    | none => .invalidUtf8

/-- `iter_bounded_byte_lines`. -/
def iterBoundedByteLines (stream : Bytes) (maxRecordBytes : ℕ) : Except String (List Item) :=
  if maxRecordBytes ≤ 0 then .error "max_record_bytes must be positive"
  else .ok (boundedLines 0x0A maxRecordBytes (byteLine maxRecordBytes) .oversized stream)

/-- `utf8_size_violation`. A character here is never a lone surrogate. -/
def utf8SizeViolation (line : List Char) (maxRecordBytes : ℕ) : Option String :=
  if maxRecordBytes < (utf8 line).length then some "RECORD_TOO_LARGE" else none

/-- An item of the reader of characters, once its bytes are counted. Its consumers treat both findings alike. -/
def counted (maxRecordBytes : ℕ) : Item → Item
  | .text line => if (utf8SizeViolation line maxRecordBytes).isSome then .oversized else .text line
  | item => item

end IRLight.Jsonl
