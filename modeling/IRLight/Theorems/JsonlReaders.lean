import IRLight.ControlPlane.JsonlSafety
import Mathlib.Data.List.Forall2

/-! # Bounded records

Each record of a stream gives one item, and the reader with a cap in characters finds what the reader with a cap in bytes
finds. -/

namespace IRLight.Jsonl
open Lines Percent

/-- What an item says of its record. -/
structure Classified (maxRecordBytes : ℕ) (record : Bytes) (item : Item) : Prop where
  text : ∀ line, item = .text line ↔ record.length ≤ maxRecordBytes ∧ record = utf8 line
  oversized : item = .oversized ↔ maxRecordBytes < record.length
  invalidUtf8 : item = .invalidUtf8 ↔ record.length ≤ maxRecordBytes ∧ ∀ line, record ≠ utf8 line

section
variable {cap : ℕ} {record : Bytes} {stream tail : Bytes} {bodies : List Bytes} {line text rest : List Char}
  {lines : List (List Char)}

/-! ### The reader of bytes -/

theorem byteLine_classified : Classified cap record (byteLine cap record) := by
  unfold byteLine
  by_cases hlong : cap < record.length
  · rw [if_pos hlong]
    have hnot := not_le.mpr hlong
    exact ⟨fun line => iff_of_false (by intro h; cases h) fun h => hnot h.1, iff_of_true rfl hlong,
      iff_of_false (by intro h; cases h) fun h => hnot h.1⟩
  · rw [if_neg hlong]
    have hle := not_lt.mp hlong
    cases hdecode : decodeStrict record with
    | none =>
      have hinvalid (line : List Char) : record ≠ utf8 line := by
        intro h
        rw [decodeStrict_eq_some.mpr h] at hdecode
        cases hdecode
      exact ⟨fun line => iff_of_false (by intro h; cases h) fun h => hinvalid line h.2,
        iff_of_false (by intro h; cases h) hlong, iff_of_true rfl ⟨hle, hinvalid⟩⟩
    | some found =>
      have hfound := decodeStrict_eq_some.mp hdecode
      refine ⟨fun line => ⟨fun h => ?_, fun h => ?_⟩, iff_of_false (by intro h; cases h) hlong,
        iff_of_false (by intro h; cases h) fun h => h.2 found hfound⟩
      · obtain rfl := Item.text.inj h
        exact ⟨hle, hfound⟩
      · rw [decodeStrict_eq_some.mpr h.2] at hdecode
        exact congrArg Item.text (Option.some.inj hdecode).symm

/-- Every record gets the item of its bytes: a record that the reader does not read whole is too long. -/
theorem byteLines_eq (h : Cut 0x0A stream bodies tail) :
    boundedLines 0x0A cap (byteLine cap) .oversized stream = (records 0x0A bodies tail).map (byteLine cap) := by
  rw [boundedLines_eq h]
  refine List.map_congr_left fun record _ => ?_
  by_cases hfits : WithinCap 0x0A cap record
  · exact if_pos hfits
  · rw [if_neg hfits]
    have hlong : cap < record.length := not_lt.mp fun hshort => hfits (.inl hshort)
    exact (byteLine_classified.oversized.mpr hlong).symm

/-! ### The reader of characters -/

theorem newline_notMem_utf8 (h : '\n' ∉ text) : (0x0A : UInt8) ∉ utf8 text :=
  fun hmem => h (mem_of_mem_utf8 hmem (by decide))

theorem utf8_append : utf8 (text ++ rest) = utf8 text ++ utf8 rest := List.flatMap_append

/-- A text is cut into lines where its bytes are. -/
theorem cut_utf8 (h : Cut '\n' text lines rest) : Cut 0x0A (utf8 text) (lines.map utf8) (utf8 rest) := by
  obtain ⟨rfl, hlines, hrest⟩ := h
  refine ⟨?_, fun body hbody => ?_, newline_notMem_utf8 hrest⟩
  · rw [utf8_append]
    congr 1
    induction lines with
    | nil => rfl
    | cons line lines ih =>
      rw [List.flatMap_cons, utf8_append, utf8_append, ih fun l hl => hlines l (List.mem_cons_of_mem line hl)]
      rfl
  · obtain ⟨line, hline, rfl⟩ := List.mem_map.mp hbody
    exact newline_notMem_utf8 (hlines line hline)

theorem utf8_eq_nil : utf8 text = [] ↔ text = [] := by
  constructor
  · intro h
    cases text with
    | nil => rfl
    | cons c text => exact absurd (List.append_eq_nil_iff.mp h).1 String.utf8EncodeChar_ne_nil
  · rintro rfl
    rfl

theorem records_utf8 : records 0x0A (lines.map utf8) (utf8 rest) = (records '\n' lines rest).map utf8 := by
  unfold records
  rw [List.map_append, List.map_map, List.map_map]
  congr 1
  · refine List.map_congr_left fun line _ => ?_
    exact (@utf8_append line ['\n']).symm
  · by_cases hrest : rest = []
    · rw [if_pos hrest, if_pos (utf8_eq_nil.mpr hrest)]
      rfl
    · rw [if_neg hrest, if_neg (mt utf8_eq_nil.mp hrest)]
      rfl

/-- A text has at least as many bytes as characters. -/
theorem length_le_utf8 : text.length ≤ (utf8 text).length := by
  induction text with
  | nil => exact Nat.zero_le _
  | cons c text ih =>
    have hpos := List.length_pos_of_ne_nil (@String.utf8EncodeChar_ne_nil c)
    have hlength : (utf8 (c :: text)).length = (String.utf8EncodeChar c).length + (utf8 text).length := List.length_append
    rw [List.length_cons]
    omega

/-- The item of a line, counted in bytes, is the item of its bytes. -/
theorem counted_line : counted cap (if WithinCap '\n' cap line then .text line else .oversized) = byteLine cap (utf8 line) := by
  by_cases hlong : cap < (utf8 line).length
  · rw [byteLine, if_pos hlong]
    split
    · rw [counted, utf8SizeViolation, if_pos hlong]
      rfl
    · rfl
  · have hfits : WithinCap '\n' cap line := .inl (Nat.lt_succ_of_le (length_le_utf8.trans (not_lt.mp hlong)))
    have hdecode : decodeStrict (utf8 line) = some line := decodeStrict_eq_some.mpr rfl
    rw [if_pos hfits, counted, utf8SizeViolation, if_neg hlong, byteLine, if_neg hlong, hdecode]
    rfl

theorem counted_lines : boundedLines 0x0A cap (byteLine cap) .oversized (utf8 text) =
    (boundedLines '\n' cap Item.text .oversized text).map (counted cap) := by
  obtain ⟨lines, rest, hcut⟩ := exists_cut '\n' text
  rw [byteLines_eq (cut_utf8 hcut), boundedLines_eq hcut, records_utf8, List.map_map, List.map_map]
  exact List.map_congr_left fun line _ => counted_line.symm

/-- **Each record gives one item, in order, that says what it is**, and on a text the reader of characters finds the same once
the bytes are counted. -/
theorem jsonl_readers_exact (cap : ℕ) (hcap : 0 < cap) :
    (∀ stream : Bytes, ∃ bodies tail items, Cut 0x0A stream bodies tail ∧ iterBoundedByteLines stream cap = .ok items ∧
      List.Forall₂ (Classified cap) (records 0x0A bodies tail) items) ∧
    ∀ text : List Char, ∃ items, iterBoundedLines text cap = .ok items ∧
      iterBoundedByteLines (utf8 text) cap = .ok (items.map (counted cap)) := by
  have hpos : ¬cap ≤ 0 := not_le.mpr hcap
  constructor
  · intro stream
    obtain ⟨bodies, tail, hcut⟩ := exists_cut (0x0A : UInt8) stream
    refine ⟨bodies, tail, _, hcut, if_neg hpos, ?_⟩
    rw [byteLines_eq hcut, List.forall₂_map_right_iff]
    exact List.forall₂_same.mpr fun record _ => byteLine_classified
  · intro text
    refine ⟨_, if_neg hpos, ?_⟩
    rw [← counted_lines]
    exact if_neg hpos

theorem jsonl_readers_five :
    (∀ stream : Bytes, ∃ bodies tail items, Cut 0x0A stream bodies tail ∧ iterBoundedByteLines stream 5 = .ok items ∧
      List.Forall₂ (Classified 5) (records 0x0A bodies tail) items) ∧
    ∀ text : List Char, ∃ items, iterBoundedLines text 5 = .ok items ∧
      iterBoundedByteLines (utf8 text) 5 = .ok (items.map (counted 5)) :=
  jsonl_readers_exact 5 (by decide)

end
end IRLight.Jsonl
