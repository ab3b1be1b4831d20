import IRLight.Theorems.StandbyImages

/-! # The JPEG header parser

The parser that works on offsets reads only bytes that are there, and it finds the frame header of exactly the files that
are made of markers and segments with a frame header behind them. -/

namespace IRLight.Assets
open Bytes Jpeg

/-! ### Offsets -/

inductive ReadExc where
  | outOfRange (offset : ℕ)

/-- `payload[offset]`. -/
def readByte (payload : Bytes) (offset : ℕ) : Except ReadExc UInt8 :=
  match payload[offset]? with
  | some b => .ok b
  | none => .error (.outOfRange offset)

/-- `payload[first:last]`, which has to end in the payload. -/
def readSlice (payload : Bytes) (first last : ℕ) : Except ReadExc Bytes :=
  if last ≤ payload.length then .ok (slice payload first last) else .error (.outOfRange last)

/-- The inner loop of `_jpeg_dimensions`: the offset after the fill bytes. -/
def skipFill (payload : Bytes) (offset : ℕ) : Except ReadExc ℕ :=
  if offset < payload.length then do
    let b ← readByte payload offset
    if b = 0xFF then skipFill payload (offset + 1) else return offset
  else return offset
termination_by payload.length - offset

section
variable {payload : Bytes} {offset : ℕ}

theorem readByte_of_drop {b : UInt8} {tail : Bytes} (h : payload.drop offset = b :: tail) : readByte payload offset = pure b := by
  have hget : payload[offset]? = some b := by
    rw [← Nat.add_zero offset, ← List.getElem?_drop, h]
    rfl
  unfold readByte
  rw [hget]
  rfl

theorem drop_succ_of_drop {b : UInt8} {tail : Bytes} (h : payload.drop offset = b :: tail) : payload.drop (offset + 1) = tail := by
  rw [← List.drop_drop, h]
  rfl

theorem lt_length_of_drop {b : UInt8} {tail : Bytes} (h : payload.drop offset = b :: tail) : offset < payload.length := by
  have hne : payload.drop offset ≠ [] := by
    rw [h]
    exact List.cons_ne_nil b tail
  exact not_le.mp fun hle => hne (List.drop_eq_nil_of_le hle)

/-- The inner loop stops behind the fill bytes. -/
theorem skipFill_eq : skipFill payload offset = .ok (offset + ((payload.drop offset).takeWhile (· = 0xFF)).length) := by
  induction hrest : payload.drop offset generalizing offset with
  | nil =>
    rw [skipFill, if_neg (not_lt.mpr (List.drop_eq_nil_iff.mp hrest))]
    rfl
  | cons b tail ih =>
    rw [skipFill, if_pos (lt_length_of_drop hrest), readByte_of_drop hrest, pure_bind]
    by_cases hb : b = 0xFF
    · rw [if_pos hb, ih (drop_succ_of_drop hrest), List.takeWhile_cons, if_pos (decide_eq_true hb), List.length_cons,
        Nat.add_assoc, Nat.add_comm 1]
    · rw [if_neg hb, List.takeWhile_cons, if_neg (by simpa using hb)]
      rfl

theorem le_skipFill {next : ℕ} (h : skipFill payload offset = .ok next) : offset ≤ next := by
  rw [skipFill_eq] at h
  obtain rfl := Except.ok.inj h
  exact Nat.le_add_right _ _

end

/-- A segment with a frame header, at the offset of its length. -/
def readFrame (payload : Bytes) (offset segmentLength : ℕ) : Except ReadExc (Option (ℕ × ℕ)) :=
  if segmentLength < 11 then .ok none
  else do
    let precision ← readByte payload (offset + 2)
    let height ← bigEndian <$> readSlice payload (offset + 3) (offset + 5)
    let width ← bigEndian <$> readSlice payload (offset + 5) (offset + 7)
    let componentCount ← readByte payload (offset + 7)
    if precision.toNat ≤ 0 || 16 < precision.toNat || componentCount.toNat ≤ 0 then return none
    else if segmentLength ≠ 8 + 3 * componentCount.toNat then return none
    else return some (width, height)

/-- The loop of `_jpeg_dimensions`. -/
def readMarkers (payload : Bytes) (offset : ℕ) : Except ReadExc (Option (ℕ × ℕ)) :=
  if _hoffset : offset < payload.length then do
    let first ← readByte payload offset
    if first ≠ 0xFF then return none
    else
      match _hskip : skipFill payload offset with
      | .error e => .error e
      | .ok next =>
        if payload.length ≤ next then return none
        else do
          let marker ← readByte payload next
          let offset' := next + 1
          if marker = 0x00 then return none
          else if marker = 0xD8 then readMarkers payload offset'
          else if marker = 0xD9 || marker = 0xDA then return none
          else if marker = 0x01 || (0xD0 ≤ marker && marker ≤ 0xD7) then readMarkers payload offset'
          else if payload.length < offset' + 2 then return none
          else do
            let segmentLength ← bigEndian <$> readSlice payload offset' (offset' + 2)
            let segmentEnd := offset' + segmentLength
            if segmentLength < 2 then return none
            else if payload.length < segmentEnd then return none
            else if marker ∈ jpegSofMarkers then readFrame payload offset' segmentLength
            else readMarkers payload segmentEnd
  else return none
termination_by payload.length - offset
decreasing_by
  all_goals
    have hle := le_skipFill _hskip
    omega

/-- `_jpeg_dimensions`, on offsets. -/
def readDimensions (payload : Bytes) : Except ReadExc (Option (ℕ × ℕ)) :=
  if payload.length < 4 || !startsWith payload jpegSignature then .ok none else readMarkers payload 2

section
variable {payload fill after : Bytes} {offset next : ℕ} {marker : UInt8}

theorem readSlice_of_le {first last : ℕ} (h : last ≤ payload.length) : readSlice payload first last = .ok (slice payload first last) :=
  if_pos h

/-- The loop at a marker. -/
theorem readMarkers_fill (hrest : payload.drop offset = fill ++ marker :: after) (hfill : Fill fill) (hmarker : marker ≠ 0xFF)
    (hnext : next = offset + fill.length) : readMarkers payload offset =
    if marker = 0x00 then .ok none
    else if marker = 0xD8 then readMarkers payload (next + 1)
    else if marker = 0xD9 || marker = 0xDA then .ok none
    else if marker = 0x01 || (0xD0 ≤ marker && marker ≤ 0xD7) then readMarkers payload (next + 1)
    else if payload.length < next + 1 + 2 then .ok none
    else (bigEndian <$> readSlice payload (next + 1) (next + 1 + 2)).bind fun segmentLength =>
      if segmentLength < 2 then .ok none
      else if payload.length < next + 1 + segmentLength then .ok none
      else if marker ∈ jpegSofMarkers then readFrame payload (next + 1) segmentLength
      else readMarkers payload (next + 1 + segmentLength) := by
  obtain ⟨hne, hall⟩ := hfill
  have hfillWhile : (fill ++ marker :: after).takeWhile (· = 0xFF) = fill := by
    rw [List.takeWhile_append_of_pos fun b hb => decide_eq_true (hall b hb), List.takeWhile_cons_of_neg (by simpa using hmarker),
      List.append_nil]
  have hskip : skipFill payload offset = .ok next := by
    rw [skipFill_eq, hrest, hfillWhile, hnext]
  have hdrop : payload.drop next = marker :: after := by
    rw [hnext, ← List.drop_drop, hrest, List.drop_left]
  obtain ⟨tail, htail⟩ : ∃ tail, payload.drop offset = 0xFF :: tail := by
    cases fill with
    | nil => exact absurd rfl hne
    | cons b tail =>
      obtain rfl : b = 0xFF := hall b List.mem_cons_self
      exact ⟨tail ++ marker :: after, hrest⟩
  rw [readMarkers, dif_pos (lt_length_of_drop htail), readByte_of_drop htail, pure_bind, if_neg (not_not.mpr rfl)]
  split
  · rename_i e herror
    rw [hskip] at herror
    cases herror
  · rename_i next' hnext'
    rw [hskip] at hnext'
    obtain rfl := Except.ok.inj hnext'
    rw [if_neg (not_le.mpr (lt_length_of_drop hdrop)), readByte_of_drop hdrop]
    rfl

theorem readMarkers_of_head (h : ∀ b ∈ (payload.drop offset).head?, b ≠ 0xFF) : readMarkers payload offset = .ok none := by
  cases hrest : payload.drop offset with
  | nil =>
    rw [readMarkers, dif_neg (not_lt.mpr (List.drop_eq_nil_iff.mp hrest))]
    rfl
  | cons b tail =>
    rw [hrest] at h
    rw [readMarkers, dif_pos (lt_length_of_drop hrest), readByte_of_drop hrest, pure_bind, if_pos (h b rfl)]
    rfl

theorem readMarkers_of_fill (h : Fill (payload.drop offset)) : readMarkers payload offset = .ok none := by
  obtain ⟨hne, hall⟩ := h
  have hskip : skipFill payload offset = .ok payload.length := by
    have hlt : offset < payload.length := not_le.mp fun hle => hne (List.drop_eq_nil_of_le hle)
    rw [skipFill_eq, List.takeWhile_eq_self_iff.mpr fun b hb => decide_eq_true (hall b hb), List.length_drop,
      Nat.add_sub_cancel' hlt.le]
  cases hrest : payload.drop offset with
  | nil => exact absurd hrest hne
  | cons b tail =>
    rw [hrest] at hall
    rw [readMarkers, dif_pos (lt_length_of_drop hrest), readByte_of_drop hrest, pure_bind,
      if_neg (not_not.mpr (hall b List.mem_cons_self))]
    split
    · rename_i e herror
      rw [hskip] at herror
      cases herror
    · rename_i next hnext
      rw [hskip] at hnext
      obtain rfl := Except.ok.inj hnext
      rw [if_pos le_rfl]
      rfl

/-- A segment that ends in the payload is read as far as it goes. -/
theorem readFrame_eq {segmentLength : ℕ} (h : offset + segmentLength ≤ payload.length) :
    readFrame payload offset segmentLength = .ok (sofDimensions (payload.drop offset) segmentLength) := by
  unfold readFrame sofDimensions
  split
  · rfl
  · rename_i hlong
    have hbyte {i : ℕ} (hi : i < 11) : readByte payload (offset + i) = pure (payload.getD (offset + i) 0) := by
      have hlt : offset + i < payload.length := by omega
      unfold readByte
      rw [List.getD_eq_getElem?_getD, List.getElem?_eq_getElem hlt]
      rfl
    have hat {i : ℕ} : byteAt (payload.drop offset) i = (payload.getD (offset + i) 0).toNat := by
      unfold byteAt
      rw [List.getD_eq_getElem?_getD, List.getD_eq_getElem?_getD, List.getElem?_drop]
    rw [hbyte (by omega), hbyte (by omega), readSlice_of_le (by omega), readSlice_of_le (by omega), pure_bind]
    dsimp only
    rw [hat, hat, slice_drop, slice_drop]
    change (if _ then _ else _) = _
    by_cases hprecision : (payload.getD (offset + 2) 0).toNat ≤ 0 || 16 < (payload.getD (offset + 2) 0).toNat ||
        (payload.getD (offset + 7) 0).toNat ≤ 0
    · rw [if_pos hprecision, if_pos hprecision]
      rfl
    · rw [if_neg hprecision, if_neg hprecision]
      by_cases hcomponents : segmentLength ≠ 8 + 3 * (payload.getD (offset + 7) 0).toNat
      · rw [if_pos hcomponents, if_pos hcomponents]
        rfl
      · rw [if_neg hcomponents, if_neg hcomponents]
        rfl

/-- The loop reads what is there, and what follows the offset decides what it finds. -/
theorem readMarkers_eq : readMarkers payload offset = .ok (jpegScan (payload.drop offset)) := by
  induction hlength : (payload.drop offset).length using Nat.strong_induction_on generalizing offset with
  | _ k ih =>
    rcases fill_cases (payload.drop offset) with ⟨fill, marker, after, hrest, hfill, hmarker⟩ | hfill | hhead
    · have hafter : payload.drop (offset + fill.length + 1) = after := by
        rw [Nat.add_assoc, ← List.drop_drop, hrest, ← List.drop_drop, List.drop_left]
        rfl
      have hlater {n : ℕ} (hn : offset + fill.length + 1 ≤ n) : readMarkers payload n = .ok (jpegScan (payload.drop n)) := by
        refine ih _ ?_ rfl
        rw [← hlength, hrest, List.length_drop]
        have hdrop : payload.drop (offset + fill.length) = marker :: after := by
          rw [← List.drop_drop, hrest, List.drop_left]
        have hlt := lt_length_of_drop hdrop
        have hsum := congrArg List.length hrest
        rw [List.length_drop] at hsum
        omega
      have hlen : after.length = payload.length - (offset + fill.length + 1) := by
        rw [← hafter, List.length_drop]
      rw [readMarkers_fill hrest hfill hmarker rfl, hrest, jpegScan_fill hfill hmarker]
      split
      · rfl
      · split
        · rw [hlater le_rfl, hafter]
        · split
          · rfl
          · split
            · rw [hlater le_rfl, hafter]
            · by_cases htwo : payload.length < offset + fill.length + 1 + 2
              · rw [if_pos htwo, if_pos (by omega)]
              · rw [if_neg htwo, if_neg (by omega), readSlice_of_le (by omega), ← hafter, slice_drop]
                change (if _ then _ else _) = _
                rw [Nat.add_zero]
                generalize bigEndian (slice payload (offset + fill.length + 1) (offset + fill.length + 1 + 2)) = segmentLength
                by_cases hshort : segmentLength < 2
                · rw [if_pos hshort, if_pos hshort]
                · rw [if_neg hshort, if_neg hshort]
                  by_cases hlong : payload.length < offset + fill.length + 1 + segmentLength
                  · rw [if_pos hlong, if_pos (by rw [List.length_drop]; omega)]
                  · have hends : ¬(payload.drop (offset + fill.length + 1)).length < segmentLength := by
                      rw [List.length_drop]
                      omega
                    rw [if_neg hlong, if_neg hends]
                    by_cases hframe : marker ∈ jpegSofMarkers
                    · rw [if_pos hframe, if_pos hframe, readFrame_eq (not_lt.mp hlong)]
                    · rw [if_neg hframe, if_neg hframe, hlater (Nat.le_add_right _ _), List.drop_drop]
    · rw [readMarkers_of_fill hfill, jpegScan_of_fill hfill]
    · rw [readMarkers_of_head hhead, jpegScan_of_head hhead]

/-- **No read is out of range**, and the loop on offsets finds what the one on lists finds. -/
theorem readDimensions_eq : readDimensions payload = .ok (jpegDimensions payload) := by
  unfold readDimensions jpegDimensions
  split
  · rfl
  · exact readMarkers_eq

end

/-! ### Encoded files -/

/-- What may precede the frame header: a marker that stands alone, or a segment with its length and its body. -/
inductive Element where
  | alone (fill : Bytes) (marker : UInt8) (hfill : Fill fill) (hmarker : standsAlone marker)
  | segment (fill : Bytes) (marker hi lo : UInt8) (body : Bytes) (hfill : Fill fill) (hmarker : precedesFrame marker)
      (hlength : bigEndian [hi, lo] = 2 + body.length)

def Element.bytes : Element → Bytes
  | alone fill marker _ _ => fill ++ [marker]
  | segment fill marker hi lo body _ _ _ => fill ++ marker :: hi :: lo :: body

/-- A frame header: the height and the width, two bytes each, and three bytes for each component. -/
structure FrameHeader where
  fill : Bytes
  marker : UInt8
  hi : UInt8
  lo : UInt8
  precision : UInt8
  height : UInt8 × UInt8
  width : UInt8 × UInt8
  components : UInt8
  body : Bytes
  hfill : Fill fill
  hmarker : marker ∈ frameMarkers
  hprecision : 0 < precision.toNat ∧ precision.toNat ≤ 16
  hcomponents : 0 < components.toNat
  hbody : body.length = 3 * components.toNat
  hlength : bigEndian [hi, lo] = 8 + body.length

namespace FrameHeader

def bytes (frame : FrameHeader) : Bytes :=
  frame.fill ++ frame.marker :: frame.hi :: frame.lo :: frame.precision :: frame.height.1 :: frame.height.2 ::
    frame.width.1 :: frame.width.2 :: frame.components :: frame.body

/-- What the header says: the width and the height. -/
def dimensions (frame : FrameHeader) : ℕ × ℕ :=
  (bigEndian [frame.width.1, frame.width.2], bigEndian [frame.height.1, frame.height.2])

end FrameHeader

/-- SOI, the elements, the frame header and whatever follows it. -/
def encodeJpeg (elements : List Element) (frame : FrameHeader) (rest : Bytes) : Bytes :=
  jpegSignature ++ (elements.flatMap Element.bytes ++ (frame.bytes ++ rest))

section
variable {payload bytes rest : Bytes} {elements : List Element} {frame : FrameHeader} {width height n : ℕ}

theorem frames_of_frame (frame : FrameHeader) (rest : Bytes) : ∃ n, Frames (frame.bytes ++ rest) frame.dimensions.1 frame.dimensions.2 n := by
  obtain ⟨fill, marker, hi, lo, precision, ⟨h₁, h₀⟩, ⟨w₁, w₀⟩, components, body, hfill, hmarker, hprecision, hcomponents, hbody,
    hlength⟩ := frame
  refine ⟨fill.length + 1 + (8 + body.length), ?_⟩
  unfold FrameHeader.bytes FrameHeader.dimensions
  simp only [List.append_assoc, List.cons_append]
  exact .frame hfill hmarker hprecision hcomponents hbody hlength

/-- The elements lead to the frame header behind them. -/
theorem frames_of_elements (elements : List Element) (h : Frames bytes width height n) :
    ∃ n, Frames (elements.flatMap Element.bytes ++ bytes) width height n := by
  induction elements with
  | nil => exact ⟨n, h⟩
  | cons element elements ih =>
    obtain ⟨n, ih⟩ := ih
    rw [List.flatMap_cons, List.append_assoc]
    cases element with
    | alone fill marker hfill hmarker =>
      unfold Element.bytes at ih ⊢
      rw [List.append_assoc]
      exact ⟨_, .alone hfill hmarker ih⟩
    | segment fill marker hi lo body hfill hmarker hlength =>
      unfold Element.bytes at ih ⊢
      simp only [List.append_assoc, List.cons_append] at ih ⊢
      exact ⟨_, .segment hfill hmarker hlength ih⟩

/-- Bytes that lead to a frame header are elements with the header behind them. -/
theorem elements_of_frames (h : Frames bytes width height n) : ∃ elements frame rest,
    bytes = List.flatMap Element.bytes elements ++ (FrameHeader.bytes frame ++ rest) ∧ frame.dimensions = (width, height) := by
  induction h with
  | @alone fill marker rest width height n hfill hmarker _ ih =>
    obtain ⟨elements, frame, rest, rfl, hdimensions⟩ := ih
    refine ⟨.alone fill marker hfill hmarker :: elements, frame, rest, ?_, hdimensions⟩
    rw [List.flatMap_cons]
    simp only [Element.bytes, List.append_assoc, List.cons_append, List.nil_append]
  | @segment fill marker hi lo body rest width height n hfill hmarker hlength _ ih =>
    obtain ⟨elements, frame, rest, rfl, hdimensions⟩ := ih
    refine ⟨.segment fill marker hi lo body hfill hmarker hlength :: elements, frame, rest, ?_, hdimensions⟩
    rw [List.flatMap_cons]
    simp only [Element.bytes, List.append_assoc, List.cons_append]
  | @frame fill marker hi lo precision h₁ h₀ w₁ w₀ components body rest hfill hmarker hprecision hcomponents hbody hlength =>
    refine ⟨[], ⟨fill, marker, hi, lo, precision, (h₁, h₀), (w₁, w₀), components, body, hfill, hmarker, hprecision, hcomponents,
      hbody, hlength⟩, rest, ?_, rfl⟩
    rw [List.flatMap_nil, List.nil_append]
    simp only [FrameHeader.bytes, List.append_assoc, List.cons_append]

/-- The parser finds a width and a height in exactly the encoded files. -/
theorem jpegDimensions_encoded : jpegDimensions payload = some (width, height) ↔
    ∃ elements frame rest, payload = encodeJpeg elements frame rest ∧ frame.dimensions = (width, height) := by
  rw [jpegDimensions_eq_some]
  constructor
  · rintro ⟨rest, n, rfl, hframes⟩
    obtain ⟨elements, frame, rest, rfl, hdimensions⟩ := elements_of_frames hframes
    exact ⟨elements, frame, rest, rfl, hdimensions⟩
  · rintro ⟨elements, frame, rest, rfl, hdimensions⟩
    obtain ⟨n, hframe⟩ := frames_of_frame frame rest
    obtain ⟨n, hframes⟩ := frames_of_elements elements hframe
    rw [hdimensions] at hframes
    exact ⟨_, n, rfl, hframes⟩

/-- **The parser reads only bytes that are there, and it finds a width and a height in exactly the files made of SOI, elements
and a frame header that says them. So what is encoded is found.** -/
theorem jpeg_header_exact :
    (∀ payload, ∃ found, readDimensions payload = .ok found ∧ ∀ width height, found = some (width, height) ↔
      ∃ elements frame rest, payload = encodeJpeg elements frame rest ∧ frame.dimensions = (width, height)) ∧
    ∀ elements frame rest, readDimensions (encodeJpeg elements frame rest) = .ok (some frame.dimensions) := by
  constructor
  · intro payload
    exact ⟨jpegDimensions payload, readDimensions_eq, fun width height => jpegDimensions_encoded⟩
  · intro elements frame rest
    have hfound := jpegDimensions_encoded.mpr ⟨elements, frame, rest, rfl, Prod.mk.eta.symm⟩
    rw [readDimensions_eq, hfound]

end
end IRLight.Assets
