import IRLight.Formats.Jpeg

/-! # Image headers

The parsers that the Control API and the Node have each a copy of. They read the width and the height of a PNG, a JPEG
and a WebP file. -/

namespace IRLight.Assets
open Bytes

def pngSignature : Bytes := [0x89, 0x50, 0x4E, 0x47, 0x0D, 0x0A, 0x1A, 0x0A]
def jpegSignature : Bytes := [0xFF, 0xD8]
def riff : Bytes := [0x52, 0x49, 0x46, 0x46]
def webp : Bytes := [0x57, 0x45, 0x42, 0x50]
def ihdr : Bytes := [0x49, 0x48, 0x44, 0x52]

/-- `payload[i]`, where the payload is that long. -/
def byteAt (payload : Bytes) (i : ℕ) : ℕ := (payload.getD i 0).toNat

/-! ### PNG -/

/-- `allowed_depths.get(color_type, set())`. -/
def allowedDepths : ℕ → List ℕ
  | 0 => [1, 2, 4, 8, 16]
  | 2 | 4 | 6 => [8, 16]
  | 3 => [1, 2, 4, 8]
  | _ => []

/-- `_png_dimensions`, with the way in which the checksum of the header's fields is taken. -/
def pngDimensions (actualCrc : Bytes → UInt32) (payload : Bytes) : Option (ℕ × ℕ) :=
  if payload.length < 33 || !startsWith payload pngSignature then none
  else if slice payload 8 12 ≠ [0, 0, 0, 0x0D] || slice payload 12 16 ≠ ihdr then none
  else
    let fields := slice payload 16 29
    if (actualCrc fields).toNat ≠ bigEndian (slice payload 29 33) then none
    else if !(byteAt fields 8 ∈ allowedDepths (byteAt fields 9)) then none
    else if byteAt fields 10 ≠ 0 || byteAt fields 11 ≠ 0 || !(byteAt fields 12 ∈ [0, 1]) then none
    else some (bigEndian (slice fields 0 4), bigEndian (slice fields 4 8))

/-! ### JPEG -/

/-- `_JPEG_SOF_MARKERS`. -/
def jpegSofMarkers : List UInt8 :=
  [0xC0, 0xC1, 0xC2, 0xC3, 0xC5, 0xC6, 0xC7, 0xC9, 0xCA, 0xCB, 0xCD, 0xCE, 0xCF]

/-- The frame header after its marker. -/
def sofDimensions (rest : Bytes) (segmentLength : ℕ) : Option (ℕ × ℕ) :=
  if segmentLength < 11 then none
  else
    let precision := byteAt rest 2
    let height := bigEndian (slice rest 3 5)
    let width := bigEndian (slice rest 5 7)
    let componentCount := byteAt rest 7
    if precision ≤ 0 || 16 < precision || componentCount ≤ 0 then none
    else if segmentLength ≠ 8 + 3 * componentCount then none
    else some (width, height)

theorem length_lt_of_dropWhile {tail after : Bytes} {marker : UInt8}
    (h : tail.dropWhile (· = 0xFF) = marker :: after) : after.length < tail.length := by
  have hle := (List.dropWhile_sublist (l := tail) (· = 0xFF)).length_le
  rw [h, List.length_cons] at hle
  exact hle

/-- The loop of `_jpeg_dimensions`, on what follows the offset. -/
def jpegScan (rest : Bytes) : Option (ℕ × ℕ) :=
  match rest with
  | [] => none
  | b :: tail =>
    if b ≠ 0xFF then none
    else
      match _h : tail.dropWhile (· = 0xFF) with
      | [] => none
      | marker :: after =>
        if marker = 0x00 then none
        else if marker = 0xD8 then jpegScan after
        else if marker = 0xD9 || marker = 0xDA then none
        else if marker = 0x01 || (0xD0 ≤ marker && marker ≤ 0xD7) then jpegScan after
        else if after.length < 2 then none
        else
          let segmentLength := bigEndian (slice after 0 2)
          if segmentLength < 2 then none
          else if after.length < segmentLength then none
          else if marker ∈ jpegSofMarkers then sofDimensions after segmentLength
          else jpegScan (after.drop segmentLength)
termination_by rest.length
decreasing_by
  all_goals
    have hlt := length_lt_of_dropWhile _h
    simp only [List.length_cons, List.length_drop]
    omega

/-- `_jpeg_dimensions`. -/
def jpegDimensions (payload : Bytes) : Option (ℕ × ℕ) :=
  if payload.length < 4 || !startsWith payload jpegSignature then none else jpegScan (payload.drop 2)

/-! ### WebP -/

/-- `_webp_dimensions`. -/
def webpDimensions (payload : Bytes) (fileSize : ℕ) : Option (ℕ × ℕ) :=
  if payload.length < 20 || slice payload 0 4 ≠ riff || slice payload 8 12 ≠ webp then none
  else if littleEndian (slice payload 4 8) + 8 ≠ fileSize then none
  else
    let chunkType := slice payload 12 16
    let chunkSize := littleEndian (slice payload 16 20)
    let paddedChunkSize := chunkSize + (chunkSize &&& 1)
    if fileSize < 20 + paddedChunkSize then none
    -- b"VP8X"
    else if chunkType = [0x56, 0x50, 0x38, 0x58] then
      if chunkSize ≠ 10 || payload.length < 30 then none
      else some (1 + littleEndian (slice payload 24 27), 1 + littleEndian (slice payload 27 30))
    -- b"VP8L"
    else if chunkType = [0x56, 0x50, 0x38, 0x4C] then
      if chunkSize < 5 || payload.length < 25 || byteAt payload 20 ≠ 0x2F then none
      else
        let b₁ := byteAt payload 21
        let b₂ := byteAt payload 22
        let b₃ := byteAt payload 23
        let b₄ := byteAt payload 24
        some (1 + b₁ + ((b₂ &&& 0x3F) <<< 8), 1 + ((b₂ &&& 0xC0) >>> 6) + (b₃ <<< 2) + ((b₄ &&& 0x0F) <<< 10))
    -- b"VP8 "
    else if chunkType = [0x56, 0x50, 0x38, 0x20] then
      if chunkSize < 10 || payload.length < 30 || slice payload 23 26 ≠ [0x9D, 0x01, 0x2A] then none
      else some (littleEndian (slice payload 26 28) &&& 0x3FFF, littleEndian (slice payload 28 30) &&& 0x3FFF)
    else none

/-- The parser that the first bytes of a file call for, and the copy of the PNG parser among them. -/
def dimensionsBySignature (pngDimensions : Bytes → Option (ℕ × ℕ)) (payload : Bytes) (fileSize : ℕ) : Option (ℕ × ℕ) :=
  if startsWith payload pngSignature then pngDimensions payload
  else if startsWith payload jpegSignature then jpegDimensions payload
  else if slice payload 0 4 = riff ∧ slice payload 8 12 = webp then webpDimensions payload fileSize
  else none

end IRLight.Assets
