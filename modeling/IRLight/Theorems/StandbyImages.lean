import IRLight.Assets.Standby

/-! # Standby images on both sides

The Control API reads the header of the whole image, and the Node that of its first bytes. They agree on every PNG and
WebP file, and on the JPEG files whose frame header is among these bytes. -/

namespace IRLight.Assets
open Bytes Jpeg

section
variable {bytes fill rest after : Bytes} {marker : UInt8} {width height n k : ℕ} {dimensions : ℕ × ℕ}

/-! ### JPEG -/

theorem slice_zero : slice bytes 0 n = bytes.take n := by
  unfold slice
  rw [List.drop_zero]

/-- The loop at a marker. -/
theorem jpegScan_fill (hfill : Fill fill) (hmarker : marker ≠ 0xFF) : jpegScan (fill ++ marker :: after) =
    if marker = 0x00 then none
    else if marker = 0xD8 then jpegScan after
    else if marker = 0xD9 || marker = 0xDA then none
    else if marker = 0x01 || (0xD0 ≤ marker && marker ≤ 0xD7) then jpegScan after
    else if after.length < 2 then none
    else if bigEndian (slice after 0 2) < 2 then none
    else if after.length < bigEndian (slice after 0 2) then none
    else if marker ∈ jpegSofMarkers then sofDimensions after (bigEndian (slice after 0 2))
    else jpegScan (after.drop (bigEndian (slice after 0 2))) := by
  obtain ⟨hne, hall⟩ := hfill
  cases fill with
  | nil => exact absurd rfl hne
  | cons b tail =>
    have hb : b = 0xFF := hall b List.mem_cons_self
    have hdrop : (tail ++ marker :: after).dropWhile (· = 0xFF) = marker :: after := by
      rw [← List.dropWhile_cons_of_pos (a := b) (decide_eq_true hb)]
      exact dropWhile_fill ⟨hne, hall⟩ hmarker
    rw [List.cons_append, jpegScan, if_neg (not_not.mpr hb)]
    split
    · rename_i hnil
      rw [hdrop] at hnil
      cases hnil
    · rename_i marker' after' hcons
      rw [hdrop] at hcons
      obtain ⟨rfl, rfl⟩ := List.cons.inj hcons
      rfl

/-- The loop gives up where there is no marker. -/
theorem jpegScan_of_head (h : ∀ b ∈ rest.head?, b ≠ 0xFF) : jpegScan rest = none := by
  cases rest with
  | nil => rw [jpegScan]
  | cons b tail => rw [jpegScan, if_pos (h b rfl)]

theorem jpegScan_of_fill (h : Fill rest) : jpegScan rest = none := by
  obtain ⟨hne, hall⟩ := h
  cases rest with
  | nil => rw [jpegScan]
  | cons b tail =>
    rw [jpegScan, if_neg (not_not.mpr (hall b List.mem_cons_self))]
    split
    · rfl
    · rename_i marker after hdrop
      have hnil : tail.dropWhile (· = 0xFF) = [] :=
        List.dropWhile_eq_nil_iff.mpr fun c hc => decide_eq_true (hall c (List.mem_cons_of_mem b hc))
      rw [hnil] at hdrop
      cases hdrop

/-- The loop finds a marker, or it gives up. -/
theorem jpegScan_split (rest : Bytes) : jpegScan rest = none ∨ ∃ fill marker after, rest = fill ++ marker :: after ∧
    Fill fill ∧ marker ≠ 0xFF := by
  rcases fill_cases rest with hmarker | hfill | hhead
  · exact .inr hmarker
  · exact .inl (jpegScan_of_fill hfill)
  · exact .inl (jpegScan_of_head hhead)

theorem standsAlone_iff : standsAlone marker ↔ marker = 0xD8 ∨ marker = 0x01 ∨ (0xD0 ≤ marker ∧ marker ≤ 0xD7) := by
  unfold standsAlone
  simp only [Bool.or_eq_true, Bool.and_eq_true, decide_eq_true_eq, or_assoc]

theorem jpegSofMarkers_eq : jpegSofMarkers = frameMarkers := rfl

/-- The first eight bytes of a frame header. -/
theorem exists_frame_bytes (h : 8 ≤ after.length) : ∃ hi lo precision h₁ h₀ w₁ w₀ components tail,
    after = hi :: lo :: precision :: h₁ :: h₀ :: w₁ :: w₀ :: components :: tail := by
  match after, h with
  | hi :: lo :: precision :: h₁ :: h₀ :: w₁ :: w₀ :: components :: tail, _ =>
    exact ⟨hi, lo, precision, h₁, h₀, w₁, w₀, components, tail, rfl⟩

/-- A frame header that is accepted. -/
theorem sofDimensions_eq_some (hlength : bigEndian (slice after 0 2) ≤ after.length) (hfill : Fill fill)
    (hmarker : marker ∈ frameMarkers) (h : sofDimensions after (bigEndian (slice after 0 2)) = some (width, height)) :
    ∃ n, Frames (fill ++ marker :: after) width height n := by
  unfold sofDimensions at h
  split at h
  · cases h
  · rename_i heleven
    dsimp only at h
    split at h
    · cases h
    · rename_i hvalues
      split at h
      · cases h
      · rename_i hcount
        have height : 8 ≤ after.length := by omega
        obtain ⟨hi, lo, precision, h₁, h₀, w₁, w₀, components, tail, rfl⟩ := exists_frame_bytes height
        have hpair : bigEndian [hi, lo] = 8 + 3 * components.toNat := not_not.mp hcount
        simp only [Bool.or_eq_true, decide_eq_true_eq, not_or, not_le, not_lt] at hvalues
        obtain ⟨⟨hpositive, hsmall⟩, hcomponents⟩ := hvalues
        have hlong : 3 * components.toNat ≤ tail.length := by
          have hle : bigEndian [hi, lo] ≤ tail.length + 8 := hlength
          omega
        have hbody : (tail.take (3 * components.toNat)).length = 3 * components.toNat := List.length_take_of_le hlong
        obtain ⟨rfl, rfl⟩ := Prod.mk.inj (Option.some.inj h)
        rw [← List.take_append_drop (3 * components.toNat) tail]
        exact ⟨_, .frame hfill hmarker ⟨hpositive, hsmall⟩ hcomponents hbody (by rw [hpair, hbody])⟩

/-- A segment that the loop skips. -/
theorem frames_of_segment (hlength : 2 ≤ bigEndian (slice after 0 2)) (hlong : bigEndian (slice after 0 2) ≤ after.length)
    (hfill : Fill fill) (hmarker : precedesFrame marker)
    (hrest : Frames (after.drop (bigEndian (slice after 0 2))) width height n) :
    ∃ n, Frames (fill ++ marker :: after) width height n := by
  match after, hlong.trans' hlength with
  | hi :: lo :: tail, _ =>
    change 2 ≤ bigEndian [hi, lo] at hlength
    change bigEndian [hi, lo] ≤ tail.length + 2 at hlong
    change Frames ((hi :: lo :: tail).drop (bigEndian [hi, lo])) width height n at hrest
    obtain ⟨k, hk⟩ := Nat.exists_eq_add_of_le hlength
    have hbody : (tail.take k).length = k := List.length_take_of_le (by omega)
    rw [hk, Nat.add_comm, List.drop_succ_cons, List.drop_succ_cons] at hrest
    rw [← List.take_append_drop k tail]
    exact ⟨_, .segment hfill hmarker (by rw [hk, hbody]) hrest⟩

/-- The loop finds nothing but a frame header. -/
theorem frames_of_jpegScan (h : jpegScan rest = some (width, height)) : ∃ n, Frames rest width height n := by
  induction hlength : rest.length using Nat.strong_induction_on generalizing rest with
  | _ k ih =>
    rcases jpegScan_split rest with hnone | ⟨fill, marker, after, rfl, hfill, hmarker⟩
    · rw [hnone] at h
      cases h
    have hshorter : after.length < k := by
      rw [← hlength, List.length_append, List.length_cons]
      omega
    rw [jpegScan_fill hfill hmarker] at h
    split at h
    · cases h
    · rename_i hzero
      split at h
      · rename_i hsoi
        obtain ⟨n, hrest⟩ := ih _ hshorter h rfl
        exact ⟨_, .alone hfill (standsAlone_iff.mpr (.inl hsoi)) hrest⟩
      · rename_i hsoi
        split at h
        · cases h
        · rename_i hend
          split at h
          · rename_i halone
            simp only [Bool.or_eq_true, Bool.and_eq_true, decide_eq_true_eq] at halone
            obtain ⟨n, hrest⟩ := ih _ hshorter h rfl
            exact ⟨_, .alone hfill (standsAlone_iff.mpr (.inr halone)) hrest⟩
          · rename_i halone
            split at h
            · cases h
            · rename_i htwo
              split at h
              · cases h
              · rename_i hshort
                split at h
                · cases h
                · rename_i hlong
                  split at h
                  · exact sofDimensions_eq_some (not_lt.mp hlong) hfill ‹marker ∈ jpegSofMarkers› h
                  · rename_i hsof
                    have hprecedes : precedesFrame marker := by
                      simp only [Bool.or_eq_true, Bool.and_eq_true, decide_eq_true_eq] at hend halone
                      refine ⟨fun hstands => ?_, ?_, hsof⟩
                      · exact (standsAlone_iff.mp hstands).elim hsoi halone
                      · simp only [List.mem_cons, List.not_mem_nil, or_false, not_or]
                        exact ⟨hzero, fun h => hend (.inl h), fun h => hend (.inr h), hmarker⟩
                    have hdrop : (after.drop (bigEndian (slice after 0 2))).length < k := by
                      rw [List.length_drop]
                      omega
                    obtain ⟨n, hrest⟩ := ih _ hdrop h rfl
                    exact frames_of_segment (not_lt.mp hshort) (not_lt.mp hlong) hfill hprecedes hrest

/-- The loop finds every frame header. -/
theorem jpegScan_of_frames (h : Frames rest width height n) : jpegScan rest = some (width, height) := by
  induction h with
  | @alone fill marker rest width height n hfill hmarker _ ih =>
    rw [jpegScan_fill hfill (standsAlone_ne hmarker)]
    rcases standsAlone_iff.mp hmarker with rfl | rfl | hrst
    · exact ih
    · exact ih
    · have hne : ∀ m : UInt8, 0xD0 ≤ m ∧ m ≤ 0xD7 → m ≠ 0x00 ∧ m ≠ 0xD8 ∧ m ≠ 0xD9 ∧ m ≠ 0xDA := by
        rintro m ⟨hle, hge⟩
        refine ⟨?_, ?_, ?_, ?_⟩ <;> rintro rfl <;> revert hle hge <;> decide
      obtain ⟨hzero, hsoi, heoi, hsos⟩ := hne marker hrst
      rw [if_neg hzero, if_neg hsoi, if_neg (by simp [heoi, hsos]), if_pos (by simp [hrst]), ih]
  | @segment fill marker hi lo body rest width height n hfill hmarker hlength _ ih =>
    obtain ⟨halone, hothers, hsof⟩ := hmarker
    simp only [List.mem_cons, List.not_mem_nil, or_false, not_or] at hothers
    obtain ⟨hzero, heoi, hsos, hmarker⟩ := hothers
    rw [standsAlone_iff, not_or, not_or] at halone
    have hslice : bigEndian (slice (hi :: lo :: (body ++ rest)) 0 2) = 2 + body.length := hlength
    rw [jpegScan_fill hfill hmarker, if_neg hzero, if_neg halone.1, if_neg (by simp [heoi, hsos]),
      if_neg (by simpa using halone.2), if_neg (by simp), hslice, if_neg (by omega), if_neg (by simp; omega),
      jpegSofMarkers_eq, if_neg hsof, Nat.add_comm, List.drop_succ_cons, List.drop_succ_cons, List.drop_left, ih]
  | @frame fill marker hi lo precision h₁ h₀ w₁ w₀ components body rest hfill hmarker hprecision hcomponents hbody hlength =>
    have hall : frameMarkers.all (fun m => m ∉ [0x00, 0xD9, 0xDA]) = true := by decide
    have hothers := of_decide_eq_true (List.all_eq_true.mp hall marker hmarker)
    simp only [List.mem_cons, List.not_mem_nil, or_false, not_or] at hothers
    obtain ⟨hzero, heoi, hsos⟩ := hothers
    have halone := not_standsAlone hmarker
    rw [standsAlone_iff, not_or, not_or] at halone
    obtain ⟨hsoi, htem, hrst⟩ := halone
    have hslice : bigEndian (slice
        (hi :: lo :: precision :: h₁ :: h₀ :: w₁ :: w₀ :: components :: (body ++ rest)) 0 2) = 8 + body.length := hlength
    rw [jpegScan_fill hfill (frameMarker_ne hmarker), if_neg hzero, if_neg hsoi, if_neg (by simp [heoi, hsos]),
      if_neg (by simpa [htem] using hrst), if_neg (by simp), hslice, if_neg (by omega), if_neg (by simp; omega),
      jpegSofMarkers_eq, if_pos hmarker]
    unfold sofDimensions
    rw [if_neg (by omega)]
    change (if precision.toNat ≤ 0 || 16 < precision.toNat || components.toNat ≤ 0 then none
      else if 8 + body.length ≠ 8 + 3 * components.toNat then none else some (bigEndian [w₁, w₀], bigEndian [h₁, h₀])) = _
    rw [if_neg (by simp; omega), if_neg (by rw [hbody]; exact not_not.mpr rfl)]

theorem startsWith_jpeg : startsWith bytes jpegSignature ↔ ∃ rest, bytes = 0xFF :: 0xD8 :: rest := by
  unfold startsWith
  rw [decide_eq_true_eq]
  constructor
  · intro h
    refine ⟨bytes.drop 2, ?_⟩
    rw [← List.take_append_drop 2 bytes, show bytes.take 2 = _ from h]
    rfl
  · rintro ⟨rest, rfl⟩
    rfl

/-- What is read of a JPEG file is its frame header. -/
theorem jpegDimensions_eq_some : jpegDimensions bytes = some (width, height) ↔
    ∃ rest n, bytes = 0xFF :: 0xD8 :: rest ∧ Frames rest width height n := by
  unfold jpegDimensions
  constructor
  · intro h
    split at h
    · cases h
    · rename_i hstart
      simp only [Bool.or_eq_true, decide_eq_true_eq, Bool.not_eq_true', not_or, Bool.not_eq_false] at hstart
      obtain ⟨rest, rfl⟩ := startsWith_jpeg.mp hstart.2
      obtain ⟨n, hframes⟩ := frames_of_jpegScan h
      exact ⟨rest, n, rfl, hframes⟩
  · rintro ⟨rest, n, rfl, hframes⟩
    have hstart : startsWith (0xFF :: 0xD8 :: rest) jpegSignature = true := startsWith_jpeg.mpr ⟨rest, rfl⟩
    have hlong : 2 ≤ rest.length := hframes.two_le.trans hframes.length_le
    rw [hstart, if_neg (by simp; omega)]
    exact jpegScan_of_frames hframes

/-- In the first bytes the frame header is found when it ends there. -/
theorem jpegDimensions_take (hk : 2 ≤ k) : jpegDimensions (bytes.take k) = some (width, height) ↔
    ∃ rest n, bytes = 0xFF :: 0xD8 :: rest ∧ Frames rest width height n ∧ 2 + n ≤ k := by
  obtain ⟨k, rfl⟩ := Nat.exists_eq_add_of_le' hk
  rw [jpegDimensions_eq_some]
  constructor
  · rintro ⟨rest, n, htake, hframes⟩
    match bytes, htake with
    | _ :: _ :: tail, htake =>
      rw [List.take_succ_cons, List.take_succ_cons] at htake
      simp only [List.cons.injEq] at htake
      obtain ⟨rfl, rfl, rfl⟩ := htake
      obtain ⟨hframes, hle⟩ := hframes.of_take
      exact ⟨tail, n, rfl, hframes, by omega⟩
  · rintro ⟨rest, n, rfl, hframes, hle⟩
    exact ⟨rest.take k, n, by rw [List.take_succ_cons, List.take_succ_cons], hframes.take (by omega)⟩

/-! ### The other formats -/

theorem length_take_lt {m : ℕ} (h : m ≤ k) : (bytes.take k).length < m ↔ bytes.length < m := by
  rw [List.length_take]
  omega

theorem byteAt_take {i : ℕ} (h : i < k) : byteAt (bytes.take k) i = byteAt bytes i := by
  unfold byteAt
  rw [getD_take h]

/-- A PNG file is read by its first 33 bytes. -/
theorem pngDimensions_take {crc : Bytes → UInt32} (hk : 33 ≤ k) : pngDimensions crc (bytes.take k) = pngDimensions crc bytes := by
  have hstart : startsWith (bytes.take k) pngSignature = startsWith bytes pngSignature := startsWith_take (by
    change 8 ≤ k
    omega)
  unfold pngDimensions
  rw [hstart, slice_take (by omega), slice_take (by omega), slice_take (by omega), slice_take (by omega)]
  simp only [length_take_lt hk]

/-- A WebP file is read by its first 30 bytes. -/
theorem webpDimensions_take {size : ℕ} (hk : 30 ≤ k) : webpDimensions (bytes.take k) size = webpDimensions bytes size := by
  have htwenty : 20 ≤ k := by omega
  have htwentyFive : 25 ≤ k := by omega
  unfold webpDimensions
  simp only [length_take_lt hk, length_take_lt htwenty, length_take_lt htwentyFive]
  rw [slice_take (by omega), slice_take (by omega), slice_take (by omega), slice_take (by omega), slice_take (by omega),
    slice_take (by omega), slice_take (by omega), slice_take (by omega), slice_take (by omega), slice_take (by omega),
    byteAt_take (by omega), byteAt_take (by omega), byteAt_take (by omega), byteAt_take (by omega), byteAt_take (by omega)]

/-- Both sides take the same checksum. -/
theorem pngDimensions_eq : Standby.pngDimensions = Processing.pngDimensions := by
  unfold Standby.pngDimensions Processing.pngDimensions
  simp only [crc32_append]

/-! ### Both sides -/

/-- The first bytes of an image give what the whole image gives, and if it is a JPEG file its frame header ends there. -/
theorem dimensionsBySignature_take {png : Bytes → Option (ℕ × ℕ)} {size : ℕ} (hk : 33 ≤ k)
    (hpng : png (bytes.take k) = png bytes) :
    dimensionsBySignature png (bytes.take k) size = some dimensions ↔ dimensionsBySignature png bytes size = some dimensions ∧
      ∀ rest n, bytes = 0xFF :: 0xD8 :: rest → Frames rest dimensions.1 dimensions.2 n → 2 + n ≤ k := by
  have hpngStart : startsWith (bytes.take k) pngSignature = startsWith bytes pngSignature := startsWith_take (by
    change 8 ≤ k
    omega)
  have hjpegStart : startsWith (bytes.take k) jpegSignature = startsWith bytes jpegSignature := startsWith_take (by
    change 2 ≤ k
    omega)
  unfold dimensionsBySignature
  rw [hpngStart, hjpegStart, hpng, slice_take (by omega), slice_take (by omega), webpDimensions_take (by omega)]
  by_cases hjpeg : startsWith bytes jpegSignature
  · obtain ⟨rest, rfl⟩ := startsWith_jpeg.mp hjpeg
    have hnot : ¬startsWith (0xFF :: 0xD8 :: rest) pngSignature = true := by
      unfold startsWith
      rw [decide_eq_true_eq]
      intro h
      cases (List.cons.inj h).1
    rw [if_neg hnot, if_neg hnot, if_pos hjpeg, if_pos hjpeg, jpegDimensions_take (by omega), jpegDimensions_eq_some]
    constructor
    · rintro ⟨rest', n, heq, hframes, hle⟩
      refine ⟨⟨rest', n, heq, hframes⟩, fun rest'' n' heq' hframes' => ?_⟩
      simp only [List.cons.injEq, true_and] at heq heq'
      obtain rfl := heq
      obtain rfl := heq'
      rwa [(hframes'.unique hframes).2.2]
    · rintro ⟨⟨rest', n, heq, hframes⟩, hends⟩
      exact ⟨rest', n, heq, hframes, hends rest' n heq hframes⟩
  · simp only [if_neg hjpeg]
    refine (and_iff_left fun rest n heq _ => ?_).symm
    exact absurd (startsWith_jpeg.mpr ⟨rest, heq⟩) hjpeg

/-- A JPEG file has the dimensions in its frame header. -/
theorem dimensionsBySignature_jpeg {png : Bytes → Option (ℕ × ℕ)} {size : ℕ} (hframes : Frames rest width height n) :
    dimensionsBySignature png (0xFF :: 0xD8 :: rest) size = some (width, height) := by
  have hnot : ¬startsWith (0xFF :: 0xD8 :: rest) pngSignature = true := by
    unfold startsWith
    rw [decide_eq_true_eq]
    intro h
    cases (List.cons.inj h).1
  unfold dimensionsBySignature
  rw [if_neg hnot, if_pos (startsWith_jpeg.mpr ⟨rest, rfl⟩)]
  exact jpegDimensions_eq_some.mpr ⟨rest, n, rfl, hframes⟩

/-- The copying loop keeps the first bytes. -/
theorem keepPrefix_eq (chunks : List Bytes) (k : ℕ) : Standby.keepPrefix chunks k = chunks.flatten.take k := by
  induction chunks generalizing k with
  | nil => exact (List.take_nil).symm
  | cons chunk chunks ih =>
    rw [Standby.keepPrefix, List.flatten_cons, List.take_append]
    dsimp only
    split
    · rw [ih, List.length_take]
      congr 2
      omega
    · rename_i hzero
      obtain rfl := Nat.eq_zero_of_not_pos hzero
      rw [ih, Nat.zero_sub, List.take_zero, List.take_zero, List.nil_append]

/-- What the Node accepts. -/
theorem openSupportedImage_eq_some {file : Standby.StableFile} : Standby.openSupportedImage file = some dimensions ↔
    file.bytes ≠ [] ∧ file.bytes.length ≤ maxImageBytes ∧ Standby.dimensionsAreSafe dimensions ∧
      dimensionsBySignature Processing.pngDimensions file.bytes file.bytes.length = some dimensions ∧
      ∀ rest n, file.bytes = 0xFF :: 0xD8 :: rest → Frames rest dimensions.1 dimensions.2 n → 2 + n ≤ maxImageHeaderBytes := by
  have hkept : Standby.keepPrefix file.chunks (min file.bytes.length maxImageHeaderBytes) =
      file.bytes.take maxImageHeaderBytes := by
    rw [keepPrefix_eq]
    change file.bytes.take _ = _
    rw [Nat.min_comm, ← List.take_take, List.take_of_length_le le_rfl]
  have hpng : Processing.pngDimensions (file.bytes.take maxImageHeaderBytes) = Processing.pngDimensions file.bytes :=
    pngDimensions_take (by decide)
  rw [← dimensionsBySignature_take (by decide) hpng]
  unfold Standby.openSupportedImage Standby.snapshotRegularFilePrefix Standby.supportedImageDimensions
  dsimp only
  rw [hkept, pngDimensions_eq]
  split
  · rename_i hsize
    refine iff_of_false (fun h => by cases h) ?_
    rintro ⟨hne, hle, -⟩
    exact hsize.elim (fun h => hne (List.length_eq_zero_iff.mp (Nat.le_zero.mp h))) (not_lt.mpr hle)
  · rename_i hsize
    rw [Nat.le_zero, List.length_eq_zero_iff, not_or, not_lt] at hsize
    simp only [Option.bind_eq_bind, Option.bind_some, Option.bind_eq_some_iff]
    constructor
    · rintro ⟨found, hfound, hsafe⟩
      split at hsafe
      · rename_i h
        obtain rfl := Option.some.inj hsafe
        exact ⟨hsize.1, hsize.2, h, hfound⟩
      · cases hsafe
    · rintro ⟨-, -, hsafe, hfound⟩
      exact ⟨dimensions, hfound, if_pos hsafe⟩

/-- The limits of the Control API are those of the Node. -/
theorem dimensionsAreSafe_iff : Standby.dimensionsAreSafe (width, height) ↔
    (0 < width ∧ 0 < height) ∧ (width ≤ maxImageDimension ∧ height ≤ maxImageDimension) ∧ width ≤ maxImagePixels / height := by
  unfold Standby.dimensionsAreSafe
  simp only [Bool.or_eq_true, decide_eq_true_eq, Nat.le_zero]
  split
  · rename_i h
    exact iff_of_false Bool.false_ne_true fun hsafe => by omega
  · rename_i hpos
    split
    · rename_i h
      exact iff_of_false Bool.false_ne_true fun hsafe => by omega
    · rename_i hdimension
      rw [decide_eq_true_iff]
      exact ⟨fun h => ⟨by omega, by omega, h⟩, fun h => h.2.2⟩

/-- A file with dimensions has a content type. -/
theorem contentTypeOf_ne_none {png : Bytes → Option (ℕ × ℕ)} {size : ℕ}
    (h : dimensionsBySignature png bytes size = some dimensions) : ∃ contentType, Processing.contentTypeOf bytes = some contentType := by
  unfold dimensionsBySignature at h
  unfold Processing.contentTypeOf
  split at h
  · rename_i hpng
    exact ⟨_, if_pos hpng⟩
  · rename_i hpng
    rw [if_neg hpng]
    split at h
    · rename_i hjpeg
      exact ⟨_, if_pos hjpeg⟩
    · rename_i hjpeg
      rw [if_neg hjpeg]
      split at h
      · rename_i hwebp
        exact ⟨_, if_pos hwebp⟩
      · cases h

/-- What the Control API reads from a file. -/
theorem imageDimensions_eq_some : Processing.imageDimensions bytes = some dimensions ↔
    bytes.length ≤ maxImageBytes ∧ dimensionsBySignature Processing.pngDimensions bytes bytes.length = some dimensions := by
  unfold Processing.imageDimensions
  split
  · rename_i h
    exact iff_of_false (fun h => by cases h) fun hle => not_lt.mpr hle.1 h
  · rename_i h
    exact (and_iff_right (not_lt.mp h)).symm

/-- What the Control API accepts. -/
theorem normalizeImageBlob_ok (sha256 : Bytes → Digest) :
    (∃ r, Processing.normalizeImageBlob sha256 (.bytes bytes) = .ok r ∧ r.width = width ∧ r.height = height) ↔
      bytes ≠ [] ∧ Processing.imageDimensions bytes = some (width, height) ∧ Standby.dimensionsAreSafe (width, height) := by
  rw [dimensionsAreSafe_iff]
  unfold Processing.normalizeImageBlob
  constructor
  · rintro ⟨r, h, rfl, rfl⟩
    dsimp only at h
    split at h
    · cases h
    · rename_i hsize
      split at h
      · cases h
      · split at h
        · cases h
        · rename_i hdimensions
          split at h
          · cases h
          · split at h
            · cases h
            · split at h
              · cases h
              · cases h
                refine ⟨fun hnil => hsize (.inl hnil), hdimensions, ?_⟩
                dsimp only
                omega
  · rintro ⟨hne, hdimensions, hpos, hdimension, hpixels⟩
    obtain ⟨hle, hsignature⟩ := imageDimensions_eq_some.mp hdimensions
    obtain ⟨contentType, hcontentType⟩ := contentTypeOf_ne_none hsignature
    refine ⟨⟨contentType, width, height, bytes.length, sha256 bytes⟩, ?_, rfl, rfl⟩
    dsimp only
    rw [if_neg (by rintro (h | h); exacts [hne h, not_lt.mpr hle h]), hcontentType, hdimensions]
    dsimp only
    rw [if_neg (by omega), if_neg (by omega), if_neg (by omega)]

/-- **Every image that the Control API accepts is accepted by the Node, which reads the same dimensions, and every file
that the Node accepts has the dimensions that the Control API reads, exactly if the file is not a JPEG within the limits
whose frame header ends after the bytes that the Node keeps.** -/
theorem standby_images_agree_iff (sha256 : Bytes → Digest) (file : Standby.StableFile) :
    ((∀ r, Processing.normalizeImageBlob sha256 (.bytes file.bytes) = .ok r →
        Standby.openSupportedImage file = some (r.width, r.height) ∧
          ∀ fallback, (Standby.resolveStandbyAsset ⟨true, some file⟩ fallback).source = .custom) ∧
      ∀ dimensions, Standby.openSupportedImage file = some dimensions →
        Processing.imageDimensions file.bytes = some dimensions) ↔
    ∀ rest width height n, file.bytes = 0xFF :: 0xD8 :: rest → Frames rest width height n →
      file.bytes.length ≤ maxImageBytes → Standby.dimensionsAreSafe (width, height) → 2 + n ≤ maxImageHeaderBytes := by
  constructor
  · rintro ⟨haccepts, -⟩ rest width height n hbytes hframes hle hsafe
    have hne : file.bytes ≠ [] := by
      rw [hbytes]
      exact List.cons_ne_nil _ _
    have hsignature : dimensionsBySignature Processing.pngDimensions file.bytes file.bytes.length = some (width, height) := by
      rw [hbytes]
      exact dimensionsBySignature_jpeg hframes
    obtain ⟨r, hr, rfl, rfl⟩ := (normalizeImageBlob_ok sha256).mpr
      ⟨hne, imageDimensions_eq_some.mpr ⟨hle, hsignature⟩, hsafe⟩
    exact (openSupportedImage_eq_some.mp (haccepts r hr).1).2.2.2.2 rest n hbytes hframes
  · intro hends
    refine ⟨fun r hr => ?_, fun dimensions hopen => ?_⟩
    · obtain ⟨hne, hdimensions, hsafe⟩ := (normalizeImageBlob_ok sha256).mp ⟨r, hr, rfl, rfl⟩
      obtain ⟨hle, hsignature⟩ := imageDimensions_eq_some.mp hdimensions
      have hopen : Standby.openSupportedImage file = some (r.width, r.height) := openSupportedImage_eq_some.mpr
        ⟨hne, hle, hsafe, hsignature, fun rest n hbytes hframes => hends rest _ _ n hbytes hframes hle hsafe⟩
      refine ⟨hopen, fun fallback => ?_⟩
      have hopens : Standby.Candidate.opens ⟨true, some file⟩ := by
        unfold Standby.Candidate.opens
        rw [Option.bind_some, hopen]
        rfl
      unfold Standby.resolveStandbyAsset
      rw [if_pos hopens]
    · obtain ⟨-, hle, -, hsignature, -⟩ := openSupportedImage_eq_some.mp hopen
      exact imageDimensions_eq_some.mpr ⟨hle, hsignature⟩

/-! ### A long color profile -/

/-- A segment with 65000 bytes of a color profile. -/
def profileSegment : Bytes := [0xFF, 0xE2, 0xFD, 0xEA] ++ List.replicate 65000 0

/-- The frame header of a picture of 16 by 16. -/
def smallFrame : Bytes := [0xFF, 0xC0, 0x00, 0x0B, 0x08, 0x00, 0x10, 0x00, 0x10, 0x01, 0x01, 0x11, 0x00]

/-- A JPEG file with so many segments of a color profile. -/
def profiled (segments : ℕ) : Standby.StableFile where
  chunks := [0xFF, 0xD8] :: (List.replicate segments profileSegment ++ [smallFrame])
  chunks_ne := by
    intro chunk hchunk
    rcases List.mem_cons.mp hchunk with rfl | hchunk
    · exact List.cons_ne_nil _ _
    · rcases List.mem_append.mp hchunk with h | h
      · rw [List.eq_of_mem_replicate h]
        exact List.cons_ne_nil _ _
      · rw [List.mem_singleton.mp h]
        exact List.cons_ne_nil _ _

theorem profiled_bytes (segments : ℕ) : (profiled segments).bytes =
    0xFF :: 0xD8 :: ((List.replicate segments profileSegment).flatten ++ smallFrame) := by
  unfold profiled Standby.StableFile.bytes
  rw [List.flatten_cons, List.flatten_append, List.flatten_singleton]
  rfl

theorem length_profileSegment : profileSegment.length = 65004 := by
  unfold profileSegment
  rw [List.length_append, List.length_replicate]
  rfl

theorem length_profiled (segments : ℕ) : (profiled segments).bytes.length = 65004 * segments + 15 := by
  rw [profiled_bytes, List.length_cons, List.length_cons, List.length_append, List.length_flatten, List.map_replicate,
    List.sum_replicate_nat, length_profileSegment, Nat.mul_comm]
  rfl

theorem profileSegment_append : profileSegment ++ bytes = [0xFF] ++ 0xE2 :: 0xFD :: 0xEA :: (List.replicate 65000 0 ++ bytes) := by
  unfold profileSegment
  rw [List.append_assoc]
  rfl

theorem fill_singleton : Fill [0xFF] := by
  refine ⟨List.cons_ne_nil _ _, fun b hb => ?_⟩
  exact List.mem_singleton.mp hb

theorem smallFrame_frames : Frames smallFrame 16 16 13 := by
  have hmarker : (0xC0 : UInt8) ∈ frameMarkers := by decide
  have hprecision : 0 < (0x08 : UInt8).toNat ∧ (0x08 : UInt8).toNat ≤ 16 := by decide
  have hcomponents : 0 < (0x01 : UInt8).toNat := by decide
  have hbody : [(0x01 : UInt8), 0x11, 0x00].length = 3 * (0x01 : UInt8).toNat := rfl
  have hlength : bigEndian [0x00, 0x0B] = 8 + [(0x01 : UInt8), 0x11, 0x00].length := rfl
  exact @Frames.frame [0xFF] 0xC0 0x00 0x0B 0x08 0x00 0x10 0x00 0x10 0x01 [0x01, 0x11, 0x00] [] fill_singleton hmarker
    hprecision hcomponents hbody hlength

theorem frames_profiled (segments : ℕ) :
    Frames ((List.replicate segments profileSegment).flatten ++ smallFrame) 16 16 (65004 * segments + 13) := by
  induction segments with
  | zero => exact smallFrame_frames
  | succ segments ih =>
    have hmarker : precedesFrame 0xE2 := by
      unfold precedesFrame
      decide
    have hlength : bigEndian [0xFD, 0xEA] = 2 + (List.replicate 65000 (0 : UInt8)).length := by
      rw [List.length_replicate]
      rfl
    have hsegment := Frames.segment fill_singleton hmarker hlength ih
    have hn : [(0xFF : UInt8)].length + 1 + (2 + 65000) + (65004 * segments + 13) = 65004 * (segments + 1) + 13 := by
      rw [List.length_singleton]
      omega
    rw [List.length_replicate, hn] at hsegment
    rw [List.replicate_succ, List.flatten_cons, List.append_assoc, profileSegment_append]
    exact hsegment

/-- The Control API accepts a picture of 16 by 16 after more than a MiB of color profile, and the Node shows black. -/
theorem long_profile_shows_black :
    (∃ r, Processing.normalizeImageBlob (fun _ => ⟨0⟩) (.bytes (profiled 17).bytes) = .ok r ∧ r.width = 16 ∧ r.height = 16) ∧
      Standby.openSupportedImage (profiled 17) = none ∧
        Standby.resolveStandbyAsset ⟨true, some (profiled 17)⟩ ⟨false, none⟩ =
          ⟨.syntheticBlack, some "ASSET_AND_NODE_DEFAULT_UNAVAILABLE", true⟩ := by
  have hbytes := profiled_bytes 17
  have hframes := frames_profiled 17
  have hlength := length_profiled 17
  have hsignature : dimensionsBySignature Processing.pngDimensions (profiled 17).bytes (profiled 17).bytes.length =
      some (16, 16) := by
    rw [hbytes]
    exact dimensionsBySignature_jpeg hframes
  have hle : (profiled 17).bytes.length ≤ maxImageBytes := by
    rw [hlength]
    decide
  have hopen : Standby.openSupportedImage (profiled 17) = none := by
    cases hd : Standby.openSupportedImage (profiled 17) with
    | none => rfl
    | some dimensions =>
      obtain ⟨-, -, -, hread, hends⟩ := openSupportedImage_eq_some.mp hd
      obtain rfl := Option.some.inj (hsignature.symm.trans hread)
      exact absurd (hends _ _ hbytes hframes) (by decide)
  refine ⟨(normalizeImageBlob_ok _).mpr ⟨?_, imageDimensions_eq_some.mpr ⟨hle, hsignature⟩, by decide⟩, hopen, ?_⟩
  · rw [hbytes]
    exact List.cons_ne_nil _ _
  · have hcloses : ¬(Standby.Candidate.opens ⟨true, some (profiled 17)⟩ = true) := by
      unfold Standby.Candidate.opens
      rw [Option.bind_some, hopen]
      decide
    unfold Standby.resolveStandbyAsset
    rw [if_neg hcloses]
    rfl

end
end IRLight.Assets
