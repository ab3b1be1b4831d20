import IRLight.Formats.Bytes
import Mathlib.Data.List.TakeWhile

/-! # The marker segments of a JPEG file

What precedes the frame header: markers that stand alone, and segments with their length. The frame header says how wide
and how high the picture is. -/

namespace Jpeg

/-- Markers without a segment: SOI, TEM and RST. -/
def standsAlone (marker : UInt8) : Bool := marker = 0xD8 || marker = 0x01 || (0xD0 ≤ marker && marker ≤ 0xD7)

/-- The markers of a frame header. -/
def frameMarkers : List UInt8 :=
  [0xC0, 0xC1, 0xC2, 0xC3, 0xC5, 0xC6, 0xC7, 0xC9, 0xCA, 0xCB, 0xCD, 0xCE, 0xCF]

/-- The markers of a segment that may precede the frame header. EOI and SOS end the search, and 0 is no marker. -/
def precedesFrame (marker : UInt8) : Prop :=
  ¬standsAlone marker ∧ marker ∉ [0x00, 0xD9, 0xDA, 0xFF] ∧ marker ∉ frameMarkers

/-- The bytes before a marker: at least one 0xFF. -/
def Fill (fill : Bytes) : Prop := fill ≠ [] ∧ ∀ b ∈ fill, b = 0xFF

/-- After SOI, the bytes lead to a frame header with a width and a height, and the header ends after so many bytes. -/
inductive Frames : Bytes → ℕ → ℕ → ℕ → Prop
  | alone {fill : Bytes} {marker : UInt8} {rest : Bytes} {width height n : ℕ} (hfill : Fill fill)
      (hmarker : standsAlone marker) (hrest : Frames rest width height n) :
      Frames (fill ++ marker :: rest) width height (fill.length + 1 + n)
  | segment {fill : Bytes} {marker hi lo : UInt8} {body rest : Bytes} {width height n : ℕ} (hfill : Fill fill)
      (hmarker : precedesFrame marker) (hlength : Bytes.bigEndian [hi, lo] = 2 + body.length)
      (hrest : Frames rest width height n) :
      Frames (fill ++ marker :: hi :: lo :: (body ++ rest)) width height (fill.length + 1 + (2 + body.length) + n)
  | frame {fill : Bytes} {marker hi lo precision h₁ h₀ w₁ w₀ components : UInt8} {body rest : Bytes} (hfill : Fill fill)
      (hmarker : marker ∈ frameMarkers) (hprecision : 0 < precision.toNat ∧ precision.toNat ≤ 16)
      (hcomponents : 0 < components.toNat) (hbody : body.length = 3 * components.toNat)
      (hlength : Bytes.bigEndian [hi, lo] = 8 + body.length) :
      Frames (fill ++ marker :: hi :: lo :: precision :: h₁ :: h₀ :: w₁ :: w₀ :: components :: (body ++ rest))
        (Bytes.bigEndian [w₁, w₀]) (Bytes.bigEndian [h₁, h₀]) (fill.length + 1 + (8 + body.length))

variable {bytes more rest rest' fill fill' : Bytes} {marker marker' : UInt8} {width height width' height' n n' : ℕ}

/-- The search reads nothing after the frame header. -/
theorem Frames.split (h : Frames bytes width height n) : ∃ used rest, bytes = used ++ rest ∧ used.length = n ∧
    ∀ more, Frames (used ++ more) width height n := by
  induction h with
  | @alone fill marker rest width height n hfill hmarker _ ih =>
    obtain ⟨used, rest, rfl, rfl, hused⟩ := ih
    refine ⟨fill ++ marker :: used, rest, ?_, ?_, fun more => ?_⟩
    · rw [List.append_assoc, List.cons_append]
    · rw [List.length_append, List.length_cons]
      omega
    · rw [List.append_assoc, List.cons_append]
      exact .alone hfill hmarker (hused more)
  | @segment fill marker hi lo body rest width height n hfill hmarker hlength _ ih =>
    obtain ⟨used, rest, rfl, rfl, hused⟩ := ih
    refine ⟨fill ++ marker :: hi :: lo :: (body ++ used), rest, ?_, ?_, fun more => ?_⟩
    · simp only [List.append_assoc, List.cons_append]
    · simp only [List.length_append, List.length_cons]
      omega
    · simp only [List.append_assoc, List.cons_append]
      exact .segment hfill hmarker hlength (hused more)
  | @frame fill marker hi lo precision h₁ h₀ w₁ w₀ components body rest hfill hmarker hprecision hcomponents hbody hlength =>
    refine ⟨fill ++ marker :: hi :: lo :: precision :: h₁ :: h₀ :: w₁ :: w₀ :: components :: body, rest, ?_, ?_,
      fun more => ?_⟩
    · simp only [List.append_assoc, List.cons_append]
    · simp only [List.length_append, List.length_cons]
      omega
    · simp only [List.append_assoc, List.cons_append]
      exact .frame hfill hmarker hprecision hcomponents hbody hlength

theorem Frames.append (h : Frames bytes width height n) : Frames (bytes ++ more) width height n := by
  obtain ⟨used, rest, rfl, -, hused⟩ := h.split
  rw [List.append_assoc]
  exact hused (rest ++ more)

theorem Frames.length_le (h : Frames bytes width height n) : n ≤ bytes.length := by
  obtain ⟨used, rest, rfl, rfl, -⟩ := h.split
  rw [List.length_append]
  exact Nat.le_add_right _ _

theorem Frames.two_le (h : Frames bytes width height n) : 2 ≤ n := by
  induction h with
  | alone _ _ _ ih => omega
  | segment _ _ _ _ ih => omega
  | frame _ _ _ _ _ _ => omega

/-- The first bytes lead to the frame header as long as it ends among them. -/
theorem Frames.take (h : Frames bytes width height n) {k : ℕ} (hk : n ≤ k) : Frames (bytes.take k) width height n := by
  obtain ⟨used, rest, rfl, rfl, hused⟩ := h.split
  rw [List.take_append, List.take_of_length_le hk]
  exact hused _

theorem Frames.of_take {k : ℕ} (h : Frames (bytes.take k) width height n) : Frames bytes width height n ∧ n ≤ k := by
  refine ⟨?_, h.length_le.trans (List.length_take_le k bytes)⟩
  rw [← List.take_append_drop k bytes]
  exact h.append

/-! ### There is one frame header -/

theorem dropWhile_fill (hfill : Fill fill) (hmarker : marker ≠ 0xFF) :
    (fill ++ marker :: rest).dropWhile (· = 0xFF) = marker :: rest := by
  rw [List.dropWhile_append_of_pos (fun b hb => decide_eq_true (hfill.2 b hb)),
    List.dropWhile_cons_of_neg (by simpa using hmarker)]

/-- Bytes lead to a marker, or to nothing but fill bytes, or they do not begin with one. -/
theorem fill_cases (bytes : Bytes) : (∃ fill marker rest, bytes = fill ++ marker :: rest ∧ Fill fill ∧ marker ≠ 0xFF) ∨
    Fill bytes ∨ ∀ b ∈ bytes.head?, b ≠ 0xFF := by
  cases bytes with
  | nil => exact .inr (.inr fun b hb => by cases hb)
  | cons b tail =>
    by_cases hb : b = 0xFF
    · have htake : ∀ c ∈ b :: tail.takeWhile (· = 0xFF), c = 0xFF := by
        intro c hc
        rcases List.mem_cons.mp hc with rfl | hc
        · exact hb
        · simpa using List.mem_takeWhile_imp hc
      have hsplit : tail.takeWhile (· = 0xFF) ++ tail.dropWhile (· = 0xFF) = tail := List.takeWhile_append_dropWhile
      cases hdrop : tail.dropWhile (· = 0xFF) with
      | nil =>
        rw [hdrop, List.append_nil] at hsplit
        rw [hsplit] at htake
        exact .inr (.inl ⟨List.cons_ne_nil b tail, htake⟩)
      | cons marker rest =>
        refine .inl ⟨b :: tail.takeWhile (· = 0xFF), marker, rest, ?_, ⟨List.cons_ne_nil _ _, htake⟩, ?_⟩
        · rw [List.cons_append, ← hdrop, hsplit]
        · have hhead := List.head_dropWhile_not (· = (0xFF : UInt8)) (l := tail) (by rw [hdrop]; exact List.cons_ne_nil _ _)
          simpa [hdrop] using hhead
    · refine .inr (.inr fun c hc => ?_)
      obtain rfl := Option.some.inj hc
      exact hb

/-- The bytes before a marker are all that are 0xFF. -/
theorem fill_unique (hfill : Fill fill) (hfill' : Fill fill') (hmarker : marker ≠ 0xFF) (hmarker' : marker' ≠ 0xFF)
    (h : fill ++ marker :: rest = fill' ++ marker' :: rest') : fill = fill' ∧ marker = marker' ∧ rest = rest' := by
  have hdrop : marker :: rest = marker' :: rest' := by
    rw [← dropWhile_fill hfill hmarker, h, dropWhile_fill hfill' hmarker']
  obtain ⟨rfl, rfl⟩ := List.cons.inj hdrop
  exact ⟨List.append_cancel_right h, rfl, rfl⟩

theorem standsAlone_ne (h : standsAlone marker) : marker ≠ 0xFF := by
  rintro rfl
  revert h
  decide

theorem precedesFrame_ne (h : precedesFrame marker) : marker ≠ 0xFF := by
  rintro rfl
  exact h.2.1 (by decide)

theorem frameMarker_ne (h : marker ∈ frameMarkers) : marker ≠ 0xFF := by
  rintro rfl
  revert h
  decide

theorem not_standsAlone (h : marker ∈ frameMarkers) : ¬standsAlone marker := by
  have hall : frameMarkers.all (fun m => !standsAlone m) = true := by decide
  have hnot := List.all_eq_true.mp hall marker h
  rw [Bool.not_eq_true'] at hnot
  rw [hnot]
  exact Bool.false_ne_true

/-- Segments with the same length and the same bytes. -/
theorem body_unique {body body' : Bytes} {k : ℕ} (hbody : k = 2 + body.length) (hbody' : k = 2 + body'.length)
    (h : body ++ rest = body' ++ rest') : body = body' ∧ rest = rest' :=
  List.append_inj h (by omega)

/-- **The frame header that is found is one.** -/
theorem Frames.unique (h : Frames bytes width height n) (h' : Frames bytes width' height' n') :
    width = width' ∧ height = height' ∧ n = n' := by
  induction h generalizing width' height' n' with
  | @alone fill marker rest width height n hfill hmarker _ ih =>
    generalize hbytes : fill ++ marker :: rest = bytes at h'
    cases h' with
    | @alone fill' marker' rest' width' height' n' hfill' hmarker' hrest' =>
      obtain ⟨rfl, -, rfl⟩ := fill_unique hfill hfill' (standsAlone_ne hmarker) (standsAlone_ne hmarker') hbytes
      obtain ⟨rfl, rfl, rfl⟩ := ih hrest'
      exact ⟨rfl, rfl, rfl⟩
    | segment hfill' hmarker' _ _ =>
      obtain ⟨-, rfl, -⟩ := fill_unique hfill hfill' (standsAlone_ne hmarker) (precedesFrame_ne hmarker') hbytes
      exact absurd hmarker hmarker'.1
    | frame hfill' hmarker' _ _ _ _ =>
      obtain ⟨-, rfl, -⟩ := fill_unique hfill hfill' (standsAlone_ne hmarker) (frameMarker_ne hmarker') hbytes
      exact absurd hmarker (not_standsAlone hmarker')
  | @segment fill marker hi lo body rest width height n hfill hmarker hlength _ ih =>
    generalize hbytes : fill ++ marker :: hi :: lo :: (body ++ rest) = bytes at h'
    cases h' with
    | alone hfill' hmarker' _ =>
      obtain ⟨-, rfl, -⟩ := fill_unique hfill hfill' (precedesFrame_ne hmarker) (standsAlone_ne hmarker') hbytes
      exact absurd hmarker' hmarker.1
    | @segment fill' marker' hi' lo' body' rest' width' height' n' hfill' hmarker' hlength' hrest' =>
      obtain ⟨rfl, rfl, hrest⟩ := fill_unique hfill hfill' (precedesFrame_ne hmarker) (precedesFrame_ne hmarker') hbytes
      simp only [List.cons.injEq] at hrest
      obtain ⟨rfl, rfl, happend⟩ := hrest
      obtain ⟨rfl, rfl⟩ := body_unique hlength hlength' happend
      obtain ⟨rfl, rfl, rfl⟩ := ih hrest'
      exact ⟨rfl, rfl, rfl⟩
    | frame hfill' hmarker' _ _ _ _ =>
      obtain ⟨-, rfl, -⟩ := fill_unique hfill hfill' (precedesFrame_ne hmarker) (frameMarker_ne hmarker') hbytes
      exact absurd hmarker' hmarker.2.2
  | @frame fill marker hi lo precision h₁ h₀ w₁ w₀ components body rest hfill hmarker _ _ _ hlength =>
    generalize hbytes :
      fill ++ marker :: hi :: lo :: precision :: h₁ :: h₀ :: w₁ :: w₀ :: components :: (body ++ rest) = bytes at h'
    cases h' with
    | alone hfill' hmarker' _ =>
      obtain ⟨-, rfl, -⟩ := fill_unique hfill hfill' (frameMarker_ne hmarker) (standsAlone_ne hmarker') hbytes
      exact absurd hmarker' (not_standsAlone hmarker)
    | segment hfill' hmarker' _ _ =>
      obtain ⟨-, rfl, -⟩ := fill_unique hfill hfill' (frameMarker_ne hmarker) (precedesFrame_ne hmarker') hbytes
      exact absurd hmarker hmarker'.2.2
    | frame hfill' hmarker' _ _ _ hlength' =>
      obtain ⟨rfl, rfl, hrest⟩ := fill_unique hfill hfill' (frameMarker_ne hmarker) (frameMarker_ne hmarker') hbytes
      simp only [List.cons.injEq] at hrest
      obtain ⟨rfl, rfl, rfl, rfl, rfl, rfl, rfl, rfl, -⟩ := hrest
      exact ⟨rfl, rfl, by omega⟩

end Jpeg
