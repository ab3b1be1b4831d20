import IRLight.Formats.Bytes
import Mathlib.Data.List.Basic

/-! # Percent-encoding

A text is encoded through its UTF-8 bytes. What is decoded need not be UTF-8: the longest beginnings of characters that
are broken off are replaced. -/

namespace Percent

/-! ### UTF-8 -/

def utf8 (text : List Char) : Bytes := text.flatMap String.utf8EncodeChar

/-- The character that stands for bytes that are no character. -/
def replacement : Char := Char.ofNat 0xFFFD

def continues (b : UInt8) : Bool := 0x80 ≤ b && b ≤ 0xBF

/-- Whether the second byte of a character of at least three bytes may follow its first one. -/
def follows (first second : UInt8) : Bool :=
  if first = 0xE0 then 0xA0 ≤ second && second ≤ 0xBF
  else if first = 0xED then 0x80 ≤ second && second ≤ 0x9F
  else if first = 0xF0 then 0x90 ≤ second && second ≤ 0xBF
  else if first = 0xF4 then 0x80 ≤ second && second ≤ 0x8F
  else 0xE1 ≤ first && first ≤ 0xF3 && continues second

/-- How many bytes one replacement stands for, where no character begins. -/
def broken : Bytes → ℕ
  | first :: second :: third :: _ =>
    if follows first second then if 0xF0 ≤ first && continues third then 3 else 2 else 1
  | [first, second] => if follows first second then 2 else 1
  | _ => 1

/-- `bytes.decode("utf-8", "replace")`, once `skip` more bytes of a character have passed. -/
def decodeFrom : ℕ → Bytes → List Char
  | _, [] => []
  | skip + 1, _ :: bytes => decodeFrom skip bytes
  | 0, b :: bytes =>
    match (b :: bytes).toByteArray.utf8DecodeChar? 0 with
    | some c => c :: decodeFrom (c.utf8Size - 1) bytes
    | none => replacement :: decodeFrom (broken (b :: bytes) - 1) bytes

def decode (bytes : Bytes) : List Char := decodeFrom 0 bytes

/-! ### Quoting -/

/-- Characters that are never encoded. -/
def unreserved (c : Char) : Bool := c.isAlphanum || c = '_' || c = '.' || c = '-' || c = '~'

def hexDigit (n : ℕ) : Char := n.digitChar.toUpper

def hexValue (c : Char) : Option ℕ :=
  if c.isDigit then some (c.toNat - 48)
  else if 'a' ≤ c ∧ c ≤ 'f' then some (c.toNat - 87)
  else if 'A' ≤ c ∧ c ≤ 'F' then some (c.toNat - 55)
  else none

def quoteByte (b : UInt8) : List Char :=
  if unreserved (Char.ofNat b.toNat) then [Char.ofNat b.toNat]
  else ['%', hexDigit (b.toNat / 16), hexDigit (b.toNat % 16)]

/-- `quote(text, safe="")`. -/
def quote (text : List Char) : List Char := (utf8 text).flatMap quoteByte

/-- `unquote_to_bytes`. -/
def unquoteToBytes : List Char → Bytes
  | [] => []
  | '%' :: first :: second :: text =>
    match hexValue first, hexValue second with
    | some m, some n => UInt8.ofNat (16 * m + n) :: unquoteToBytes text
    | _, _ => utf8 ['%'] ++ unquoteToBytes (first :: second :: text)
  | c :: text => utf8 [c] ++ unquoteToBytes text

def unquote (text : List Char) : List Char := decode (unquoteToBytes text)

def unquotePlus (text : List Char) : List Char := unquote (text.map fun c => if c = '+' then ' ' else c)

/-! ### Decoding what is encoded -/

section
variable {c : Char} {bytes more : Bytes} {text rest : List Char}

theorem decodeFrom_append : decodeFrom bytes.length (bytes ++ more) = decode more := by
  induction bytes with
  | nil => rfl
  | cons b bytes ih => exact ih

theorem decode_append (c : Char) (more : Bytes) : decode (String.utf8EncodeChar c ++ more) = c :: decode more := by
  have hlength := String.length_utf8EncodeChar c
  cases hbytes : String.utf8EncodeChar c with
  | nil =>
    rw [hbytes] at hlength
    exact absurd hlength (Nat.ne_of_lt c.utf8Size_pos)
  | cons b bytes =>
    rw [hbytes] at hlength
    have hdecode : (b :: (bytes ++ more)).toByteArray.utf8DecodeChar? 0 = some c := by
      rw [← List.cons_append, ← hbytes, List.toByteArray_append]
      exact ByteArray.utf8DecodeChar?_utf8EncodeChar_append
    have hskip : c.utf8Size - 1 = bytes.length := by
      rw [← hlength]
      rfl
    rw [List.cons_append, decode, decodeFrom, hdecode]
    change c :: decodeFrom (c.utf8Size - 1) (bytes ++ more) = _
    rw [hskip, decodeFrom_append]

theorem decode_utf8 (text : List Char) : decode (utf8 text) = text := by
  induction text with
  | nil => rfl
  | cons c text ih =>
    change decode (String.utf8EncodeChar c ++ utf8 text) = _
    rw [decode_append, ih]

/-! ### Strict decoding -/

/-- `bytes.decode("utf-8")`, without a text where it raises. -/
def decodeStrict (bytes : Bytes) : Option (List Char) := bytes.toByteArray.utf8Decode?.map Array.toList

theorem toByteArray_utf8 (text : List Char) : (utf8 text).toByteArray = text.utf8Encode := by
  rfl

theorem decodeStrict_eq_some : decodeStrict bytes = some text ↔ bytes = utf8 text := by
  unfold decodeStrict
  constructor
  · intro h
    obtain ⟨found, hfound, rfl⟩ := Option.map_eq_some_iff.mp h
    have hsome : bytes.toByteArray.utf8Decode?.isSome := by
      rw [hfound]
      rfl
    have hget : bytes.toByteArray.utf8Decode?.get hsome = found := Option.get_of_eq_some hsome hfound
    have hencode := ByteArray.utf8Encode_get_utf8Decode? (h := hsome)
    rw [hget, ← toByteArray_utf8] at hencode
    exact (List.toByteArray_inj.mp hencode).symm
  · rintro rfl
    rw [toByteArray_utf8, List.utf8Decode?_utf8Encode]
    rfl

/-- An ASCII byte is a character of the text. -/
theorem mem_of_mem_utf8 {b : UInt8} (h : b ∈ utf8 text) (hb : b.toNat < 128) : Char.ofNat b.toNat ∈ text := by
  obtain ⟨c, hc, hbyte⟩ := List.mem_flatMap.mp h
  have hnat (n : ℕ) (hn : n < 256) (he : b = UInt8.ofNat n) : b.toNat = n := by
    rw [he, UInt8.toNat_ofNat_of_lt' hn]
  unfold String.utf8EncodeChar at hbyte
  dsimp only at hbyte
  split at hbyte
  · have hval := hnat _ (by omega) (List.mem_singleton.mp hbyte)
    rw [hval]
    have hchar : Char.ofNat c.val.toNat = c := Char.ofNat_toNat c
    rw [hchar]
    exact hc
  · split at hbyte
    · simp only [List.mem_cons, List.not_mem_nil, or_false] at hbyte
      rcases hbyte with he | he
      all_goals
        have hval := hnat _ (by omega) he
        omega
    · split at hbyte
      · simp only [List.mem_cons, List.not_mem_nil, or_false] at hbyte
        rcases hbyte with he | he | he
        all_goals
        have hval := hnat _ (by omega) he
        omega
      · simp only [List.mem_cons, List.not_mem_nil, or_false] at hbyte
        rcases hbyte with he | he | he | he
        all_goals
        have hval := hnat _ (by omega) he
        omega
/-! ### Unquoting what is quoted -/

theorem hexValue_hexDigit : ∀ n < 16, hexValue (hexDigit n) = some n := by decide

theorem unreserved_hexDigit : ∀ n < 16, unreserved (hexDigit n) = true := by decide

theorem mem_quote (h : c ∈ quote text) : unreserved c = true ∨ c = '%' := by
  obtain ⟨b, -, hc⟩ := List.mem_flatMap.mp h
  have hb := b.toNat_lt
  unfold quoteByte at hc
  split at hc
  · rename_i hunreserved
    obtain rfl := List.mem_singleton.mp hc
    exact .inl hunreserved
  · simp only [List.mem_cons, List.not_mem_nil, or_false] at hc
    rcases hc with rfl | rfl | rfl
    · exact .inr rfl
    · exact .inl (unreserved_hexDigit _ (by omega))
    · exact .inl (unreserved_hexDigit _ (by omega))

theorem unquoteToBytes_cons (h : c ≠ '%') : unquoteToBytes (c :: text) = String.utf8EncodeChar c ++ unquoteToBytes text := by
  rw [unquoteToBytes]
  · rw [utf8, List.flatMap_singleton]
  · rintro first second rest rfl -
    exact h rfl

theorem toNat_ofNat (b : UInt8) : (Char.ofNat b.toNat).toNat = b.toNat := by
  have hvalid : b.toNat.isValidChar := .inl (Nat.lt_trans b.toNat_lt (by decide))
  unfold Char.ofNat
  rw [dif_pos hvalid]
  rfl

theorem utf8EncodeChar_ofNat {b : UInt8} (h : b.toNat < 128) : String.utf8EncodeChar (Char.ofNat b.toNat) = [b] := by
  have hval : (Char.ofNat b.toNat).val.toNat = b.toNat := toNat_ofNat b
  unfold String.utf8EncodeChar
  rw [hval, if_pos (by omega), UInt8.ofNat_toNat]

theorem lt_of_unreserved (h : unreserved c = true) : c.toNat < 128 := by
  unfold unreserved Char.isAlphanum at h
  simp only [Bool.or_eq_true, decide_eq_true_eq] at h
  rcases h with ((((h | h) | rfl) | rfl) | rfl) | rfl
  · have hcase : c.isUpper = true ∨ c.isLower = true := (Bool.or_eq_true _ _).mp h
    rcases hcase with hupper | hlower
    · have hle : c.val ≤ 90 := (of_decide_eq_true hupper).2
      exact Nat.lt_of_le_of_lt (UInt32.le_iff_toNat_le.mp hle) (by decide)
    · have hle : c.val ≤ 122 := of_decide_eq_true ((Bool.and_eq_true _ _).mp hlower).2
      exact Nat.lt_of_le_of_lt (UInt32.le_iff_toNat_le.mp hle) (by decide)
  · exact Nat.lt_of_le_of_lt (Char.isDigit_iff_toNat.mp h).2 (by decide)
  all_goals decide

theorem unquoteToBytes_quoteByte (b : UInt8) : unquoteToBytes (quoteByte b ++ rest) = b :: unquoteToBytes rest := by
  have hb := b.toNat_lt
  unfold quoteByte
  split
  · rename_i h
    have hlt := lt_of_unreserved h
    rw [toNat_ofNat] at hlt
    have hne : Char.ofNat b.toNat ≠ '%' := by
      intro he
      rw [he] at h
      cases h
    change unquoteToBytes (Char.ofNat b.toNat :: rest) = _
    rw [unquoteToBytes_cons hne, utf8EncodeChar_ofNat hlt]
    rfl
  · have hbyte : UInt8.ofNat (16 * (b.toNat / 16) + b.toNat % 16) = b := by
      rw [Nat.div_add_mod, UInt8.ofNat_toNat]
    change unquoteToBytes ('%' :: hexDigit (b.toNat / 16) :: hexDigit (b.toNat % 16) :: rest) = _
    rw [unquoteToBytes, hexValue_hexDigit _ (by omega), hexValue_hexDigit _ (by omega)]
    dsimp only
    rw [hbyte]

theorem unquoteToBytes_quote (text : List Char) : unquoteToBytes (quote text) = utf8 text := by
  have hbytes : ∀ bytes : Bytes, unquoteToBytes (bytes.flatMap quoteByte) = bytes := by
    intro bytes
    induction bytes with
    | nil => rfl
    | cons b bytes ih => rw [List.flatMap_cons, unquoteToBytes_quoteByte, ih]
  exact hbytes (utf8 text)

/-- **A text is read back as it was.** -/
theorem unquote_quote (text : List Char) : unquote (quote text) = text := by
  rw [unquote, unquoteToBytes_quote, decode_utf8]

/-- There is nothing to decode in a text without a percent sign. -/
theorem unquote_eq (h : '%' ∉ text) : unquote text = text := by
  have hbytes : unquoteToBytes text = utf8 text := by
    induction text with
    | nil => rfl
    | cons c text ih =>
      rw [unquoteToBytes_cons fun hc => h (hc ▸ List.mem_cons_self), ih fun hmem => h (List.mem_cons_of_mem _ hmem)]
      rfl
  rw [unquote, hbytes, decode_utf8]

theorem unquotePlus_eq (hpercent : '%' ∉ text) (hplus : '+' ∉ text) : unquotePlus text = text := by
  have hmap : (text.map fun c => if c = '+' then ' ' else c) = text := by
    refine (List.map_congr_left fun c hc => ?_).trans (List.map_id text)
    exact if_neg fun he : c = '+' => hplus (he ▸ hc)
  rw [unquotePlus, hmap, unquote_eq hpercent]

end
end Percent
