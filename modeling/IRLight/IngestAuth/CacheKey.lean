import IRLight.IngestAuth.Guard
import Mathlib.Tactic.IntervalCases

/-! # Cache keys

The Node's proxy keys its cache with the digest of a JSON text of the fields that identify a credential. Two
payloads with one text have the same values in these fields (`dumpsStrings_inj`). -/

namespace IRLight.IngestAuth

/-! ### JSON texts of strings -/

/-- How `json.dumps(..., ensure_ascii=False)` writes a character. -/
def escape (c : Char) : List Char :=
  if c = '"' then ['\\', '"']
  else if c = '\\' then ['\\', '\\']
  else if c = '\n' then ['\\', 'n']
  else if c = '\r' then ['\\', 'r']
  else if c = '\t' then ['\\', 't']
  else if c = '\x0c' then ['\\', 'f']
  else if c = '\x08' then ['\\', 'b']
  else if c.toNat < 32 then ['\\', 'u', '0', '0', Nat.digitChar (c.toNat / 16), Nat.digitChar (c.toNat % 16)]
  else [c]

/-- A string in its quotes. -/
def quote (text : String) : List Char := '"' :: text.toList.flatMap escape ++ ['"']

/-- The items of an array, each but the last with a comma after it. -/
def quoteAll : List String → List Char
  | [] => []
  | [text] => quote text
  | text :: texts => quote text ++ ',' :: quoteAll texts

/-- `json.dumps(texts, ensure_ascii=False, separators=(",", ":"))`. -/
def dumpsStrings (texts : List String) : String := String.ofList ('[' :: quoteAll texts ++ [']'])

/-- The value of a hexadecimal digit. -/
def hexValue (c : Char) : ℕ := if c.toNat < 58 then c.toNat - 48 else c.toNat - 87

/-- The first character that an escaped text stands for, and the rest of the text. -/
def unescape : List Char → Option (Char × List Char)
  | '\\' :: 'n' :: rest => some ('\n', rest)
  | '\\' :: 'r' :: rest => some ('\r', rest)
  | '\\' :: 't' :: rest => some ('\t', rest)
  | '\\' :: 'f' :: rest => some ('\x0c', rest)
  | '\\' :: 'b' :: rest => some ('\x08', rest)
  | '\\' :: 'u' :: '0' :: '0' :: x :: y :: rest => some (Char.ofNat (16 * hexValue x + hexValue y), rest)
  | '\\' :: c :: rest => some (c, rest)
  | '"' :: _ => none
  | c :: rest => some (c, rest)
  | [] => none

theorem unescape_escape (c : Char) (rest : List Char) : unescape (escape c ++ rest) = some (c, rest) := by
  unfold escape
  split_ifs with hquote hslash hn hr ht hf hb hcontrol
  all_goals try (subst c; rfl)
  · obtain ⟨n, hn⟩ : ∃ n, c.toNat = n := ⟨_, rfl⟩
    have hc : c = Char.ofNat n := by rw [← hn, Char.ofNat_toNat]
    rw [hn] at hcontrol ⊢
    subst hc
    interval_cases n <;> rfl
  · simp [unescape, hslash]

theorem escape_append_inj {c d : Char} {x y : List Char} (h : escape c ++ x = escape d ++ y) : c = d ∧ x = y := by
  have heq : some (c, x) = some (d, y) := by rw [← unescape_escape, ← unescape_escape, h]
  exact Prod.mk.inj (Option.some.inj heq)

/-- No character is written with a quotation mark in front. -/
theorem escape_append_ne_quote (c : Char) (x y : List Char) : escape c ++ x ≠ '"' :: y := fun h => by
  have hnone := unescape_escape c x
  rw [h] at hnone
  cases hnone

theorem quote_append_inj {s t : String} {x y : List Char} (h : quote s ++ x = quote t ++ y) : s = t ∧ x = y := by
  simp only [quote, List.cons_append, List.append_assoc, List.cons.injEq, true_and] at h
  suffices hchars : ∀ l m : List Char, l.flatMap escape ++ '"' :: x = m.flatMap escape ++ '"' :: y → l = m ∧ x = y by
    obtain ⟨hst, hxy⟩ := hchars s.toList t.toList h
    exact ⟨String.toList_inj.mp hst, hxy⟩
  intro l
  induction l with
  | nil =>
    intro m h
    cases m with
    | nil => exact ⟨rfl, (List.cons.inj h).2⟩
    | cons d m =>
      rw [List.flatMap_cons, List.append_assoc] at h
      exact absurd h.symm (escape_append_ne_quote d _ _)
  | cons c l ih =>
    intro m h
    cases m with
    | nil =>
      rw [List.flatMap_cons, List.append_assoc] at h
      exact absurd h (escape_append_ne_quote c _ _)
    | cons d m =>
      rw [List.flatMap_cons, List.flatMap_cons, List.append_assoc, List.append_assoc] at h
      obtain ⟨rfl, htail⟩ := escape_append_inj h
      obtain ⟨rfl, hxy⟩ := ih m htail
      exact ⟨rfl, hxy⟩

theorem quoteAll_inj {l m : List String} (hlen : l.length = m.length) (h : quoteAll l = quoteAll m) : l = m := by
  induction l generalizing m with
  | nil => exact (List.length_eq_zero_iff.mp hlen.symm).symm
  | cons s l ih =>
    obtain ⟨t, m, rfl⟩ := List.exists_cons_of_length_eq_add_one hlen.symm
    cases l with
    | nil =>
      obtain rfl := List.length_eq_zero_iff.mp (Nat.succ.inj hlen).symm
      have hq : quote s ++ [] = quote t ++ [] := by simpa [quoteAll] using h
      rw [(quote_append_inj hq).1]
    | cons s' l =>
      obtain ⟨t', m, rfl⟩ := List.exists_cons_of_length_eq_add_one (Nat.succ.inj hlen).symm
      obtain ⟨rfl, htail⟩ := quote_append_inj h
      rw [ih (Nat.succ.inj hlen) (List.cons.inj htail).2]

/-- The text tells the strings apart. -/
theorem dumpsStrings_inj {l m : List String} (hlen : l.length = m.length) (h : dumpsStrings l = dumpsStrings m) : l = m := by
  refine quoteAll_inj hlen ?_
  have hlist := (List.cons.inj (String.ofList_injective h)).2
  exact List.append_cancel_right hlist

/-! ### Payloads -/

/-- The object that MediaMTX posts. -/
abbrev Payload := List (String × Json)

/-- What the proxy calls of the standard library: a digest, the text of a value and its lower case. -/
structure ProxyLib where
  sha256 : String → Digest
  str : Json → String
  lower : String → String

variable (lib : ProxyLib)

/-- `str(payload.get(field, ""))`. -/
def ProxyLib.field (payload : Payload) (name : String) : String := lib.str ((payload.lookup name).getD (.str ""))

/-- `CACHE_KEY_FIELDS`. -/
def cacheKeyFields : List String := ["action", "path", "protocol", "user", "password", "token"]

/-- The values that a payload has in the key fields. -/
def ProxyLib.keyValues (payload : Payload) : List String := cacheKeyFields.map (lib.field payload)

/-- `_cache_key`. -/
def ProxyLib.cacheKey (payload : Payload) : Digest := lib.sha256 (dumpsStrings (lib.keyValues payload))

end IRLight.IngestAuth
