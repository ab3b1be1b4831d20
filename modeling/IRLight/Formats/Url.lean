import IRLight.Formats.Template
import Mathlib.Data.List.Basic
import Mathlib.Data.List.TakeWhile

/-! # URLs

A URL is split into a scheme, an authority, a path, a query and a fragment, and put together from them. A component that
is absent is not one that is empty. -/

namespace Url

structure Parts where
  scheme : Option (List Char)
  netloc : Option (List Char)
  path : List Char
  query : Option (List Char)
  fragment : Option (List Char)
  deriving DecidableEq

/-! ### Splitting -/

/-- Characters that a URL does not begin with: the C0 controls and the space. -/
def leading (c : Char) : Bool := c.toNat ≤ 0x20

/-- Characters that are taken out of a URL wherever they stand. -/
def removed (c : Char) : Bool := c = '\t' || c = '\r' || c = '\n'

def clean (url : List Char) : List Char := (url.dropWhile leading).filter fun c => !removed c

/-- The text before the first `c`, and the text after it. -/
def cut {α : Type} [DecidableEq α] (c : α) (text : List α) : List α × Option (List α) :=
  if c ∈ text then (text.takeWhile (· ≠ c), some ((text.dropWhile (· ≠ c)).drop 1)) else (text, none)

def schemeChar (c : Char) : Bool := c.isAlphanum || c = '+' || c = '-' || c = '.'

def isScheme (name : List Char) : Bool := name.head?.any Char.isAlpha && name.all schemeChar

def splitScheme (url : List Char) : Option (List Char) × List Char :=
  match cut ':' url with
  | (name, some rest) => if isScheme name then (some (name.map Char.toLower), rest) else (none, url)
  | (_, none) => (none, url)

/-- What ends an authority. -/
def endsNetloc (c : Char) : Bool := c = '/' || c = '?' || c = '#'

def splitNetloc (url : List Char) : Option (List Char) × List Char :=
  if url.take 2 = ['/', '/'] then
    (some ((url.drop 2).takeWhile fun c => !endsNetloc c), (url.drop 2).dropWhile fun c => !endsNetloc c)
  else (none, url)

/-- The components of a URL. An authority may be refused. -/
def split (validNetloc : List Char → Bool) (url : List Char) : Option Parts :=
  let (scheme, url) := splitScheme (clean url)
  let (netloc, url) := splitNetloc url
  if netloc.any fun n => !validNetloc n then none
  else
    let (url, fragment) := cut '#' url
    let (path, query) := cut '?' url
    some ⟨scheme, netloc, path, query, fragment⟩

/-! ### Putting together -/

/-- `c` and the text, if there is one. -/
def led {α : Type} (c : α) : Option (List α) → List α
  | none => []
  | some text => c :: text

/-- A path as it follows an authority. -/
def rooted (path : List Char) : List Char := if path = [] ∨ path.head? = some '/' then path else '/' :: path

/-- The URL after its scheme and up to its query. -/
def hierarchy (netloc : Option (List Char)) (path : List Char) : List Char :=
  match netloc with
  | some netloc => '/' :: '/' :: (netloc ++ rooted path)
  | none => if path.take 2 = ['/', '/'] then '/' :: '/' :: path else path

def unsplit (p : Parts) : List Char :=
  let url := hierarchy p.netloc p.path
  let url :=
    match p.scheme with
    | some scheme => scheme ++ ':' :: url
    | none => url
  url ++ led '?' p.query ++ led '#' p.fragment

/-! ### The authority -/

/-- The user information before the last `@`. -/
def userinfo (netloc : List Char) : Option (List Char) :=
  if '@' ∈ netloc then some ((netloc.reverse.dropWhile (· ≠ '@')).drop 1).reverse else none

def username (netloc : List Char) : Option (List Char) := (userinfo netloc).map fun info => (cut ':' info).1

def password (netloc : List Char) : Option (List Char) := (userinfo netloc).bind fun info => (cut ':' info).2

/-- The host, as it is written, unless it is empty. -/
def hostname (netloc : List Char) : Option (List Char) :=
  let hostinfo := (netloc.reverse.takeWhile (· ≠ '@')).reverse
  let host :=
    match cut '[' hostinfo with
    | (_, some bracketed) => (cut ']' bracketed).1
    | (_, none) => (cut ':' hostinfo).1
  if host = [] then none else some host

/-! ### What is split off -/

section
variable {α : Type} [DecidableEq α] {c x : α} {xs ys value : List α} {text : Option (List α)}

theorem cut_append (h : c ∉ xs) : cut c (xs ++ c :: ys) = (xs, some ys) := by
  have hall : ∀ x ∈ xs, decide (x ≠ c) = true := fun x hx => decide_eq_true (ne_of_mem_of_not_mem hx h)
  have htake : (c :: ys).takeWhile (fun x => decide (x ≠ c)) = [] := by simp
  have hdrop : (c :: ys).dropWhile (fun x => decide (x ≠ c)) = c :: ys := by simp
  unfold cut
  rw [if_pos (List.mem_append_right _ List.mem_cons_self), List.takeWhile_append_of_pos hall,
    List.dropWhile_append_of_pos hall, htake, hdrop, List.append_nil, List.drop_one, List.tail_cons]

theorem cut_of_not_mem (h : c ∉ xs) : cut c xs = (xs, none) := if_neg h

/-- What precedes the first `c` is cut off from what `c` leads. -/
theorem cut_led (h : c ∉ xs) : cut c (xs ++ led c text) = (xs, text) := by
  cases text with
  | none =>
    rw [led, List.append_nil]
    exact cut_of_not_mem h
  | some text => exact cut_append h

/-- The text is what is cut off, put together again. -/
theorem cut_append_led (c : α) (xs : List α) : (cut c xs).1 ++ led c (cut c xs).2 = xs := by
  by_cases h : c ∈ xs
  · obtain ⟨front, back, rfl, hfront⟩ := List.eq_append_cons_of_mem h
    rw [cut_append hfront]
    rfl
  · rw [cut_of_not_mem h]
    exact List.append_nil _

/-- There is no `c` before the first one. -/
theorem not_mem_cut (c : α) (xs : List α) : c ∉ (cut c xs).1 := by
  unfold cut
  split
  · intro h
    simpa using List.mem_takeWhile_imp h
  · assumption

theorem mem_of_mem_cut (h : x ∈ (cut c xs).1 ∨ ∃ tail, (cut c xs).2 = some tail ∧ x ∈ tail) : x ∈ xs := by
  rw [← cut_append_led c xs]
  obtain h | ⟨tail, htail, h⟩ := h
  · exact List.mem_append_left _ h
  · rw [htail]
    exact List.mem_append_right _ (List.mem_cons_of_mem _ h)

theorem head?_cut (h : (cut c xs).1.head? = some x) : xs.head? = some x ∧ x ≠ c := by
  refine ⟨?_, fun hx => not_mem_cut c xs (List.mem_of_mem_head? (hx ▸ h))⟩
  have happend := cut_append_led c xs
  rw [← happend, List.head?_append, h]
  rfl

omit [DecidableEq α] in
theorem mem_led (hx : x ∈ led c text) : x = c ∨ ∃ t ∈ text, x ∈ t := by
  cases text with
  | none => cases hx
  | some t =>
    rcases List.mem_cons.mp hx with rfl | hx
    · exact .inl rfl
    · exact .inr ⟨t, rfl, hx⟩

/-- What is filled in is cut where the text with the holes is. -/
theorem cut_fill {t : Template α} (hc : c ∉ value) :
    cut c (Template.fill value t) = (Template.fill value (cut (some c) t).1, (cut (some c) t).2.map (Template.fill value)) := by
  have hfront : ∀ {front : Template α}, some c ∉ front → c ∉ Template.fill value front := by
    intro front h hmem
    rcases Template.mem_fill hmem with hmem | hmem
    · exact h hmem
    · exact hc hmem
  by_cases h : some c ∈ t
  · obtain ⟨front, back, rfl, hnot⟩ := List.eq_append_cons_of_mem h
    rw [cut_append hnot, Template.fill_append]
    exact cut_append (hfront hnot)
  · rw [cut_of_not_mem h]
    exact cut_of_not_mem (hfront h)

end

section
variable {c : Char} {xs ys name url rest : List Char} {p : Parts} {validNetloc : List Char → Bool}

/-! ### Schemes -/

theorem isAlpha_iff : c.isAlpha = true ↔ (65 ≤ c.toNat ∧ c.toNat ≤ 90) ∨ (97 ≤ c.toNat ∧ c.toNat ≤ 122) := by
  have hupper : c.isUpper = true ↔ 65 ≤ c.toNat ∧ c.toNat ≤ 90 :=
    decide_eq_true_iff.trans (and_congr UInt32.le_iff_toNat_le UInt32.le_iff_toNat_le)
  have hlower : c.isLower = true ↔ 97 ≤ c.toNat ∧ c.toNat ≤ 122 := by
    change (decide (97 ≤ c.val) && decide (c.val ≤ 122)) = true ↔ _
    rw [Bool.and_eq_true, decide_eq_true_iff, decide_eq_true_iff]
    exact and_congr UInt32.le_iff_toNat_le UInt32.le_iff_toNat_le
  change (c.isUpper || c.isLower) = true ↔ _
  rw [Bool.or_eq_true, hupper, hlower]

theorem toNat_toLower (c : Char) : c.toLower.toNat = if 65 ≤ c.toNat ∧ c.toNat ≤ 90 then c.toNat + 32 else c.toNat := by
  unfold Char.toLower
  split
  · rename_i h
    have hrange : 65 ≤ c.toNat ∧ c.toNat ≤ 90 := by simpa [UInt32.le_iff_toNat_le] using h
    rw [if_pos hrange, Char.toNat_mk, UInt32.toNat_add, Char.toNat_val]
    change (c.toNat + 32) % 2 ^ 32 = _
    omega
  · rename_i h
    have hrange : ¬(65 ≤ c.toNat ∧ c.toNat ≤ 90) := by simpa [UInt32.le_iff_toNat_le] using h
    rw [if_neg hrange]

theorem schemeChar_iff : schemeChar c = true ↔ (65 ≤ c.toNat ∧ c.toNat ≤ 90) ∨ (97 ≤ c.toNat ∧ c.toNat ≤ 122) ∨
    (48 ≤ c.toNat ∧ c.toNat ≤ 57) ∨ c.toNat = 43 ∨ c.toNat = 45 ∨ c.toNat = 46 := by
  have hplus : c = '+' ↔ c.toNat = 43 := Char.toNat_inj.symm
  have hminus : c = '-' ↔ c.toNat = 45 := Char.toNat_inj.symm
  have hdot : c = '.' ↔ c.toNat = 46 := Char.toNat_inj.symm
  have hdigit : c.isDigit = true ↔ 48 ≤ c.toNat ∧ c.toNat ≤ 57 := Char.isDigit_iff_toNat
  unfold schemeChar Char.isAlphanum
  simp only [Bool.or_eq_true, decide_eq_true_eq, isAlpha_iff, hdigit, hplus, hminus, hdot]
  omega

theorem ne_of_schemeChar (h : schemeChar c = true) {d : Char} (hd : schemeChar d = false) : c ≠ d := by
  rintro rfl
  rw [h] at hd
  cases hd

theorem removed_of_schemeChar (h : schemeChar c = true) : removed c = false := by
  have htab := ne_of_schemeChar h (d := '\t') (by decide)
  have hreturn := ne_of_schemeChar h (d := '\r') (by decide)
  have hline := ne_of_schemeChar h (d := '\n') (by decide)
  simp [removed, htab, hreturn, hline]

theorem isScheme_lower (h : isScheme name = true) : isScheme (name.map Char.toLower) = true := by
  unfold isScheme at h ⊢
  rw [Bool.and_eq_true, List.all_eq_true] at h ⊢
  obtain ⟨hhead, hall⟩ := h
  constructor
  · cases name with
    | nil => cases hhead
    | cons c name =>
      change c.toLower.isAlpha = true
      have halpha : c.isAlpha = true := hhead
      rw [isAlpha_iff] at halpha ⊢
      rw [toNat_toLower]
      split <;> omega
  · intro d hd
    obtain ⟨c, hc, rfl⟩ := List.mem_map.mp hd
    have hchar := schemeChar_iff.mp (hall c hc)
    rw [schemeChar_iff, toNat_toLower]
    split <;> omega

theorem map_toLower_idem : (name.map Char.toLower).map Char.toLower = name.map Char.toLower := by
  rw [List.map_map]
  refine List.map_congr_left fun c _ => ?_
  rw [Function.comp_apply, ← Char.toNat_inj, toNat_toLower, toNat_toLower]
  split
  · rw [if_neg (by omega)]
  · rfl

theorem isScheme_chars (h : isScheme name = true) : ∀ x ∈ name, schemeChar x = true :=
  List.all_eq_true.mp (Bool.and_eq_true_iff.mp h).2

/-- A text that begins with a scheme, and has nothing else to be taken out, is clean. -/
theorem clean_eq (hname : isScheme name = true) (hrest : ∀ x ∈ rest, removed x = false) :
    clean (name ++ rest) = name ++ rest := by
  have hkept : ∀ x ∈ name ++ rest, (!removed x) = true := by
    intro x hx
    rw [Bool.not_eq_true']
    rcases List.mem_append.mp hx with hx | hx
    · exact removed_of_schemeChar (isScheme_chars hname x hx)
    · exact hrest x hx
  have hdrop : (name ++ rest).dropWhile leading = name ++ rest := by
    cases name with
    | nil => cases hname
    | cons c name =>
      have halpha : c.isAlpha = true := (Bool.and_eq_true_iff.mp hname).1
      rw [isAlpha_iff] at halpha
      refine List.dropWhile_cons_of_neg ?_
      unfold leading
      rw [decide_eq_true_eq]
      omega
  unfold clean
  rw [hdrop, List.filter_eq_self.mpr hkept]

theorem splitScheme_eq (hname : isScheme name = true) : splitScheme (name ++ ':' :: rest) = (some (name.map Char.toLower), rest) := by
  have hcolon : ':' ∉ name := fun h => absurd (isScheme_chars hname ':' h) (by decide)
  unfold splitScheme
  rw [cut_append hcolon]
  exact if_pos hname

/-- What `splitScheme` finds. -/
theorem splitScheme_some {scheme : List Char} (h : splitScheme url = (some scheme, rest)) :
    ∃ name, isScheme name = true ∧ scheme = name.map Char.toLower ∧ url = name ++ ':' :: rest := by
  have hurl := cut_append_led ':' url
  unfold splitScheme at h
  split at h
  · rename_i name tail hcut
    split at h
    · rename_i hname
      rw [hcut] at hurl
      obtain ⟨hscheme, rfl⟩ := Prod.mk.inj h
      exact ⟨name, hname, (Option.some.inj hscheme).symm, hurl.symm⟩
    · cases (Prod.mk.inj h).1
  · cases (Prod.mk.inj h).1

/-! ### Authorities -/

/-- What may follow an authority. -/
def AfterNetloc (rest : List Char) : Prop := ∀ c ∈ rest.head?, endsNetloc c = true

theorem splitNetloc_eq {netloc : List Char} (hnetloc : ∀ c ∈ netloc, endsNetloc c = false) (hrest : AfterNetloc rest) :
    splitNetloc ('/' :: '/' :: (netloc ++ rest)) = (some netloc, rest) := by
  have hall : ∀ c ∈ netloc, (!endsNetloc c) = true := fun c hc => by rw [hnetloc c hc]; rfl
  have htake : rest.takeWhile (fun c => !endsNetloc c) = [] ∧ rest.dropWhile (fun c => !endsNetloc c) = rest := by
    cases rest with
    | nil => exact ⟨rfl, rfl⟩
    | cons c rest =>
      have hc : ¬(!endsNetloc c) = true := by rw [hrest c rfl]; decide
      exact ⟨List.takeWhile_cons_of_neg hc, List.dropWhile_cons_of_neg hc⟩
  have htwo : ('/' :: '/' :: (netloc ++ rest)).take 2 = ['/', '/'] := rfl
  unfold splitNetloc
  rw [if_pos htwo]
  change (some ((netloc ++ rest).takeWhile _), (netloc ++ rest).dropWhile _) = _
  rw [List.takeWhile_append_of_pos hall, List.dropWhile_append_of_pos hall, htake.1, htake.2, List.append_nil]

/-- What `splitNetloc` finds. -/
theorem splitNetloc_some {netloc : List Char} (h : splitNetloc url = (some netloc, rest)) :
    url = '/' :: '/' :: (netloc ++ rest) ∧ (∀ c ∈ netloc, endsNetloc c = false) ∧ AfterNetloc rest := by
  unfold splitNetloc at h
  split at h
  · rename_i hslashes
    obtain ⟨hnetloc, rfl⟩ := Prod.mk.inj h
    obtain rfl := Option.some.inj hnetloc
    refine ⟨?_, fun c hc => ?_, fun c hc => ?_⟩
    · rw [List.takeWhile_append_dropWhile]
      have happend := List.take_append_drop 2 url
      rw [hslashes] at happend
      exact happend.symm
    · simpa using List.mem_takeWhile_imp hc
    · have hhead := List.head?_dropWhile_not (fun c => !endsNetloc c) (url.drop 2)
      rw [Option.mem_def.mp hc] at hhead
      simpa using hhead
  · cases (Prod.mk.inj h).1

/-! ### Well-formed components -/

/-- The components do not end before they should. -/
structure Plain (p : Parts) : Prop where
  path : ∀ c ∈ p.path, c ≠ '?' ∧ c ≠ '#' ∧ removed c = false
  query : ∀ q ∈ p.query, ∀ c ∈ q, c ≠ '#' ∧ removed c = false
  fragment : ∀ f ∈ p.fragment, ∀ c ∈ f, removed c = false

/-- The components of a URL with a scheme and an authority. -/
structure WellFormed (p : Parts) (scheme netloc : List Char) : Prop extends Plain p where
  scheme_eq : p.scheme = some scheme
  isScheme : isScheme scheme = true
  lower : scheme.map Char.toLower = scheme
  netloc_eq : p.netloc = some netloc
  netloc : ∀ c ∈ netloc, endsNetloc c = false ∧ removed c = false
  rooted : p.path = [] ∨ p.path.head? = some '/'

/-- The path that follows an authority is empty, or begins with a slash. -/
theorem AfterNetloc.rooted (h : AfterNetloc rest) :
    (cut '?' (cut '#' rest).1).1 = [] ∨ (cut '?' (cut '#' rest).1).1.head? = some '/' := by
  cases hhead : (cut '?' (cut '#' rest).1).1.head? with
  | none => exact .inl (List.head?_eq_none_iff.mp hhead)
  | some x =>
    obtain ⟨hfirst, hquery⟩ := head?_cut hhead
    obtain ⟨hrest, hfragment⟩ := head?_cut hfirst
    have hends := h x hrest
    unfold endsNetloc at hends
    simp only [Bool.or_eq_true, decide_eq_true_eq] at hends
    rcases hends with (rfl | rfl) | rfl
    · exact .inr rfl
    · exact absurd rfl hquery
    · exact absurd rfl hfragment

variable {scheme netloc : List Char}

theorem WellFormed.unsplit_eq (h : WellFormed p scheme netloc) :
    unsplit p = scheme ++ ':' :: '/' :: '/' :: (netloc ++ (p.path ++ led '?' p.query ++ led '#' p.fragment)) := by
  unfold unsplit hierarchy Url.rooted
  rw [h.scheme_eq, h.netloc_eq]
  dsimp only
  rw [if_pos h.rooted]
  simp only [List.append_assoc, List.cons_append]

theorem WellFormed.afterNetloc (h : WellFormed p scheme netloc) :
    AfterNetloc (p.path ++ led '?' p.query ++ led '#' p.fragment) := by
  intro c hc
  rcases h.rooted with hpath | hpath
  · rw [hpath, List.nil_append] at hc
    cases hquery : p.query with
    | some q =>
      rw [hquery] at hc
      obtain rfl := Option.some.inj hc
      rfl
    | none =>
      rw [hquery] at hc
      cases hfragment : p.fragment with
      | some f =>
        rw [hfragment] at hc
        obtain rfl := Option.some.inj hc
        rfl
      | none =>
        rw [hfragment] at hc
        cases hc
  · rw [List.append_assoc, List.head?_append, hpath] at hc
    obtain rfl := Option.some.inj hc
    rfl

/-- **Components that are put together are split into what they were.** -/
theorem split_unsplit (h : WellFormed p scheme netloc) (hvalid : validNetloc netloc = true) :
    split validNetloc (unsplit p) = some p := by
  have hkept : ∀ x ∈ ':' :: '/' :: '/' :: (netloc ++ (p.path ++ led '?' p.query ++ led '#' p.fragment)),
      removed x = false := by
    intro x hx
    simp only [List.mem_cons, List.mem_append] at hx
    rcases hx with rfl | rfl | rfl | hx | (hx | hx) | hx
    · rfl
    · rfl
    · rfl
    · exact (h.netloc x hx).2
    · exact (h.path x hx).2.2
    · obtain rfl | ⟨q, hq, hx⟩ := mem_led hx
      · rfl
      · exact (h.query q hq x hx).2
    · obtain rfl | ⟨f, hf, hx⟩ := mem_led hx
      · rfl
      · exact h.fragment f hf x hx
  have hfragment : '#' ∉ p.path ++ led '?' p.query := by
    intro hx
    rcases List.mem_append.mp hx with hx | hx
    · exact (h.path _ hx).2.1 rfl
    · obtain hx | ⟨q, hq, hx⟩ := mem_led hx
      · cases hx
      · exact (h.query q hq _ hx).1 rfl
  have hquery : '?' ∉ p.path := fun hx => (h.path _ hx).1 rfl
  have hinvalid : (some netloc).any (fun n => !validNetloc n) = false := by
    change (!validNetloc netloc) = false
    rw [hvalid]
    rfl
  unfold split
  rw [h.unsplit_eq, clean_eq h.isScheme hkept, splitScheme_eq h.isScheme, h.lower]
  dsimp only
  rw [splitNetloc_eq (fun c hc => (h.netloc c hc).1) h.afterNetloc]
  dsimp only
  rw [if_neg (by rw [hinvalid]; decide), cut_led hfragment]
  dsimp only
  rw [cut_led hquery, ← h.scheme_eq, ← h.netloc_eq]

/-- What a URL is split into, step by step. -/
theorem split_some (h : split validNetloc url = some p) : ∃ rest tail, splitScheme (clean url) = (p.scheme, rest) ∧
    splitNetloc rest = (p.netloc, tail) ∧ (∀ n ∈ p.netloc, validNetloc n = true) ∧ p.fragment = (cut '#' tail).2 ∧
    p.path = (cut '?' (cut '#' tail).1).1 ∧ p.query = (cut '?' (cut '#' tail).1).2 := by
  unfold split at h
  generalize hscheme : splitScheme (clean url) = r at h
  obtain ⟨scheme?, rest⟩ := r
  dsimp only at h
  generalize hauthority : splitNetloc rest = r at h
  obtain ⟨netloc?, tail⟩ := r
  dsimp only at h
  split at h
  · cases h
  · rename_i hvalid
    obtain rfl := Option.some.inj h
    refine ⟨rest, tail, rfl, hauthority, ?_, rfl, rfl, rfl⟩
    rintro n rfl
    simpa using hvalid

theorem splitScheme_subset {scheme? : Option (List Char)} (h : splitScheme url = (scheme?, rest)) : rest ⊆ url := by
  unfold splitScheme at h
  split at h
  · rename_i name tail hcut
    split at h
    · obtain ⟨-, rfl⟩ := Prod.mk.inj h
      exact fun x hx => mem_of_mem_cut (.inr ⟨_, congrArg Prod.snd hcut, hx⟩)
    · obtain ⟨-, rfl⟩ := Prod.mk.inj h
      exact List.Subset.refl _
  · obtain ⟨-, rfl⟩ := Prod.mk.inj h
    exact List.Subset.refl _

theorem splitNetloc_subset {netloc? : Option (List Char)} (h : splitNetloc url = (netloc?, rest)) : rest ⊆ url := by
  cases netloc? with
  | some netloc =>
    obtain ⟨rfl, -⟩ := splitNetloc_some h
    exact fun x hx => List.mem_cons_of_mem _ (List.mem_cons_of_mem _ (List.mem_append_right _ hx))
  | none =>
    unfold splitNetloc at h
    split at h
    · cases (Prod.mk.inj h).1
    · obtain ⟨-, rfl⟩ := Prod.mk.inj h
      exact List.Subset.refl _

theorem removed_of_mem_clean {x : Char} (h : x ∈ clean url) : removed x = false := by
  simpa using (List.mem_filter.mp h).2

/-- The components of a URL end where they should. -/
theorem split_plain (h : split validNetloc url = some p) : Plain p := by
  obtain ⟨rest, tail, hscheme, hauthority, -, hfragment, hpath, hquery⟩ := split_some h
  have htail : ∀ x ∈ tail, removed x = false := fun x hx =>
    removed_of_mem_clean (splitScheme_subset hscheme (splitNetloc_subset hauthority hx))
  have hfront : ∀ x ∈ (cut '#' tail).1, x ≠ '#' ∧ removed x = false := fun x hx =>
    ⟨fun he => not_mem_cut '#' tail (he ▸ hx), htail x (mem_of_mem_cut (.inl hx))⟩
  constructor
  · intro c hc
    rw [hpath] at hc
    exact ⟨fun he => not_mem_cut '?' _ (he ▸ hc), hfront c (mem_of_mem_cut (.inl hc))⟩
  · intro q hq c hc
    exact hfront c (mem_of_mem_cut (.inr ⟨q, hquery ▸ hq, hc⟩))
  · intro f hf c hc
    exact htail c (mem_of_mem_cut (.inr ⟨f, hfragment ▸ hf, hc⟩))

/-- An authority ends where the path begins. -/
theorem split_netloc (h : split validNetloc url = some p) (hnetloc : p.netloc = some netloc) :
    (∀ c ∈ netloc, endsNetloc c = false ∧ removed c = false) ∧ (p.path = [] ∨ p.path.head? = some '/') ∧
      validNetloc netloc = true := by
  obtain ⟨rest, tail, hscheme, hauthority, hvalid, -, hpath, -⟩ := split_some h
  rw [hnetloc] at hauthority
  obtain ⟨rfl, hends, hafter⟩ := splitNetloc_some hauthority
  refine ⟨fun c hc => ⟨hends c hc, removed_of_mem_clean (splitScheme_subset hscheme ?_)⟩, ?_, hvalid netloc hnetloc⟩
  · exact List.mem_cons_of_mem _ (List.mem_cons_of_mem _ (List.mem_append_left _ hc))
  · rw [hpath]
    exact hafter.rooted

/-- **The components of a URL are well formed.** -/
theorem split_wellFormed (h : split validNetloc url = some p) (hscheme : p.scheme = some scheme)
    (hnetloc : p.netloc = some netloc) : WellFormed p scheme netloc ∧ validNetloc netloc = true := by
  obtain ⟨rest, tail, hsplit, -⟩ := split_some h
  obtain ⟨hchars, hrooted, hvalid⟩ := split_netloc h hnetloc
  rw [hscheme] at hsplit
  obtain ⟨name, hname, rfl, -⟩ := splitScheme_some hsplit
  exact ⟨⟨split_plain h, hscheme, isScheme_lower hname, map_toLower_idem, hnetloc, hchars, hrooted⟩, hvalid⟩

/-! ### URLs with holes -/

/-- What follows the scheme of a URL with holes. -/
structure Pattern where
  netloc : Template Char
  path : Template Char
  query : Option (Template Char)
  fragment : Option (Template Char)

/-- The components of a text with holes that follows a scheme and two slashes. -/
def pattern (t : Template Char) : Pattern :=
  let t := t.filter (Option.all fun c => !removed c)
  let rest := t.dropWhile (Option.all fun c => !endsNetloc c)
  ⟨t.takeWhile (Option.all fun c => !endsNetloc c), (cut (some '?') (cut (some '#') rest).1).1,
    (cut (some '?') (cut (some '#') rest).1).2, (cut (some '#') rest).2⟩

def Pattern.fill (t : Pattern) (scheme value : List Char) : Parts :=
  ⟨some scheme, some (Template.fill value t.netloc), Template.fill value t.path, t.query.map (Template.fill value),
    t.fragment.map (Template.fill value)⟩

/-- What may be filled in without moving the bounds of the components. -/
def Inert (value : List Char) : Prop := ∀ c ∈ value, removed c = false ∧ endsNetloc c = false

/-- What follows the first two slashes of a URL, as it is written. -/
def afterSlashes (url : List Char) : List Char := (cut '/' ((cut '/' url).2.getD [])).2.getD []

/-- The authority of a URL with one, as it is written. -/
def authorityText (url : List Char) : List Char := (afterSlashes url).takeWhile fun c => !endsNetloc c

variable {front value : List Char} {t : Template Char}

theorem clean_append (h : clean front ≠ []) : clean (front ++ rest) = clean front ++ rest.filter fun c => !removed c := by
  unfold clean at h ⊢
  have hne : (front.dropWhile leading).isEmpty = false := by
    cases hdrop : front.dropWhile leading with
    | nil =>
      rw [hdrop] at h
      exact absurd rfl h
    | cons c tail => rfl
  rw [List.dropWhile_append, hne, if_neg Bool.false_ne_true, List.filter_append]

theorem mem_clean {c : Char} (h : c ∈ front) : leading c = true ∨ removed c = true ∨ c ∈ clean front := by
  rw [← List.takeWhile_append_dropWhile (p := leading) (l := front)] at h
  rcases List.mem_append.mp h with h | h
  · exact .inl (List.mem_takeWhile_imp h)
  · cases hremoved : removed c with
    | true => exact .inr (.inl rfl)
    | false => exact .inr (.inr (List.mem_filter.mpr ⟨h, by rw [hremoved]; rfl⟩))

/-- **What is filled in stays in the component that holds the hole.** -/
theorem split_fill (hname : isScheme name = true) (hfront : clean front = name ++ [':', '/', '/']) (hvalue : Inert value) :
    split validNetloc (front ++ Template.fill value t) =
      if validNetloc (Template.fill value (pattern t).netloc) then some ((pattern t).fill (name.map Char.toLower) value)
      else none := by
  have hkeep : ∀ c ∈ value, (!removed c) = true := fun c hc => by rw [(hvalue c hc).1]; rfl
  have hinside : ∀ c ∈ value, (!endsNetloc c) = true := fun c hc => by rw [(hvalue c hc).2]; rfl
  have hhash : '#' ∉ value := fun h => by cases (hvalue _ h).2
  have hquestion : '?' ∉ value := fun h => by cases (hvalue _ h).2
  have hclean : clean (front ++ Template.fill value t) =
      name ++ ':' :: '/' :: '/' :: Template.fill value (t.filter (Option.all fun c => !removed c)) := by
    rw [clean_append (by rw [hfront]; simp), hfront, Template.filter_fill hkeep, List.append_assoc]
    rfl
  have hnetloc : ∀ rest, splitNetloc ('/' :: '/' :: rest) =
      (some (rest.takeWhile fun c => !endsNetloc c), rest.dropWhile fun c => !endsNetloc c) := fun _ => rfl
  unfold split
  rw [hclean, splitScheme_eq hname]
  dsimp only
  rw [hnetloc, Template.takeWhile_fill hinside, Template.dropWhile_fill hinside]
  dsimp only
  rw [cut_fill hhash]
  dsimp only
  rw [cut_fill hquestion]
  change (if (!validNetloc (Template.fill value (pattern t).netloc)) = true then none else _) = _
  cases validNetloc (Template.fill value (pattern t).netloc) <;> rfl

theorem clean_of_split (h : split validNetloc url = some p) (hscheme : p.scheme = some scheme)
    (hnetloc : p.netloc = some netloc) :
    ∃ name rest, isScheme name = true ∧ scheme = name.map Char.toLower ∧ clean url = name ++ ':' :: '/' :: '/' :: rest := by
  obtain ⟨rest, tail, hsplit, hauthority, -⟩ := split_some h
  rw [hscheme] at hsplit
  rw [hnetloc] at hauthority
  obtain ⟨name, hname, rfl, hurl⟩ := splitScheme_some hsplit
  obtain ⟨rfl, -, -⟩ := splitNetloc_some hauthority
  exact ⟨name, netloc ++ tail, hname, rfl, hurl⟩

/-- A slash that is kept, and what is taken out around it. -/
theorem exists_slash {kept : List Char} (xs : List Char) (h : (text.filter fun c => !removed c) = xs ++ '/' :: kept) (hxs : '/' ∉ xs) :
    ∃ before after, text = before ++ '/' :: after ∧ '/' ∉ before ∧ (before.filter fun c => !removed c) = xs ∧
      (after.filter fun c => !removed c) = kept := by
  obtain ⟨before, rest, rfl, hbefore, hrest⟩ := List.filter_eq_append_iff.mp h
  obtain ⟨gap, after, rfl, hgap, -, hafter⟩ := List.filter_eq_cons_iff.mp hrest
  have hempty : (gap.filter fun c => !removed c) = [] := List.filter_eq_nil_iff.mpr hgap
  refine ⟨before ++ gap, after, (List.append_assoc _ _ _).symm, ?_, ?_, hafter⟩
  · intro hmem
    rcases List.mem_append.mp hmem with hmem | hmem
    · exact hxs (hbefore ▸ List.mem_filter.mpr ⟨hmem, rfl⟩)
    · exact hgap _ hmem rfl
  · rw [List.filter_append, hbefore, hempty, List.append_nil]

/-- What precedes the authority of a URL. -/
theorem exists_front (h : split validNetloc url = some p) (hscheme : p.scheme = some scheme)
    (hnetloc : p.netloc = some netloc) : ∃ front name, url = front ++ afterSlashes url ∧ isScheme name = true ∧
      clean front = name ++ [':', '/', '/'] ∧ scheme = name.map Char.toLower := by
  obtain ⟨name, rest, hname, rfl, hclean⟩ := clean_of_split h hscheme hnetloc
  have hslash : '/' ∉ name ++ [':'] := by
    intro hmem
    rcases List.mem_append.mp hmem with hmem | hmem
    · exact absurd (isScheme_chars hname '/' hmem) (by decide)
    · simp at hmem
  have hfilter : ((url.dropWhile leading).filter fun c => !removed c) = (name ++ [':']) ++ '/' :: '/' :: rest := by
    rw [List.append_assoc]
    exact hclean
  obtain ⟨before, after, hdrop, hbefore, hkept, hafter⟩ := exists_slash _ hfilter hslash
  obtain ⟨between, tail, rfl, hbetween, hgap, -⟩ := exists_slash [] hafter List.not_mem_nil
  have hlead : '/' ∉ url.takeWhile leading := fun hmem => absurd (List.mem_takeWhile_imp hmem) (by decide)
  have hurl : url = (url.takeWhile leading ++ before) ++ '/' :: (between ++ '/' :: tail) := by
    rw [List.append_assoc, ← hdrop, List.takeWhile_append_dropWhile]
  have hsecond : afterSlashes url = tail := by
    have hfirst : '/' ∉ url.takeWhile leading ++ before := fun hmem => (List.mem_append.mp hmem).elim hlead hbefore
    unfold afterSlashes
    rw [hurl, cut_append hfirst]
    dsimp only [Option.getD_some]
    rw [cut_append hbetween]
    rfl
  refine ⟨url.takeWhile leading ++ before ++ '/' :: (between ++ ['/']), name, ?_, hname, ?_, rfl⟩
  · rw [hsecond]
    conv_lhs => rw [hurl]
    simp only [List.append_assoc, List.cons_append, List.nil_append]
  · have hfront : (url.takeWhile leading ++ before ++ '/' :: (between ++ ['/'])).dropWhile leading =
        before ++ '/' :: (between ++ ['/']) := by
      rw [List.append_assoc, List.dropWhile_append_of_pos fun c hc => List.mem_takeWhile_imp hc]
      cases before with
      | nil => exact absurd hkept.symm (by simp)
      | cons c before =>
        have hhead := List.head?_dropWhile_not leading url
        rw [hdrop] at hhead
        have hc : leading c = false := by simpa using hhead
        exact List.dropWhile_cons_of_neg (by rw [hc]; decide)
    unfold clean
    rw [hfront, List.filter_append, hkept, List.filter_cons, List.filter_append, hgap]
    simp only [List.append_assoc]
    rfl

end
end Url
