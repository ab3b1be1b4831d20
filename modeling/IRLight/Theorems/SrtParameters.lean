import IRLight.Destinations.SrtProbe

/-! # Which SRT parameters reach the command

The URL is checked with its names decoded until nothing is left to decode, and the parameters are passed on as they are
written, to be decoded once. The two agree on a name that has nothing more to decode, to strip or to fold. -/

namespace IRLight.Destinations

section
variable (lib : UrlLib)

/-- The name that the check of the URL reads. -/
def canonicalName (token : String) : Except String String :=
  (lib.decodeRepeated (lib.unquotePlus (tokenName token))).map fun name => lib.casefold (strip name)

/-- Each parameter has a public name when it is decoded once, and the mode and the timeout are given once. -/
structure Confined (tokens : List String) : Prop where
  isPublic : ∀ token ∈ tokens, lib.unquotePlus (tokenName token) ∈ publicSrtQueryKeys
  unique : ∀ key ∈ controlledKeys, tokens.countP (fun token => canonicalName lib token = .ok key) = 1

/-- A parameter that the probe drops, or whose name is read the same in both ways. -/
def Plain (token : String) : Prop :=
  lib.lower (lib.unquotePlus (tokenName token)) ∈ controlledKeys ∨
    canonicalName lib token = .ok (lib.unquotePlus (tokenName token))

instance (token : String) : Decidable (Plain lib token) := inferInstanceAs (Decidable (_ ∨ _))

end

section
variable {lib : UrlLib} {params : List (String × String)} {seen : List String}

/-- Every name that the check lets pass is public. -/
theorem mem_publicSrtQueryKeys (h : lib.checkQuery params seen = .ok ()) : ∀ p ∈ params,
    ∃ name, lib.decodeRepeated p.1 = .ok name ∧ lib.casefold (strip name) ∈ publicSrtQueryKeys := by
  induction params generalizing seen with
  | nil =>
    intro p hp
    cases hp
  | cons p params ih =>
    obtain ⟨rawKey, rawValue⟩ := p
    unfold UrlLib.checkQuery at h
    obtain ⟨name, hname, h⟩ := bind_eq_ok.mp h
    obtain ⟨value, hvalue, h⟩ := bind_eq_ok.mp h
    dsimp only at h
    split at h
    · cases h
    split at h
    · cases h
    split at h
    · cases h
    rename_i hpublic
    obtain ⟨u, -, hrest⟩ := bind_eq_ok.mp h
    intro p hp
    rcases List.mem_cons.mp hp with rfl | hp
    · exact ⟨name, hname, not_not.mp hpublic⟩
    · exact ih hrest p hp

/-- What the check of an SRT URL looks at. -/
theorem checkQuery_of_validate {url : String} {parsed : SplitUrl} (h : lib.validateDestinationUrlSecretSafety url = .ok ())
    (hsplit : lib.urlsplit url = some parsed) (hscheme : lib.casefold parsed.scheme = "srt") :
    lib.checkQuery (lib.parseQsl parsed.query) [] = .ok () := by
  unfold UrlLib.validateDestinationUrlSecretSafety at h
  rw [hsplit] at h
  dsimp only at h
  split at h
  · cases h
  rw [if_neg (not_not_intro hscheme)] at h
  split at h
  · cases h
  split at h
  · cases h
  exact h

end

/-! ### The parameters of a query -/

section
variable {validNetloc : List Char → Bool} {casefold lower : String → String} {query token name : String} {remaining : ℕ}

/-- A name without a percent sign or a plus sign is decoded. -/
theorem decodeRepeated_eq (hpercent : '%' ∉ name.toList) (hplus : '+' ∉ name.toList) :
    (urllib validNetloc casefold lower).decodeRepeated name = .ok name := by
  have hdecode : unquotePlus name = name := by
    unfold unquotePlus
    rw [Percent.unquotePlus_eq hpercent hplus, String.ofList_toList]
  unfold UrlLib.decodeRepeated UrlLib.decodeRounds
  exact if_pos hdecode

/-- A public name is read as it is written. -/
theorem canonicalName_eq (hcasefold : ∀ key ∈ publicSrtQueryKeys, casefold key = key) (hname : name ∈ publicSrtQueryKeys)
    (htoken : unquotePlus (tokenName token) = name) :
    canonicalName (urllib validNetloc casefold lower) token = .ok name := by
  have hplain : '%' ∉ name.toList ∧ '+' ∉ name.toList ∧ strip name = name := by
    revert hname
    unfold publicSrtQueryKeys
    simp only [List.mem_cons, List.not_mem_nil, or_false]
    rintro (rfl | rfl | rfl | rfl) <;> decide
  unfold canonicalName
  change ((urllib validNetloc casefold lower).decodeRepeated (unquotePlus (tokenName token))).map _ = _
  rw [htoken, decodeRepeated_eq hplain.1 hplain.2.1]
  change Except.ok (casefold (strip name)) = _
  rw [hplain.2.2, hcasefold name hname]

theorem tokenName_timeout (n : ℕ) : tokenName s!"conntimeo={n}" = "conntimeo" := by
  have hchars : (s!"conntimeo={n}").toList = "conntimeo".toList ++ '=' :: (toString n).toList := by
    rw [show s!"conntimeo={n}" = "conntimeo=" ++ toString n from rfl, String.toList_append]
    rfl
  have hname : ∀ c ∈ "conntimeo".toList, decide (c ≠ '=') = true := List.all_eq_true.mp (by decide)
  unfold tokenName
  rw [hchars, List.takeWhile_append_of_pos hname, List.takeWhile_cons_of_neg (by decide), List.append_nil,
    String.ofList_toList]

/-- The parameters that are given, unless the URL asks for another mode. -/
theorem probeParameters_eq_ok {lib : UrlLib} {tokens : List String} : probeParameters lib query remaining = .ok tokens ↔
    (∀ mode, requestedMode lib query = some mode → mode = "caller") ∧
      tokens = rawTokens lib query ++ ["mode=caller", s!"conntimeo={max 1 remaining}"] := by
  unfold probeParameters
  cases requestedMode lib query with
  | none =>
    refine ⟨fun h => ⟨fun mode hm => (by cases hm), (Except.ok.inj h).symm⟩, ?_⟩
    rintro ⟨-, rfl⟩
    rfl
  | some mode =>
    dsimp only
    by_cases hmode : mode = "caller"
    · rw [if_neg (not_not_intro hmode)]
      refine ⟨fun h => ⟨fun m hm => Option.some.inj hm ▸ hmode, (Except.ok.inj h).symm⟩, ?_⟩
      rintro ⟨-, rfl⟩
      rfl
    · rw [if_pos hmode]
      exact iff_of_false (fun h => by cases h) fun h => hmode (h.1 mode rfl)

variable (hcasefold : ∀ key ∈ publicSrtQueryKeys, casefold key = key) (hlower : ∀ key ∈ controlledKeys, lower key = key)
include hcasefold hlower

/-- The parameters that the probe adds are the only ones of their names, if every other one is plain. -/
theorem confined_of_plain
    (hpublic : ∀ token ∈ queryTokens query, ∃ name,
      canonicalName (urllib validNetloc casefold lower) token = .ok name ∧ name ∈ publicSrtQueryKeys)
    (hplain : ∀ token ∈ queryTokens query, Plain (urllib validNetloc casefold lower) token) :
    Confined (urllib validNetloc casefold lower)
      (rawTokens (urllib validNetloc casefold lower) query ++ ["mode=caller", s!"conntimeo={max 1 remaining}"]) := by
  have hraw : ∀ token ∈ rawTokens (urllib validNetloc casefold lower) query,
      lower (unquotePlus (tokenName token)) ∉ controlledKeys ∧
        canonicalName (urllib validNetloc casefold lower) token = .ok (unquotePlus (tokenName token)) := by
    intro token htoken
    obtain ⟨hmem, hkept⟩ := List.mem_filter.mp htoken
    have hkept := of_decide_eq_true hkept
    exact ⟨hkept, (hplain token hmem).resolve_left hkept⟩
  have hmode : unquotePlus (tokenName "mode=caller") = "mode" := by decide
  have htimeout : unquotePlus (tokenName s!"conntimeo={max 1 remaining}") = "conntimeo" := by
    rw [tokenName_timeout]
    decide
  constructor
  · intro token htoken
    rcases List.mem_append.mp htoken with htoken | htoken
    · obtain ⟨name, hname, hkey⟩ := hpublic token (List.mem_filter.mp htoken).1
      obtain rfl := Except.ok.inj (hname.symm.trans (hraw token htoken).2)
      exact hkey
    · simp only [List.mem_cons, List.not_mem_nil, or_false] at htoken
      rcases htoken with rfl | rfl
      · change unquotePlus _ ∈ publicSrtQueryKeys
        rw [hmode]
        decide
      · change unquotePlus _ ∈ publicSrtQueryKeys
        rw [htimeout]
        decide
  · intro key hkey
    have hnone : (rawTokens (urllib validNetloc casefold lower) query).countP
        (fun token => canonicalName (urllib validNetloc casefold lower) token = .ok key) = 0 := by
      refine List.countP_eq_zero.mpr fun token htoken h => ?_
      obtain ⟨hkept, hname⟩ := hraw token htoken
      have h := (hname.symm.trans (of_decide_eq_true h))
      rw [Except.ok.inj h, hlower key hkey] at hkept
      exact hkept hkey
    have hmode := @canonicalName_eq validNetloc casefold lower _ _ hcasefold (by decide) hmode
    have htimeout := @canonicalName_eq validNetloc casefold lower _ _ hcasefold (by decide) htimeout
    rw [List.countP_append, hnone, List.countP_cons, List.countP_singleton, hmode, htimeout]
    revert hkey
    unfold controlledKeys
    simp only [List.mem_cons, List.not_mem_nil, or_false]
    rintro (rfl | rfl) <;> decide

/-- **The parameters of an accepted SRT URL are confined if, and only if, the probe refuses its mode, or every parameter
    that is passed on has a name with nothing more to decode, to strip or to fold.** -/
theorem srt_parameters_confined_iff {url : String} {parsed : SplitUrl}
    (haccepted : (urllib validNetloc casefold lower).validateDestinationUrlSecretSafety url = .ok ())
    (hsplit : (urllib validNetloc casefold lower).urlsplit url = some parsed) (hscheme : casefold parsed.scheme = "srt")
    (remaining : ℕ) :
    (∀ tokens, probeParameters (urllib validNetloc casefold lower) parsed.query remaining = .ok tokens →
        Confined (urllib validNetloc casefold lower) tokens) ↔
      (∃ mode, requestedMode (urllib validNetloc casefold lower) parsed.query = some mode ∧ mode ≠ "caller") ∨
        ∀ token ∈ queryTokens parsed.query, Plain (urllib validNetloc casefold lower) token := by
  have hchecked := mem_publicSrtQueryKeys (checkQuery_of_validate haccepted hsplit hscheme)
  have hpublic : ∀ token ∈ queryTokens parsed.query, ∃ name,
      canonicalName (urllib validNetloc casefold lower) token = .ok name ∧ name ∈ publicSrtQueryKeys := by
    intro token htoken
    obtain ⟨name, hname, hkey⟩ := hchecked _ (List.mem_map_of_mem htoken)
    refine ⟨casefold (strip name), ?_, hkey⟩
    change ((urllib validNetloc casefold lower).decodeRepeated (unquotePlus (tokenName token))).map _ = _
    rw [hname]
    rfl
  constructor
  · intro h
    by_cases hrefused : ∃ mode, requestedMode (urllib validNetloc casefold lower) parsed.query = some mode ∧ mode ≠ "caller"
    · exact .inl hrefused
    push Not at hrefused
    obtain ⟨hnames, -⟩ := h _ (probeParameters_eq_ok.mpr ⟨hrefused, rfl⟩)
    refine .inr fun token htoken => ?_
    by_cases hdropped : lower (unquotePlus (tokenName token)) ∈ controlledKeys
    · exact .inl hdropped
    · have hkept : token ∈ rawTokens (urllib validNetloc casefold lower) parsed.query :=
        List.mem_filter.mpr ⟨htoken, decide_eq_true hdropped⟩
      exact .inr (canonicalName_eq hcasefold (hnames token (List.mem_append_left _ hkept)) rfl)
  · rintro (⟨mode, hmode, hne⟩ | hplain) tokens htokens
    · exact absurd ((probeParameters_eq_ok.mp htokens).1 mode hmode) hne
    · rw [(probeParameters_eq_ok.mp htokens).2]
      exact confined_of_plain hcasefold hlower hpublic hplain

end

namespace SrtSample

def anyNetloc (_ : List Char) : Bool := true

def lower (text : String) : String := String.ofList (text.toList.map Char.toLower)

def lib : UrlLib := urllib anyNetloc lower lower

/-- A mode whose name is encoded twice. -/
def smuggled : SplitUrl := ⟨"srt", none, none, "", "%256dode=caller", ""⟩

def routed : SplitUrl := ⟨"srt", none, none, "", "streamid=publish:probe&latency=120", ""⟩

end SrtSample

/-- The name is the mode for the check of the URL, and no public name for the command. -/
theorem encoded_mode_is_passed_on :
    SrtSample.lib.validateDestinationUrlSecretSafety "srt://media.example:9000?%256dode=caller" = .ok () ∧
      SrtSample.lib.urlsplit "srt://media.example:9000?%256dode=caller" = some SrtSample.smuggled ∧
      probeParameters SrtSample.lib SrtSample.smuggled.query 5000 =
        .ok ["%256dode=caller", "mode=caller", "conntimeo=5000"] ∧
      ¬Confined SrtSample.lib ["%256dode=caller", "mode=caller", "conntimeo=5000"] := by
  refine ⟨by decide +kernel, by decide +kernel, by decide +kernel, fun h => ?_⟩
  have hpublic := h.isPublic "%256dode=caller" List.mem_cons_self
  revert hpublic
  decide +kernel

theorem srt_parameters_confined_sample :
    Confined SrtSample.lib ["streamid=publish:probe", "latency=120", "mode=caller", "conntimeo=5000"] := by
  have h := @srt_parameters_confined_iff SrtSample.anyNetloc SrtSample.lower SrtSample.lower (by decide) (by decide)
    "srt://media.example:9000?streamid=publish:probe&latency=120" SrtSample.routed (by decide +kernel) (by decide +kernel)
    (by decide) 5000
  exact h.mpr (.inr (by decide +kernel)) _ (by decide +kernel)

end IRLight.Destinations
