import IRLight.Destinations.EgressDestination
import IRLight.Destinations.Urls
import Mathlib.Data.Bool.AllAny

/-! # Where the stream key goes

The key is filled, percent-encoded, into places of the path and the query that the server URL alone determines. This
needs the placeholder to stay out of the authority, which no check of the URL looks for. -/

namespace IRLight.Destinations

section
variable (lower : String → String) (validNetloc : List Char → Bool)

/-- A server URL that an egress may publish to. -/
structure Publishable (d : Destination) (scheme netloc : List Char) (parsed : Url.Parts) : Prop where
  type : lower d.type = String.ofList scheme
  supported : String.ofList scheme ∈ ["rtmp", "rtmps"]
  split : Url.split validNetloc (strip d.serverUrl).toList = some parsed
  scheme_eq : parsed.scheme = some scheme
  netloc_eq : parsed.netloc = some netloc
  host : Url.hostname netloc ≠ none
  credentials : '@' ∉ netloc
  fragment : parsed.fragment.getD [] = []

/-- The published URL has the scheme and the authority of the server URL. Its other components are the layout, with the
    encoded key in the holes. Without a placeholder, the last segment of the path is the key. -/
def Placed (d : Destination) (layout : Url.Pattern) (key : String) : Prop :=
  ∃ parsed url published, Url.split validNetloc (strip d.serverUrl).toList = some parsed ∧
    buildEgressUrl lower validNetloc d key = .ok url ∧ Url.split validNetloc url.toList = some published ∧
    published.scheme = parsed.scheme ∧ published.netloc = parsed.netloc ∧
    published.path = Template.fill (Percent.quote key.toList) layout.path ∧
    published.query = layout.query.map (Template.fill (Percent.quote key.toList)) ∧ published.fragment.getD [] = [] ∧
    (¬streamKeyPlaceholder <:+: (strip d.serverUrl).toList →
      (published.path.splitOn '/').getLast?.map Percent.unquote = some key.toList)

end

/-! ### What is filled in -/

section
variable {key : List Char} {c : Char} {url : List Char}

/-- Characters that end no component and are nowhere taken out. -/
theorem plain_of_unreserved (h : Percent.unreserved c = true ∨ c = '%') :
    Url.removed c = false ∧ Url.endsNetloc c = false := by
  have hne : ∀ x, Percent.unreserved x = false → x ≠ '%' → c ≠ x := by
    rintro x hx hpercent rfl
    rcases h with h | h
    · rw [hx] at h
      cases h
    · exact hpercent h
  have htab := hne '\t' (by decide) (by decide)
  have hreturn := hne '\r' (by decide) (by decide)
  have hline := hne '\n' (by decide) (by decide)
  have hslash := hne '/' (by decide) (by decide)
  have hquestion := hne '?' (by decide) (by decide)
  have hhash := hne '#' (by decide) (by decide)
  exact ⟨by simp [Url.removed, htab, hreturn, hline], by simp [Url.endsNetloc, hslash, hquestion, hhash]⟩

theorem inert_quote (key : List Char) : Url.Inert (Percent.quote key) :=
  fun _ hc => plain_of_unreserved (Percent.mem_quote hc)

theorem brace_not_mem_quote (key : List Char) : '\x7b' ∉ Percent.quote key := by
  intro h
  rcases Percent.mem_quote h with h | h
  · revert h
    decide
  · revert h
    decide

theorem inert_streamKeyPlaceholder : Url.Inert streamKeyPlaceholder := by
  unfold Url.Inert
  exact List.all_iff_forall_prop.mp (by decide)

end

/-! ### What is published -/

section
variable {lower : String → String} {validNetloc : List Char → Bool} {d : Destination} {scheme netloc : List Char}
  {parsed : Url.Parts} {key url : String}

theorem userinfo_eq_none {netloc : List Char} : Url.userinfo netloc = none ↔ '@' ∉ netloc := by
  unfold Url.userinfo
  split
  · rename_i h
    exact iff_of_false (fun he => by cases he) (not_not_intro h)
  · rename_i h
    exact iff_of_true rfl h

/-- What `checkServerUrl` lets pass. -/
theorem checkServerUrl_eq_ok {destinationType : String} : checkServerUrl destinationType parsed = .ok () ↔
    destinationType = String.ofList (parsed.scheme.getD []) ∧ String.ofList (parsed.scheme.getD []) ∈ ["rtmp", "rtmps"] ∧
      Url.hostname (parsed.netloc.getD []) ≠ none ∧ '@' ∉ parsed.netloc.getD [] ∧ parsed.fragment.getD [] = [] := by
  unfold checkServerUrl Url.username Url.password
  dsimp only
  constructor
  · intro h
    split at h
    · cases h
    split at h
    · cases h
    split at h
    · cases h
    split at h
    · cases h
    rename_i hscheme htype hcredentials hfragment
    push Not at hscheme htype hcredentials hfragment
    refine ⟨htype.symm, hscheme.1, hscheme.2, ?_, hfragment⟩
    exact userinfo_eq_none.mp (Option.map_eq_none_iff.mp hcredentials.1)
  · rintro ⟨rfl, hscheme, hhost, hcredentials, hfragment⟩
    have hinfo := userinfo_eq_none.mpr hcredentials
    rw [if_neg (not_or.mpr ⟨not_not_intro hscheme, hhost⟩), if_neg (not_not_intro rfl), hinfo,
      if_neg (by simp), if_neg (not_not_intro hfragment)]

/-- The URL that is published to. -/
def published (serverUrl : List Char) (parsed : Url.Parts) (key : List Char) : List Char :=
  if streamKeyPlaceholder <:+: serverUrl then Template.replace streamKeyPlaceholder (Percent.quote key) serverUrl
  else Url.unsplit (appendKey parsed (Percent.quote key))

/-- A URL passes the checks if it is publishable. -/
theorem exists_publishable (hsplit : Url.split validNetloc (strip d.serverUrl).toList = some parsed) :
    lower d.type ∈ ["rtmp", "rtmps"] ∧ checkServerUrl (lower d.type) parsed = .ok () ↔
      ∃ scheme netloc, Publishable lower validNetloc d scheme netloc parsed := by
  rw [checkServerUrl_eq_ok]
  constructor
  · rintro ⟨-, htype, hscheme, hhost, hcredentials, hfragment⟩
    cases hs : parsed.scheme with
    | none =>
      rw [hs] at hscheme
      exact absurd hscheme (by decide)
    | some scheme =>
      cases hn : parsed.netloc with
      | none =>
        rw [hn] at hhost
        exact absurd (by decide) hhost
      | some netloc =>
        rw [hs] at htype hscheme
        rw [hn] at hhost hcredentials
        exact ⟨scheme, netloc, htype, hscheme, hsplit, hs, hn, hhost, hcredentials, hfragment⟩
  · rintro ⟨scheme, netloc, h⟩
    rw [h.scheme_eq, h.netloc_eq]
    exact ⟨h.type ▸ h.supported, h.type, h.supported, h.host, h.credentials, h.fragment⟩

theorem buildEgressUrl_eq_ok : buildEgressUrl lower validNetloc d key = .ok url ↔
    key ≠ "" ∧ ∃ scheme netloc parsed, Publishable lower validNetloc d scheme netloc parsed ∧
      url = String.ofList (published (strip d.serverUrl).toList parsed key.toList) := by
  unfold buildEgressUrl published
  dsimp only
  by_cases hkey : key = ""
  · rw [if_pos hkey]
    exact iff_of_false (fun h => by cases h) fun h => h.1 hkey
  rw [if_neg hkey]
  by_cases htype : lower d.type ∈ ["rtmp", "rtmps"]
  · rw [if_neg (not_not_intro htype)]
    cases hsplit : Url.split validNetloc (strip d.serverUrl).toList with
    | none =>
      refine iff_of_false (fun h => by cases h) ?_
      rintro ⟨-, scheme, netloc, parsed, h, -⟩
      cases hsplit.symm.trans h.split
    | some parsed =>
      constructor
      · intro h
        obtain ⟨u, hcheck, h⟩ := bind_eq_ok.mp h
        obtain ⟨scheme, netloc, hpublishable⟩ := (exists_publishable hsplit).mp ⟨htype, hcheck⟩
        refine ⟨hkey, scheme, netloc, parsed, hpublishable, ?_⟩
        by_cases hplaceholder : streamKeyPlaceholder <:+: (strip d.serverUrl).toList
        · rw [if_pos hplaceholder] at h ⊢
          exact (pure_eq_ok.mp h).symm
        · rw [if_neg hplaceholder] at h ⊢
          exact (pure_eq_ok.mp h).symm
      · rintro ⟨-, scheme, netloc, p, hpublishable, rfl⟩
        obtain rfl := Option.some.inj (hsplit.symm.trans hpublishable.split)
        refine bind_eq_ok.mpr ⟨(), ((exists_publishable hsplit).mpr ⟨scheme, netloc, hpublishable⟩).2, ?_⟩
        by_cases hplaceholder : streamKeyPlaceholder <:+: (strip d.serverUrl).toList
        · rw [if_pos hplaceholder, if_pos hplaceholder]
          exact pure_eq_ok.mpr rfl
        · rw [if_neg hplaceholder, if_neg hplaceholder]
          exact pure_eq_ok.mpr rfl
  · rw [if_pos htype]
    refine iff_of_false (fun h => by cases h) ?_
    rintro ⟨-, scheme, netloc, parsed, h, -⟩
    exact htype (h.type ▸ h.supported)

end

/-! ### The placeholder in the authority -/

section
variable {validNetloc : List Char → Bool} {text value scheme netloc : List Char} {parsed : Url.Parts}

/-- The server URL after its scheme, with a hole for each placeholder. -/
def keyed (text : List Char) : Url.Pattern := Url.pattern (Template.holes streamKeyPlaceholder (Url.afterSlashes text))

/-- The holes of the authority are the placeholders of its text. -/
theorem keyed_netloc (text : List Char) : (keyed text).netloc =
    (Template.holes streamKeyPlaceholder (Url.authorityText text)).filter (Option.all fun c => !Url.removed c) := by
  have hends : ∀ c, Url.endsNetloc c = true → c ∉ streamKeyPlaceholder ∧ Url.removed c = false := by
    intro c hc
    simp only [Url.endsNetloc, Bool.or_eq_true, decide_eq_true_eq] at hc
    rcases hc with (rfl | rfl) | rfl <;> decide
  have hrest : ∀ c ∈ ((Url.afterSlashes text).dropWhile fun c => !Url.endsNetloc c).head?, Url.endsNetloc c = true := by
    intro c hc
    have hhead := List.head?_dropWhile_not (fun c => !Url.endsNetloc c) (Url.afterSlashes text)
    rw [Option.mem_def.mp hc] at hhead
    simpa using hhead
  have hinside : ∀ o ∈ (Template.holes streamKeyPlaceholder (Url.authorityText text)).filter
      (Option.all fun c => !Url.removed c), o.all (fun c => !Url.endsNetloc c) = true := by
    rintro (_ | c) ho
    · rfl
    · have hc := Template.mem_of_mem_holes (by decide) (List.mem_filter.mp ho).1
      exact List.mem_takeWhile_imp (p := fun c => !Url.endsNetloc c) hc
  have happend : Url.authorityText text ++ (Url.afterSlashes text).dropWhile (fun c => !Url.endsNetloc c) =
      Url.afterSlashes text := List.takeWhile_append_dropWhile
  unfold keyed Url.pattern
  dsimp only
  rw [← happend, Template.holes_append fun c hc => (hends c (hrest c hc)).1, List.filter_append,
    List.takeWhile_append_of_pos hinside]
  cases hdrop : (Url.afterSlashes text).dropWhile fun c => !Url.endsNetloc c with
  | nil => exact List.append_nil _
  | cons c rest =>
    rw [hdrop] at hrest
    have hc := hrest c rfl
    have hholes : Template.holes streamKeyPlaceholder (c :: rest) = some c :: Template.holes streamKeyPlaceholder rest :=
      Template.holes_append_left [c] (by
        rintro a ha hmem
        obtain rfl := List.mem_singleton.mp hmem
        exact (hends a hc).1 (List.mem_of_mem_head? ha)) (by decide)
    have hkeep : (some c).all (fun c => !Url.removed c) = true := by
      change (!Url.removed c) = true
      rw [(hends c hc).2]
      rfl
    have hstop : ¬(some c).all (fun c => !Url.endsNetloc c) = true := by
      change ¬(!Url.endsNetloc c) = true
      rw [hc]
      decide
    rw [hholes, List.filter_cons_of_pos hkeep, List.takeWhile_cons_of_neg hstop]
    exact List.append_nil _

/-- **What is filled into the placeholders, the components are those of the server URL with it in the holes.** -/
theorem split_replace (h : Url.split validNetloc text = some parsed) (hscheme : parsed.scheme = some scheme)
    (hnetloc : parsed.netloc = some netloc) (hvalue : Url.Inert value) :
    Url.split validNetloc (Template.replace streamKeyPlaceholder value text) =
      if validNetloc (Template.fill value (keyed text).netloc) then some ((keyed text).fill scheme value) else none := by
  obtain ⟨front, name, htext, hname, hfront, rfl⟩ := Url.exists_front h hscheme hnetloc
  have hbrace : ∀ c ∈ streamKeyPlaceholder.head?, c ∉ front := by
    rintro c hc hmem
    obtain rfl : '\x7b' = c := Option.some.inj hc
    rcases Url.mem_clean hmem with hc | hc | hc
    · revert hc
      decide
    · revert hc
      decide
    · rw [hfront] at hc
      rcases List.mem_append.mp hc with hc | hc
      · exact absurd (Url.isScheme_chars hname _ hc) (by decide)
      · revert hc
        decide
  have hreplace : Template.replace streamKeyPlaceholder value text =
      front ++ Template.fill value (Template.holes streamKeyPlaceholder (Url.afterSlashes text)) := by
    conv_lhs => rw [htext]
    rw [Template.replace, Template.holes_append_left _ hbrace (by decide), Template.fill_append, Template.fill_map_some]
  rw [hreplace, Url.split_fill hname hfront hvalue]
  rfl

/-- The server URL has the placeholders themselves in the holes. -/
theorem eq_keyed_fill (h : Url.split validNetloc text = some parsed) (hscheme : parsed.scheme = some scheme)
    (hnetloc : parsed.netloc = some netloc) : parsed = (keyed text).fill scheme streamKeyPlaceholder ∧
      validNetloc (Template.fill streamKeyPlaceholder (keyed text).netloc) = true := by
  have hreplace := split_replace h hscheme hnetloc inert_streamKeyPlaceholder
  rw [Template.replace, Template.fill_holes (by decide), h] at hreplace
  split at hreplace
  · rename_i hvalid
    exact ⟨Option.some.inj hreplace, hvalid⟩
  · cases hreplace

/-- The authority does not depend on what is filled in, as long as no placeholder is in it. -/
theorem fill_keyed_netloc (h : ¬streamKeyPlaceholder <:+: Url.authorityText text) (value : List Char) :
    Template.fill value (keyed text).netloc = (Url.authorityText text).filter fun c => !Url.removed c := by
  rw [keyed_netloc, Template.holes_eq h, List.filter_map, Template.fill_map_some]
  rfl

end

/-! ### Where the key is placed -/

section
variable {lower : String → String} {validNetloc : List Char → Bool} {d : Destination} {scheme netloc : List Char}
  {parsed : Url.Parts} {key : String} {layout : Url.Pattern}

theorem placed_of_placeholder (h : Publishable lower validNetloc d scheme netloc parsed)
    (hplaceholder : streamKeyPlaceholder <:+: (strip d.serverUrl).toList)
    (hauthority : ¬streamKeyPlaceholder <:+: Url.authorityText (strip d.serverUrl).toList) (hkey : key ≠ "") :
    Placed lower validNetloc d (keyed (strip d.serverUrl).toList) key := by
  obtain ⟨hparsed, hvalid⟩ := eq_keyed_fill h.split h.scheme_eq h.netloc_eq
  have hbuild := buildEgressUrl_eq_ok.mpr ⟨hkey, scheme, netloc, parsed, h, rfl⟩
  have hsplit := split_replace h.split h.scheme_eq h.netloc_eq (inert_quote key.toList)
  have hsame := (fill_keyed_netloc hauthority (Percent.quote key.toList)).trans
    (fill_keyed_netloc hauthority streamKeyPlaceholder).symm
  rw [hsame, hvalid, if_pos rfl] at hsplit
  rw [published, if_pos hplaceholder] at hbuild
  generalize keyed (strip d.serverUrl).toList = layout at *
  refine ⟨parsed, _, layout.fill scheme (Percent.quote key.toList), h.split, hbuild, ?_, h.scheme_eq.symm, ?_, rfl, rfl, ?_,
    fun hnot => absurd hplaceholder hnot⟩
  · rw [String.toList_ofList]
    exact hsplit
  · rw [hparsed]
    exact congrArg some hsame
  · have hfragment := h.fragment
    rw [hparsed] at hfragment
    change (layout.fragment.map _).getD [] = [] at hfragment
    change (layout.fragment.map _).getD [] = []
    cases hlayout : layout.fragment with
    | none => rfl
    | some t =>
      rw [hlayout] at hfragment
      rw [Template.eq_nil_of_fill (by decide) hfragment]
      rfl

/-- The layout of a server URL without a placeholder. -/
def appended (netloc : List Char) (parsed : Url.Parts) : Url.Pattern :=
  ⟨netloc.map some, (rstripSlashes parsed.path ++ ['/']).map some ++ [none],
    (parsed.query.bind nonempty).map (List.map some), none⟩

/-- The components that are put together are well formed. -/
theorem appendKey_wellFormed (h : Url.WellFormed parsed scheme netloc) (key : List Char) :
    Url.WellFormed (appendKey parsed (Percent.quote key)) scheme netloc := by
  have hlead : rstripSlashes parsed.path <+: parsed.path := List.rdropWhile_prefix _ _
  refine ⟨⟨?_, ?_, fun f hf => by cases hf⟩, h.scheme_eq, h.isScheme, h.lower, h.netloc_eq, h.netloc, .inr ?_⟩
  · intro c hc
    rcases List.mem_append.mp hc with hc | hc
    · exact h.path c (hlead.subset hc)
    rcases List.mem_cons.mp hc with rfl | hc
    · decide
    · obtain ⟨hremoved, hends⟩ := inert_quote key c hc
      refine ⟨?_, ?_, hremoved⟩
      · rintro rfl
        cases hends
      · rintro rfl
        cases hends
  · intro q hq
    obtain ⟨query, hquery, hq⟩ := Option.bind_eq_some_iff.mp hq
    unfold nonempty at hq
    split at hq
    · cases hq
    · obtain rfl := Option.some.inj hq
      exact h.query query hquery
  · obtain ⟨rest, hrest⟩ := hlead
    change (rstripSlashes parsed.path ++ '/' :: Percent.quote key).head? = some '/'
    cases hpath : rstripSlashes parsed.path with
    | nil => rfl
    | cons c front =>
      rw [hpath] at hrest
      rcases h.rooted with hnil | hhead
      · rw [hnil] at hrest
        cases hrest
      · rw [← hrest] at hhead
        exact hhead

theorem placed_of_appended (h : Publishable lower validNetloc d scheme netloc parsed)
    (hplaceholder : ¬streamKeyPlaceholder <:+: (strip d.serverUrl).toList) (hkey : key ≠ "") :
    Placed lower validNetloc d (appended netloc parsed) key := by
  obtain ⟨hwell, hvalid⟩ := Url.split_wellFormed h.split h.scheme_eq h.netloc_eq
  have hbuild := buildEgressUrl_eq_ok.mpr ⟨hkey, scheme, netloc, parsed, h, rfl⟩
  have hsplit := Url.split_unsplit (appendKey_wellFormed hwell key.toList) hvalid
  rw [published, if_neg hplaceholder] at hbuild
  refine ⟨parsed, _, appendKey parsed (Percent.quote key.toList), h.split, hbuild, ?_, rfl, rfl, ?_, ?_, rfl, fun _ => ?_⟩
  · rw [String.toList_ofList]
    exact hsplit
  · change rstripSlashes parsed.path ++ '/' :: Percent.quote key.toList = _
    unfold appended
    rw [Template.fill_append, Template.fill_map_some, List.append_assoc]
    exact congrArg _ (congrArg _ (List.append_nil _).symm)
  · change parsed.query.bind nonempty = _
    unfold appended
    cases parsed.query.bind nonempty with
    | none => rfl
    | some q => exact congrArg some (Template.fill_map_some q).symm
  · have hslash : '/' ∉ Percent.quote key.toList := fun hmem => by cases (inert_quote _ _ hmem).2
    change ((rstripSlashes parsed.path ++ '/' :: Percent.quote key.toList).splitOn '/').getLast?.map Percent.unquote = _
    rw [List.splitOn_append_cons_self, List.splitOn_eq_singleton hslash, List.getLast?_concat, Option.map_some,
      Percent.unquote_quote]

theorem authority_of_placed (h : Placed lower validNetloc d layout key) : ∃ scheme netloc parsed,
    Publishable lower validNetloc d scheme netloc parsed ∧
      ¬streamKeyPlaceholder <:+: Url.authorityText (strip d.serverUrl).toList := by
  obtain ⟨parsed, url, q, hparsed, hbuild, hsplit, -, hnetloc, -⟩ := h
  obtain ⟨-, scheme, netloc, p, hpublishable, rfl⟩ := buildEgressUrl_eq_ok.mp hbuild
  obtain rfl := Option.some.inj (hparsed.symm.trans hpublishable.split)
  refine ⟨scheme, netloc, parsed, hpublishable, fun hauthority => ?_⟩
  have hsub : Url.authorityText (strip d.serverUrl).toList <:+: (strip d.serverUrl).toList := by
    obtain ⟨front, name, htext, -⟩ := Url.exists_front hparsed hpublishable.scheme_eq hpublishable.netloc_eq
    conv_rhs => rw [htext]
    exact (List.takeWhile_prefix _).isInfix.trans (List.suffix_append _ _).isInfix
  rw [String.toList_ofList, published, if_pos (hauthority.trans hsub),
    split_replace hparsed hpublishable.scheme_eq hpublishable.netloc_eq (inert_quote key.toList)] at hsplit
  split at hsplit
  · obtain rfl := Option.some.inj hsplit
    obtain ⟨hkeyed, -⟩ := eq_keyed_fill hparsed hpublishable.scheme_eq hpublishable.netloc_eq
    have hsame : Template.fill (Percent.quote key.toList) (keyed (strip d.serverUrl).toList).netloc =
        Template.fill streamKeyPlaceholder (keyed (strip d.serverUrl).toList).netloc := by
      rw [hkeyed] at hnetloc
      exact Option.some.inj hnetloc
    -- The key has no brace, so that each hole of the authority makes it lose one.
    have hcount := congrArg (List.count '\x7b') hsame
    have hone : List.count '\x7b' streamKeyPlaceholder = 1 := by decide
    rw [Template.count_fill, Template.count_fill, List.count_eq_zero.mpr (brace_not_mem_quote key.toList), hone,
      Nat.mul_zero, Nat.mul_one] at hcount
    have hnone : none ∉ (keyed (strip d.serverUrl).toList).netloc := List.count_eq_zero.mp (by omega)
    rw [keyed_netloc] at hnone
    exact hnone (List.mem_filter.mpr ⟨Template.none_mem_holes (by decide) hauthority, rfl⟩)
  · cases hsplit

/-- **The stream key stays in its place if, and only if, no placeholder is in the authority of the server URL.** -/
theorem stream_key_placed (lower : String → String) (validNetloc : List Char → Bool) (d : Destination) :
    (∀ layout key, Placed lower validNetloc d layout key → ∃ scheme netloc parsed,
      Publishable lower validNetloc d scheme netloc parsed ∧
        ¬streamKeyPlaceholder <:+: Url.authorityText (strip d.serverUrl).toList) ∧
    ((∃ scheme netloc parsed, Publishable lower validNetloc d scheme netloc parsed ∧
        ¬streamKeyPlaceholder <:+: Url.authorityText (strip d.serverUrl).toList) →
      ∃ layout, ∀ key, key ≠ "" → Placed lower validNetloc d layout key) := by
  refine ⟨fun layout key => authority_of_placed, ?_⟩
  rintro ⟨scheme, netloc, parsed, h, hauthority⟩
  by_cases hplaceholder : streamKeyPlaceholder <:+: (strip d.serverUrl).toList
  · exact ⟨_, fun key hkey => placed_of_placeholder h hplaceholder hauthority hkey⟩
  · exact ⟨_, fun key hkey => placed_of_appended h hplaceholder hkey⟩

end

namespace PublishSample

def anyNetloc (_ : List Char) : Bool := true

def lower (text : String) : String := String.ofList (text.toList.map Char.toLower)

def destination (serverUrl : String) : Destination := .created ⟨0, 0⟩ "u" "rtmp" "A" serverUrl "s" 0

/-- A server URL with the placeholder in its host. -/
def keyed : String := "rtmp://\x7bstream_key\x7d.example.com/app"

end PublishSample

/-- The API accepts the URL, and the key decides about the host. -/
theorem stream_key_chooses_the_host :
    (urllib PublishSample.anyNetloc PublishSample.lower PublishSample.lower).validateDestinationUrlSecretSafety
        PublishSample.keyed = .ok () ∧
      buildEgressUrl PublishSample.lower PublishSample.anyNetloc (PublishSample.destination PublishSample.keyed) "evil" =
        .ok "rtmp://evil.example.com/app" ∧
      ¬∃ layout, Placed PublishSample.lower PublishSample.anyNetloc (PublishSample.destination PublishSample.keyed)
        layout "evil" := by
  refine ⟨by decide +kernel, by decide +kernel, ?_⟩
  rintro ⟨layout, h⟩
  obtain ⟨scheme, netloc, parsed, -, hauthority⟩ := authority_of_placed h
  exact hauthority (by decide +kernel)

theorem stream_key_placed_sample : ∃ layout, Placed PublishSample.lower PublishSample.anyNetloc
    (PublishSample.destination "rtmp://live.example.com/app?mode=publish") layout "a/b" := by
  obtain ⟨layout, h⟩ := (stream_key_placed PublishSample.lower PublishSample.anyNetloc
    (PublishSample.destination "rtmp://live.example.com/app?mode=publish")).2
    ⟨"rtmp".toList, "live.example.com".toList, ⟨some "rtmp".toList, some "live.example.com".toList, "/app".toList,
      some "mode=publish".toList, none⟩, ⟨by decide +kernel, by decide, by decide +kernel, rfl, rfl, by decide, by decide,
      rfl⟩, by decide +kernel⟩
  exact ⟨layout, h "a/b" (by decide)⟩

end IRLight.Destinations
