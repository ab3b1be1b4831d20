import IRLight.ControlPlane.Reconcile

/-! # The provider reconciliation

The report matches exactly when both sides agree on everything they both say. It lists no finding twice, and it says the
same in whatever order the provider lists its resources. -/

namespace IRLight.Reconcile

/-- What the two sides agree on when the report matches. -/
structure Agrees (sessions : Dict String SessionRefs) (resources : List Resource) : Prop where
  kinds : ∀ r ∈ resources, r.kind ∈ resourceKinds
  ids : ∀ r ∈ resources, r.providerId ≠ ""
  unique : (resources.map Resource.key).Nodup
  references : ∀ item ∈ sessions.items, ∀ kind ∈ resourceKinds, item.2.reference kind ≠ .null →
    ∃ r ∈ resources, r.kind = kind ∧ item.2.reference kind = .str r.providerId ∧ r.sessionId = some item.1 ∧
      r.userId = some item.2.userId
  tagged : ∀ r ∈ resources, ∃ sessionId session, sessions.get? sessionId = some session ∧ r.sessionId = some sessionId ∧
    session.reference r.kind = .str r.providerId ∧ r.userId = some session.userId

section
variable {sessions : Dict String SessionRefs} {resources resources' : List Resource} {r resource : Resource} {f g : Finding}
  {c : Collected} {findings findings' : List Finding} {byKey byKey' : Dict (String × String) Resource} {key : String × String}
  {sessionId kind : String} {session : SessionRefs}

/-! ### The first pass -/

/-- A resource that a Session may refer to. -/
def Known (r : Resource) : Prop := r.kind ∈ resourceKinds ∧ r.providerId ≠ ""

instance : DecidablePred Known := fun _ => inferInstanceAs (Decidable (_ ∧ _))

/-- What the first pass finds about a resource whose key no other one has. -/
def keyFindings (r : Resource) : List Finding :=
  if r.kind ∉ resourceKinds then [⟨.providerResourceKindUnknown, r.sessionId, some r.kind, some r.providerId⟩]
  else if r.providerId = "" then [⟨.providerResourceIdInvalid, r.sessionId, some r.kind, none⟩]
  else []

theorem keyFindings_eq_nil : keyFindings r = [] ↔ Known r := by
  unfold keyFindings Known
  by_cases hkind : r.kind ∈ resourceKinds
  · rw [if_neg (not_not.mpr hkind)]
    by_cases hid : r.providerId = ""
    · rw [if_pos hid]
      exact iff_of_false (List.cons_ne_nil _ _) fun h => h.2 hid
    · rw [if_neg hid]
      exact iff_of_true rfl ⟨hkind, hid⟩
  · rw [if_pos hkind]
    exact iff_of_false (List.cons_ne_nil _ _) fun h => hkind h.1

/-- One resource with a new key. -/
theorem collect_new (h : c.byKey.get? r.key = none) : (collect c r).findings = c.findings ++ keyFindings r ∧
    (collect c r).byKey = if Known r then c.byKey.set r.key r else c.byKey := by
  have hnew : ¬(c.byKey.get? r.key).isSome := by
    rw [h]
    exact Bool.false_ne_true
  unfold collect keyFindings
  by_cases hkind : r.kind ∈ resourceKinds
  · rw [if_neg (not_not.mpr hkind), if_neg (not_not.mpr hkind)]
    by_cases hid : r.providerId = ""
    · have hunknown : ¬Known r := fun hknown => hknown.2 hid
      rw [if_pos hid, if_pos hid, if_neg hunknown]
      exact ⟨rfl, rfl⟩
    · have hknown : Known r := ⟨hkind, hid⟩
      rw [if_neg hid, if_neg hid, if_neg hnew, if_pos hknown, List.append_nil]
      exact ⟨rfl, rfl⟩
  · have hunknown : ¬Known r := fun hknown => hkind hknown.1
    rw [if_pos hkind, if_pos hkind, if_neg hunknown]
    exact ⟨rfl, rfl⟩

/-- Without findings, the resource is known and its key is new. -/
theorem collect_nil (h : (collect c r).findings = []) : c.findings = [] ∧ Known r ∧ c.byKey.get? r.key = none := by
  unfold collect at h
  split at h
  · exact absurd (List.append_eq_nil_iff.mp h).2 (List.cons_ne_nil _ _)
  split at h
  · exact absurd (List.append_eq_nil_iff.mp h).2 (List.cons_ne_nil _ _)
  split at h
  · exact absurd (List.append_eq_nil_iff.mp h).2 (List.cons_ne_nil _ _)
  rename_i hkind hid hnew
  exact ⟨h, ⟨not_not.mp hkind, hid⟩, by simpa using hnew⟩

/-- The first pass finds nothing only if all resources are known and no key comes twice. -/
theorem collected_nil (h : (resources.foldl collect c).findings = []) : c.findings = [] ∧ (resources.map Resource.key).Nodup ∧
    ∀ r ∈ resources, Known r ∧ c.byKey.get? r.key = none := by
  induction resources generalizing c with
  | nil => exact ⟨h, List.nodup_nil, fun r hr => by cases hr⟩
  | cons r resources ih =>
    obtain ⟨hfindings, hnodup, hall⟩ := ih h
    obtain ⟨hnil, hknown, hnew⟩ := collect_nil hfindings
    have hkey {r' : Resource} (hr' : r' ∈ resources) : r'.key ≠ r.key ∧ c.byKey.get? r'.key = none := by
      have hnone := (hall r' hr').2
      rw [(collect_new hnew).2, if_pos hknown] at hnone
      by_cases he : r'.key = r.key
      · rw [he, Dict.get?_set_self] at hnone
        cases hnone
      · rw [Dict.get?_set_ne he] at hnone
        exact ⟨he, hnone⟩
    refine ⟨hnil, List.nodup_cons.mpr ⟨fun hmem => ?_, hnodup⟩, List.forall_mem_cons.mpr ⟨⟨hknown, hnew⟩, fun r' hr' => ?_⟩⟩
    · obtain ⟨r', hr', he⟩ := List.mem_map.mp hmem
      exact (hkey hr').1 he
    · exact ⟨(hall r' hr').1, (hkey hr').2⟩

/-- With unique keys, every resource has its own findings, and the known ones can be looked up. -/
theorem collected_unique (hunique : (resources.map Resource.key).Nodup) (hnew : ∀ r ∈ resources, c.byKey.get? r.key = none) :
    (resources.foldl collect c).findings = c.findings ++ resources.flatMap keyFindings ∧
    ∀ key resource, (resources.foldl collect c).byKey.get? key = some resource ↔
      c.byKey.get? key = some resource ∨ resource ∈ resources ∧ Known resource ∧ resource.key = key := by
  induction resources generalizing c with
  | nil => exact ⟨(List.append_nil _).symm, fun key resource => ⟨.inl, fun h => h.resolve_right fun hr => by cases hr.1⟩⟩
  | cons r resources ih =>
    obtain ⟨hr, hunique⟩ := List.nodup_cons.mp hunique
    obtain ⟨hnewr, hnew⟩ := List.forall_mem_cons.mp hnew
    obtain ⟨hfindings, hbyKey⟩ := collect_new hnewr
    have hlater : ∀ r' ∈ resources, (collect c r).byKey.get? r'.key = none := by
      intro r' hr'
      rw [hbyKey]
      split
      · rw [Dict.get?_set_ne fun he => hr (List.mem_map.mpr ⟨r', hr', he⟩)]
        exact hnew r' hr'
      · exact hnew r' hr'
    obtain ⟨hall, hget⟩ := ih hunique hlater
    rw [List.foldl_cons]
    refine ⟨?_, fun key resource => ?_⟩
    · rw [hall, hfindings, List.flatMap_cons, List.append_assoc]
    · rw [hget, hbyKey, List.mem_cons]
      constructor
      · rintro (hfound | ⟨hmem, hknown, hkey⟩)
        · split at hfound
          · rename_i hknown
            by_cases he : key = r.key
            · rw [he, Dict.get?_set_self] at hfound
              obtain rfl := Option.some.inj hfound
              exact .inr ⟨.inl rfl, hknown, he.symm⟩
            · rw [Dict.get?_set_ne he] at hfound
              exact .inl hfound
          · exact .inl hfound
        · exact .inr ⟨.inr hmem, hknown, hkey⟩
      · rintro (hfound | ⟨rfl | hmem, hknown, hkey⟩)
        · have he : key ≠ r.key := by
            rintro rfl
            rw [hnewr] at hfound
            cases hfound
          split
          · rw [Dict.get?_set_ne he]
            exact .inl hfound
          · exact .inl hfound
        · rw [if_pos hknown, ← hkey, Dict.get?_set_self]
          exact .inl rfl
        · exact .inr ⟨hmem, hknown, hkey⟩

/-! ### The third pass -/

/-- The resource that a finding is about. -/
def Finding.About (f : Finding) (r : Resource) : Prop := f.resourceKind = some r.kind ∧ f.providerId = some r.providerId

theorem userMismatch_about : (userMismatch sessionId r.kind r.providerId).About r := ⟨rfl, rfl⟩

theorem about_checkUser (h : f ∈ checkUser findings sessionId session r) : f.About r := by
  unfold checkUser at h
  split at h
  · obtain rfl := List.mem_singleton.mp h
    exact ⟨rfl, rfl⟩
  · split at h
    · split at h
      · cases h
      · obtain rfl := List.mem_singleton.mp h
        exact ⟨rfl, rfl⟩
    · cases h

/-- What the third pass finds about a resource names its kind and its id. -/
theorem about_inspect (h : f ∈ inspect sessions findings r) : f.About r := by
  unfold inspect at h
  split at h
  · cases h
  split at h
  · cases h
  split at h
  · obtain rfl := List.mem_singleton.mp h
    exact ⟨rfl, rfl⟩
  split at h
  · obtain rfl := List.mem_singleton.mp h
    exact ⟨rfl, rfl⟩
  rcases List.mem_append.mp h with h | h
  · split at h
    · obtain rfl := List.mem_singleton.mp h
      exact ⟨rfl, rfl⟩
    · cases h
  · exact about_checkUser h

/-- Only findings about the resource matter to it. -/
theorem checkUser_congr (h : ∀ f, f.About r → (f ∈ findings ↔ f ∈ findings')) :
    checkUser findings sessionId session r = checkUser findings' sessionId session r := by
  unfold checkUser
  split
  · rfl
  · split
    · have hmem := h _ (@userMismatch_about r sessionId)
      by_cases hfound : userMismatch sessionId r.kind r.providerId ∈ findings
      · rw [if_pos hfound, if_pos (hmem.mp hfound)]
      · rw [if_neg hfound, if_neg (mt hmem.mpr hfound)]
    · rfl

theorem inspect_congr (h : ∀ f, f.About r → (f ∈ findings ↔ f ∈ findings')) :
    inspect sessions findings r = inspect sessions findings' r := by
  unfold inspect
  split
  · rfl
  split
  · rfl
  split
  · rfl
  split
  · rfl
  rw [checkUser_congr h]

/-- With unique keys, the third pass looks at each resource as if it were the only one. -/
theorem inspected_unique {more : List Finding} (hunique : (resources.map Resource.key).Nodup)
    (hmore : ∀ f ∈ more, ∀ r ∈ resources, ¬f.About r) :
    resources.foldl (fun findings r => findings ++ inspect sessions findings r) (findings ++ more) =
      findings ++ more ++ resources.flatMap (inspect sessions findings) := by
  induction resources generalizing more with
  | nil => exact (List.append_nil _).symm
  | cons r resources ih =>
    obtain ⟨hr, hunique⟩ := List.nodup_cons.mp hunique
    have hsame : inspect sessions (findings ++ more) r = inspect sessions findings r := by
      refine inspect_congr fun f hf => ?_
      rw [List.mem_append]
      exact ⟨fun h => h.resolve_right fun hm => hmore f hm r List.mem_cons_self hf, .inl⟩
    rw [List.foldl_cons, hsame, List.append_assoc, ih hunique ?_, List.flatMap_cons, List.append_assoc, List.append_assoc,
      List.append_assoc]
    intro f hf r' hr' habout
    rcases List.mem_append.mp hf with hf | hf
    · exact hmore f hf r' (List.mem_cons_of_mem r hr') habout
    · have hfr := about_inspect hf
      refine hr (List.mem_map.mpr ⟨r', hr', ?_⟩)
      have hkind := Option.some.inj (habout.1.symm.trans hfr.1)
      have hid := Option.some.inj (habout.2.symm.trans hfr.2)
      exact Prod.ext hkind hid

/-- The third pass ends without findings if there were none and it finds nothing about any resource. -/
theorem inspected_nil : resources.foldl (fun findings r => findings ++ inspect sessions findings r) findings = [] ↔
    findings = [] ∧ ∀ r ∈ resources, inspect sessions [] r = [] := by
  induction resources generalizing findings with
  | nil => exact ⟨fun h => ⟨h, fun r hr => by cases hr⟩, And.left⟩
  | cons r resources ih =>
    rw [List.foldl_cons, ih, List.append_eq_nil_iff, List.forall_mem_cons]
    constructor
    · rintro ⟨⟨rfl, hr⟩, hall⟩
      exact ⟨rfl, hr, hall⟩
    · rintro ⟨rfl, hr, hall⟩
      exact ⟨⟨rfl, hr⟩, hall⟩

/-! ### When nothing is found -/

/-- A reference is good if it is null, or if it resolves to a resource of the Session and its user. -/
theorem checkReference_nil (hknown : ∀ r ∈ resources, Known r)
    (hget : ∀ key resource, byKey.get? key = some resource ↔ resource ∈ resources ∧ resource.key = key) :
    checkReference byKey sessionId session kind = [] ↔ (session.reference kind ≠ .null → ∃ r ∈ resources, r.kind = kind ∧
      session.reference kind = .str r.providerId ∧ r.sessionId = some sessionId ∧ r.userId = some session.userId) := by
  have hinvalid {value : Json} {f : Finding} (hnull : value ≠ .null) (hstr : ∀ id, value ≠ .str id) : [f] = [] ↔
      (value ≠ .null → ∃ r ∈ resources, r.kind = kind ∧ value = .str r.providerId ∧ r.sessionId = some sessionId ∧
        r.userId = some session.userId) := by
    refine iff_of_false (List.cons_ne_nil f []) fun h => ?_
    obtain ⟨r, -, -, hr, -⟩ := h hnull
    exact hstr r.providerId hr
  unfold checkReference
  cases session.reference kind with
  | null => exact iff_of_true rfl fun h => absurd rfl h
  | bool b => exact hinvalid (by intro h; cases h) fun id h => by cases h
  | int n => exact hinvalid (by intro h; cases h) fun id h => by cases h
  | float x => exact hinvalid (by intro h; cases h) fun id h => by cases h
  | arr items => exact hinvalid (by intro h; cases h) fun id h => by cases h
  | obj fields => exact hinvalid (by intro h; cases h) fun id h => by cases h
  | str id =>
    dsimp only
    have hresolve : (Json.str id ≠ .null → ∃ r ∈ resources, r.kind = kind ∧ Json.str id = .str r.providerId ∧
        r.sessionId = some sessionId ∧ r.userId = some session.userId) ↔ ∃ r, byKey.get? (kind, id) = some r ∧
        r.sessionId = some sessionId ∧ r.userId = some session.userId := by
      constructor
      · intro h
        obtain ⟨r, hr, rfl, hid, htags⟩ := h (by intro hnull; cases hnull)
        obtain rfl := Json.str.inj hid
        exact ⟨r, (hget _ r).mpr ⟨hr, rfl⟩, htags⟩
      · rintro ⟨r, hr, htags⟩ -
        obtain ⟨hmem, hkey⟩ := (hget _ r).mp hr
        obtain ⟨rfl, rfl⟩ := Prod.mk.inj hkey
        exact ⟨r, hmem, rfl, rfl, htags⟩
    rw [hresolve]
    by_cases hid : id = ""
    · rw [if_pos hid]
      refine iff_of_false (List.cons_ne_nil _ _) ?_
      rintro ⟨r, hr, -⟩
      obtain ⟨hmem, hkey⟩ := (hget _ r).mp hr
      exact (hknown r hmem).2 ((congrArg Prod.snd hkey).trans hid)
    · rw [if_neg hid]
      cases hfound : byKey.get? (kind, id) with
      | none =>
        refine iff_of_false (List.cons_ne_nil _ _) ?_
        rintro ⟨r, hr, -⟩
        cases hr
      | some r =>
        dsimp only
        rw [List.append_eq_nil_iff]
        constructor
        · rintro ⟨hsession, huser⟩
          refine ⟨r, rfl, ?_, ?_⟩
          · by_contra hne
            rw [if_pos hne] at hsession
            cases hsession
          · by_contra hne
            rw [if_pos hne] at huser
            cases huser
        · rintro ⟨r', hr', hsession, huser⟩
          obtain rfl := Option.some.inj hr'
          rw [if_neg (not_not.mpr hsession), if_neg (not_not.mpr huser)]
          exact ⟨rfl, rfl⟩

theorem filter_ne_empty {value : Option String} {s : String} : value.filter (· ≠ "") = some s ↔ value = some s ∧ s ≠ "" := by
  rw [Option.filter_eq_some_iff]
  exact and_congr_right fun _ => ⟨of_decide_eq_true, decide_eq_true⟩

theorem checkUser_nil (hsession : session.userId ≠ "") :
    checkUser [] sessionId session r = [] ↔ r.userId = some session.userId := by
  unfold checkUser
  cases huser : r.userId.filter (· ≠ "") with
  | none =>
    refine iff_of_false (List.cons_ne_nil _ _) fun h => ?_
    rw [filter_ne_empty.mpr ⟨h, hsession⟩] at huser
    cases huser
  | some userId =>
    obtain ⟨huser, -⟩ := filter_ne_empty.mp huser
    dsimp only
    rw [huser, if_neg List.not_mem_nil]
    by_cases he : userId = session.userId
    · rw [if_neg (not_not.mpr he), he]
      exact iff_of_true rfl rfl
    · rw [if_pos he]
      exact iff_of_false (List.cons_ne_nil _ _) fun h => he (Option.some.inj h)

/-- A resource is good if it is tagged with a Session that refers to it, and with the user of that Session. -/
theorem inspect_nil (m : SessionMap) (hknown : Known r) : inspect m.sessions [] r = [] ↔ ∃ sessionId session,
    m.sessions.get? sessionId = some session ∧ r.sessionId = some sessionId ∧
      session.reference r.kind = .str r.providerId ∧ r.userId = some session.userId := by
  unfold inspect
  rw [if_neg (not_not.mpr hknown.1), if_neg hknown.2]
  cases htag : r.sessionId.filter (· ≠ "") with
  | none =>
    refine iff_of_false (List.cons_ne_nil _ _) ?_
    rintro ⟨sessionId, session, hsession, hr, -⟩
    rw [filter_ne_empty.mpr ⟨hr, m.sessionIds _ (Dict.get?_eq_some.mp hsession)⟩] at htag
    cases htag
  | some sessionId =>
    obtain ⟨htag, -⟩ := filter_ne_empty.mp htag
    dsimp only
    cases hsession : m.sessions.get? sessionId with
    | none =>
      refine iff_of_false (List.cons_ne_nil _ _) ?_
      rintro ⟨sessionId', session, hsession', hr, -⟩
      obtain rfl := Option.some.inj (htag.symm.trans hr)
      rw [hsession] at hsession'
      cases hsession'
    | some session =>
      dsimp only
      rw [List.append_eq_nil_iff, checkUser_nil (m.userIds _ (Dict.get?_eq_some.mp hsession))]
      constructor
      · rintro ⟨hreference, huser⟩
        refine ⟨sessionId, session, hsession, htag, isStr_iff.mp ?_, huser⟩
        by_contra hne
        rw [if_pos (by simpa using hne)] at hreference
        cases hreference
      · rintro ⟨sessionId', session', hsession', hr, hreference, huser⟩
        obtain rfl := Option.some.inj (htag.symm.trans hr)
        rw [hsession] at hsession'
        obtain rfl := Option.some.inj hsession'
        rw [isStr_iff.mpr hreference]
        exact ⟨rfl, huser⟩

/-- With unique keys, what Sessions refer to is looked up among the known resources. -/
theorem get?_collected (hunique : (resources.map Resource.key).Nodup) (key : String × String) (resource : Resource) :
    (resources.foldl collect ⟨[], Dict.empty⟩).byKey.get? key = some resource ↔
      resource ∈ resources ∧ Known resource ∧ resource.key = key := by
  rw [(collected_unique hunique fun r _ => rfl).2]
  constructor
  · rintro (hempty | hfound)
    · cases hempty
    · exact hfound
  · exact Or.inr

/-- **Nothing is found exactly when both sides agree.** -/
theorem allFindings_nil (m : SessionMap) : allFindings m.sessions resources = [] ↔ Agrees m.sessions resources := by
  unfold allFindings
  dsimp only
  rw [inspected_nil, List.append_eq_nil_iff]
  have hreferences (hunique : (resources.map Resource.key).Nodup) (hknown : ∀ r ∈ resources, Known r) :
      checkReferences (resources.foldl collect ⟨[], Dict.empty⟩).byKey m.sessions = [] ↔ ∀ item ∈ m.sessions.items,
        ∀ kind ∈ resourceKinds, item.2.reference kind ≠ .null → ∃ r ∈ resources, r.kind = kind ∧
          item.2.reference kind = .str r.providerId ∧ r.sessionId = some item.1 ∧ r.userId = some item.2.userId := by
    have hget (key : String × String) (resource : Resource) :
        (resources.foldl collect ⟨[], Dict.empty⟩).byKey.get? key = some resource ↔ resource ∈ resources ∧ resource.key = key := by
      rw [get?_collected hunique]
      exact and_congr_right fun hmem => ⟨And.right, fun hkey => ⟨hknown resource hmem, hkey⟩⟩
    unfold checkReferences
    rw [List.flatMap_eq_nil_iff]
    refine forall₂_congr fun item _ => ?_
    rw [List.flatMap_eq_nil_iff]
    exact forall₂_congr fun kind _ => checkReference_nil hknown hget
  constructor
  · rintro ⟨⟨hfirst, hsecond⟩, hthird⟩
    obtain ⟨-, hunique, hall⟩ := collected_nil hfirst
    have hknown (r : Resource) (hr : r ∈ resources) : Known r := (hall r hr).1
    exact ⟨fun r hr => (hknown r hr).1, fun r hr => (hknown r hr).2, hunique, (hreferences hunique hknown).mp hsecond,
      fun r hr => (inspect_nil m (hknown r hr)).mp (hthird r hr)⟩
  · rintro ⟨hkinds, hids, hunique, hrefs, htagged⟩
    have hknown (r : Resource) (hr : r ∈ resources) : Known r := ⟨hkinds r hr, hids r hr⟩
    refine ⟨⟨?_, (hreferences hunique hknown).mpr hrefs⟩, fun r hr => (inspect_nil m (hknown r hr)).mpr (htagged r hr)⟩
    rw [(collected_unique hunique fun r _ => rfl).1, List.nil_append, List.flatMap_eq_nil_iff]
    exact fun r hr => keyFindings_eq_nil.mpr (hknown r hr)

/-! ### No finding twice -/

/-- The findings with unique keys, pass by pass. -/
theorem allFindings_unique (hunique : (resources.map Resource.key).Nodup) : allFindings sessions resources =
    resources.flatMap keyFindings ++ checkReferences (resources.foldl collect ⟨[], Dict.empty⟩).byKey sessions ++
      resources.flatMap (inspect sessions (resources.flatMap keyFindings ++
        checkReferences (resources.foldl collect ⟨[], Dict.empty⟩).byKey sessions)) := by
  unfold allFindings
  dsimp only
  rw [(collected_unique hunique fun r _ => rfl).1, List.nil_append]
  have hthird := @inspected_unique sessions resources
    (resources.flatMap keyFindings ++ checkReferences (resources.foldl collect ⟨[], Dict.empty⟩).byKey sessions) [] hunique
    fun f hf => by cases hf
  rw [List.append_nil] at hthird
  exact hthird

/-- The reasons of the first pass with unique keys. -/
def Reason.ofKey : Reason → Bool
  | .providerResourceKindUnknown | .providerResourceIdInvalid => true
  | _ => false

/-- The reasons of the second pass. -/
def Reason.ofReference : Reason → Bool
  | .stateProviderReferenceInvalid | .stateProviderResourceMissing | .providerSessionOwnershipMismatch
  | .providerUserOwnershipMismatch => true
  | _ => false

/-- The finding of a resource by itself: there is at most one, and it names the key. -/
theorem mem_keyFindings (h : f ∈ keyFindings r) : keyFindings r = [f] ∧ f.reasonCode.ofKey = true ∧
    f.resourceKind = some r.kind ∧ f.providerId.getD "" = r.providerId := by
  unfold keyFindings at h ⊢
  by_cases hkind : r.kind ∈ resourceKinds
  · rw [if_neg (not_not.mpr hkind)] at h ⊢
    by_cases hid : r.providerId = ""
    · rw [if_pos hid] at h ⊢
      obtain rfl := List.mem_singleton.mp h
      exact ⟨rfl, rfl, rfl, hid.symm⟩
    · rw [if_neg hid] at h
      cases h
  · rw [if_pos hkind] at h ⊢
    obtain rfl := List.mem_singleton.mp h
    exact ⟨rfl, rfl, rfl, rfl⟩

/-- What a finding of the other passes leaves out depends on its reason alone. -/
structure Shaped (f : Finding) : Prop where
  reason : f.reasonCode.ofKey = false
  resourceKind : f.resourceKind.isSome = true
  sessionId : f.sessionId.isSome = decide (f.reasonCode ≠ .providerSessionMetadataMissing)
  providerId : f.providerId.isSome = decide (f.reasonCode ≠ .stateProviderReferenceInvalid)

theorem mem_checkReference (h : f ∈ checkReference byKey sessionId session kind) : f.sessionId = some sessionId ∧
    f.resourceKind = some kind ∧ f.reasonCode.ofReference = true ∧ Shaped f := by
  unfold checkReference at h
  split at h
  · cases h
  · split at h
    · obtain rfl := List.mem_singleton.mp h
      exact ⟨rfl, rfl, rfl, rfl, rfl, rfl, rfl⟩
    · split at h
      · obtain rfl := List.mem_singleton.mp h
        exact ⟨rfl, rfl, rfl, rfl, rfl, rfl, rfl⟩
      · rcases List.mem_append.mp h with h | h
        · split at h
          · obtain rfl := List.mem_singleton.mp h
            exact ⟨rfl, rfl, rfl, rfl, rfl, rfl, rfl⟩
          · cases h
        · split at h
          · obtain rfl := List.mem_singleton.mp h
            exact ⟨rfl, rfl, rfl, rfl, rfl, rfl, rfl⟩
          · cases h
  · obtain rfl := List.mem_singleton.mp h
    exact ⟨rfl, rfl, rfl, rfl, rfl, rfl, rfl⟩

/-- A finding is of the second pass's reasons only if it is a mismatch that is not there. -/
theorem mem_checkUser (h : f ∈ checkUser findings sessionId session r) :
    (f.reasonCode.ofReference = true → f ∉ findings) ∧ Shaped f := by
  unfold checkUser at h
  split at h
  · obtain rfl := List.mem_singleton.mp h
    exact ⟨fun hfalse => absurd hfalse Bool.false_ne_true, rfl, rfl, rfl, rfl⟩
  · split at h
    · split at h
      · cases h
      · rename_i hnew
        obtain rfl := List.mem_singleton.mp h
        exact ⟨fun _ => hnew, rfl, rfl, rfl, rfl⟩
    · cases h

theorem mem_inspect (h : f ∈ inspect sessions findings r) : (f.reasonCode.ofReference = true → f ∉ findings) ∧ Shaped f := by
  unfold inspect at h
  split at h
  · cases h
  split at h
  · cases h
  split at h
  · obtain rfl := List.mem_singleton.mp h
    exact ⟨fun hfalse => absurd hfalse Bool.false_ne_true, rfl, rfl, rfl, rfl⟩
  split at h
  · obtain rfl := List.mem_singleton.mp h
    exact ⟨fun hfalse => absurd hfalse Bool.false_ne_true, rfl, rfl, rfl, rfl⟩
  rcases List.mem_append.mp h with h | h
  · split at h
    · obtain rfl := List.mem_singleton.mp h
      exact ⟨fun hfalse => absurd hfalse Bool.false_ne_true, rfl, rfl, rfl, rfl⟩
    · cases h
  · exact mem_checkUser h

theorem nodup_singleton_append {p q : Prop} [Decidable p] [Decidable q] (h : f ≠ g) :
    ((if p then [f] else []) ++ if q then [g] else []).Nodup := by
  by_cases hp : p
  · by_cases hq : q
    · rw [if_pos hp, if_pos hq]
      exact List.nodup_cons.mpr ⟨fun hmem => h (List.mem_singleton.mp hmem), List.nodup_singleton g⟩
    · rw [if_pos hp, if_neg hq]
      exact List.nodup_singleton f
  · rw [if_neg hp]
    by_cases hq : q
    · rw [if_pos hq]
      exact List.nodup_singleton g
    · rw [if_neg hq]
      exact List.nodup_nil

theorem nodup_checkReference : (checkReference byKey sessionId session kind).Nodup := by
  unfold checkReference
  split
  · exact List.nodup_nil
  · split
    · exact List.nodup_singleton _
    · split
      · exact List.nodup_singleton _
      · exact nodup_singleton_append fun h => by cases h
  · exact List.nodup_singleton _

theorem nodup_checkReferences : (checkReferences byKey sessions).Nodup := by
  unfold checkReferences
  refine List.nodup_flatMap.mpr ⟨fun item _ => List.nodup_flatMap.mpr ⟨fun kind _ => nodup_checkReference, ?_⟩, ?_⟩
  · have hkinds : resourceKinds.Nodup := by decide
    refine hkinds.imp fun {kind kind'} hne f hf hf' => hne ?_
    exact Option.some.inj ((mem_checkReference hf).2.1.symm.trans (mem_checkReference hf').2.1)
  · refine (List.pairwise_map.mp sessions.nodup).imp fun {item item'} hne f hf hf' => hne ?_
    obtain ⟨kind, -, hf⟩ := List.mem_flatMap.mp hf
    obtain ⟨kind', -, hf'⟩ := List.mem_flatMap.mp hf'
    exact Option.some.inj ((mem_checkReference hf).1.symm.trans (mem_checkReference hf').1)

theorem mem_checkReferences (h : f ∈ checkReferences byKey sessions) : f.reasonCode.ofReference = true ∧ Shaped f := by
  obtain ⟨item, -, h⟩ := List.mem_flatMap.mp h
  obtain ⟨kind, -, h⟩ := List.mem_flatMap.mp h
  exact (mem_checkReference h).2.2

theorem nodup_keyFindings (hunique : (resources.map Resource.key).Nodup) : (resources.flatMap keyFindings).Nodup := by
  refine List.nodup_flatMap.mpr ⟨fun r _ => ?_, (List.pairwise_map.mp hunique).imp fun {r r'} hne f hf hf' => hne ?_⟩
  · cases hfindings : keyFindings r with
    | nil => exact List.nodup_nil
    | cons f rest =>
      have hone := (mem_keyFindings (hfindings ▸ List.mem_cons_self : f ∈ keyFindings r)).1
      rw [← hfindings, hone]
      exact List.nodup_singleton f
  · obtain ⟨-, -, hkind, hid⟩ := mem_keyFindings hf
    obtain ⟨-, -, hkind', hid'⟩ := mem_keyFindings hf'
    exact Prod.ext (Option.some.inj (hkind.symm.trans hkind')) (hid.symm.trans hid')

/-- At most one thing is found about the user. -/
theorem checkUser_cases : checkUser findings sessionId session r = [] ∨ ∃ f, checkUser findings sessionId session r = [f] ∧
    f.reasonCode ≠ .providerResourceNotReferencedBySession := by
  unfold checkUser
  split
  · exact .inr ⟨_, rfl, by intro h; cases h⟩
  · split
    · split
      · exact .inl rfl
      · exact .inr ⟨_, rfl, by intro h; cases h⟩
    · exact .inl rfl

theorem nodup_notReferenced {p : Prop} [Decidable p] {l : List Finding} (hf : f.reasonCode = .providerResourceNotReferencedBySession)
    (hl : l = [] ∨ ∃ g, l = [g] ∧ g.reasonCode ≠ .providerResourceNotReferencedBySession) :
    ((if p then [f] else []) ++ l).Nodup := by
  rcases hl with rfl | ⟨g, rfl, hg⟩
  · rw [List.append_nil]
    split
    · exact List.nodup_singleton f
    · exact List.nodup_nil
  · split
    · refine List.nodup_cons.mpr ⟨fun hmem => hg ?_, List.nodup_singleton g⟩
      rw [← List.mem_singleton.mp hmem, hf]
    · exact List.nodup_singleton g

theorem nodup_inspect : (inspect sessions findings r).Nodup := by
  unfold inspect
  split
  · exact List.nodup_nil
  split
  · exact List.nodup_nil
  split
  · exact List.nodup_singleton _
  split
  · exact List.nodup_singleton _
  · exact nodup_notReferenced rfl checkUser_cases

theorem nodup_inspected (hunique : (resources.map Resource.key).Nodup) :
    (resources.flatMap (inspect sessions findings)).Nodup := by
  refine List.nodup_flatMap.mpr ⟨fun r _ => nodup_inspect, (List.pairwise_map.mp hunique).imp fun {r r'} hne f hf hf' => hne ?_⟩
  have habout := about_inspect hf
  have habout' := about_inspect hf'
  exact Prod.ext (Option.some.inj (habout.1.symm.trans habout'.1)) (Option.some.inj (habout.2.symm.trans habout'.2))

/-- **With unique keys, nothing is found twice.** -/
theorem nodup_allFindings (hunique : (resources.map Resource.key).Nodup) : (allFindings sessions resources).Nodup := by
  rw [allFindings_unique hunique]
  refine List.nodup_append.mpr ⟨List.nodup_append.mpr ⟨nodup_keyFindings hunique, nodup_checkReferences, ?_⟩,
    nodup_inspected hunique, ?_⟩
  · rintro f hf g hg rfl
    obtain ⟨r, -, hf⟩ := List.mem_flatMap.mp hf
    have hreason := (mem_checkReferences hg).2.reason
    rw [(mem_keyFindings hf).2.1] at hreason
    cases hreason
  · rintro f hf g hg rfl
    obtain ⟨r, -, hg⟩ := List.mem_flatMap.mp hg
    obtain ⟨hnew, hshaped⟩ := mem_inspect hg
    rcases List.mem_append.mp hf with hfirst | hsecond
    · obtain ⟨r', -, hfirst⟩ := List.mem_flatMap.mp hfirst
      have hreason := hshaped.reason
      rw [(mem_keyFindings hfirst).2.1] at hreason
      cases hreason
    · exact hnew (mem_checkReferences hsecond).1 hf

/-! ### The order of the resources -/

theorem reason_str : ∀ a b : Reason, a.str = b.str → a = b := by
  intro a b h
  cases a <;> cases b <;> first | rfl | exact absurd h (by decide)

theorem getD_inj {a b : Option String} (hsome : a.isSome = b.isSome) (h : a.getD "" = b.getD "") : a = b := by
  cases a with
  | none =>
    cases b with
    | none => rfl
    | some b => cases hsome
  | some a =>
    cases b with
    | none => cases hsome
    | some b => exact congrArg some h

theorem key_eq (h : f.key = g.key) : f.sessionId.getD "" = g.sessionId.getD "" ∧
    f.resourceKind.getD "" = g.resourceKind.getD "" ∧ f.providerId.getD "" = g.providerId.getD "" ∧ f.reasonCode = g.reasonCode := by
  have hsession := toLex.injective h
  obtain ⟨hsession, hrest⟩ := Prod.mk.inj hsession
  obtain ⟨hkind, hrest⟩ := Prod.mk.inj (toLex.injective hrest)
  obtain ⟨hid, hreason⟩ := Prod.mk.inj (toLex.injective hrest)
  exact ⟨hsession, hkind, hid, reason_str _ _ hreason⟩

/-- A finding is of the first pass, about one resource, or it is shaped like those of the other passes. -/
theorem mem_allFindings (hunique : (resources.map Resource.key).Nodup) (h : f ∈ allFindings sessions resources) :
    (∃ r ∈ resources, f ∈ keyFindings r) ∨ Shaped f := by
  rw [allFindings_unique hunique] at h
  rcases List.mem_append.mp h with h | h
  · rcases List.mem_append.mp h with h | h
    · exact .inl (List.mem_flatMap.mp h)
    · exact .inr (mem_checkReferences h).2
  · obtain ⟨r, -, h⟩ := List.mem_flatMap.mp h
    exact .inr (mem_inspect h).2

/-- Findings with the same sort key are the same. -/
theorem eq_of_key_eq (hunique : (resources.map Resource.key).Nodup) (hf : f ∈ allFindings sessions resources)
    (hg : g ∈ allFindings sessions resources) (h : f.key = g.key) : f = g := by
  obtain ⟨hsession, hkind, hid, hreason⟩ := key_eq h
  rcases mem_allFindings hunique hf with ⟨r, hr, hf⟩ | hf
  · obtain ⟨hone, hkeyReason, hfkind, hfid⟩ := mem_keyFindings hf
    rcases mem_allFindings hunique hg with ⟨r', hr', hg⟩ | hg
    · obtain ⟨-, -, hgkind, hgid⟩ := mem_keyFindings hg
      rw [hfkind, hgkind] at hkind
      rw [hfid, hgid] at hid
      obtain rfl := List.inj_on_of_nodup_map hunique hr hr' (Prod.ext hkind hid)
      rw [hone] at hg
      exact (List.mem_singleton.mp hg).symm
    · rw [hreason, hg.reason] at hkeyReason
      cases hkeyReason
  · rcases mem_allFindings hunique hg with ⟨r', -, hg⟩ | hg
    · have hkeyReason := (mem_keyFindings hg).2.1
      rw [← hreason, hf.reason] at hkeyReason
      cases hkeyReason
    · obtain ⟨fr, fs, fk, fi⟩ := f
      obtain ⟨gr, gs, gk, gi⟩ := g
      obtain rfl : fr = gr := hreason
      obtain rfl := getD_inj (hf.sessionId.trans hg.sessionId.symm) hsession
      obtain rfl := getD_inj (hf.resourceKind.trans hg.resourceKind.symm) hkind
      obtain rfl := getD_inj (hf.providerId.trans hg.providerId.symm) hid
      rfl

/-- The resources in another order give the same findings in another order. -/
theorem allFindings_perm (hunique : (resources.map Resource.key).Nodup) (hperm : resources'.Perm resources) :
    (allFindings sessions resources').Perm (allFindings sessions resources) := by
  have hunique' : (resources'.map Resource.key).Nodup := (hperm.map Resource.key).nodup_iff.mpr hunique
  have hget (key : String × String) : (resources'.foldl collect ⟨[], Dict.empty⟩).byKey.get? key =
      (resources.foldl collect ⟨[], Dict.empty⟩).byKey.get? key := by
    apply Option.ext
    intro resource
    rw [get?_collected hunique', get?_collected hunique, hperm.mem_iff]
  have hreferences : checkReferences (resources'.foldl collect ⟨[], Dict.empty⟩).byKey sessions =
      checkReferences (resources.foldl collect ⟨[], Dict.empty⟩).byKey sessions := by
    unfold checkReferences checkReference
    simp only [hget]
  rw [allFindings_unique hunique', allFindings_unique hunique, hreferences]
  have hfirst := hperm.flatMap_right keyFindings
  refine (hfirst.append_right _).append ?_
  have hinspect : inspect sessions (resources'.flatMap keyFindings ++
        checkReferences (resources.foldl collect ⟨[], Dict.empty⟩).byKey sessions) =
      inspect sessions (resources.flatMap keyFindings ++
        checkReferences (resources.foldl collect ⟨[], Dict.empty⟩).byKey sessions) := by
    funext r
    exact inspect_congr fun f _ => (hfirst.append_right _).mem_iff
  rw [hinspect]
  exact hperm.flatMap_right _

/-- The report does not depend on the order of the resources. -/
theorem reconcile_perm (hunique : (resources.map Resource.key).Nodup) (hperm : resources'.Perm resources) :
    reconcileProviderResources sessions resources' = reconcileProviderResources sessions resources := by
  have hall := @allFindings_perm sessions resources resources' hunique hperm
  have hsorted (l : List Finding) : (l.mergeSort fun f g => f.key ≤ g.key).Pairwise fun f g => f.key ≤ g.key := by
    refine (List.pairwise_mergeSort ?_ ?_ l).imp of_decide_eq_true
    · intro a b c hab hbc
      exact decide_eq_true ((of_decide_eq_true hab).trans (of_decide_eq_true hbc))
    · intro a b
      rw [Bool.or_eq_true, decide_eq_true_eq, decide_eq_true_eq]
      exact le_total _ _
  have heq : ((allFindings sessions resources').mergeSort fun f g => f.key ≤ g.key) =
      (allFindings sessions resources).mergeSort fun f g => f.key ≤ g.key := by
    refine List.Perm.eq_of_pairwise ?_ (hsorted _) (hsorted _)
      ((List.mergeSort_perm _ _).trans (hall.trans (List.mergeSort_perm _ _).symm))
    intro f g hf hg hfg hgf
    have hf := hall.mem_iff.mp ((List.mergeSort_perm _ _).mem_iff.mp hf)
    have hg := (List.mergeSort_perm _ _).mem_iff.mp hg
    exact eq_of_key_eq hunique hf hg (le_antisymm hfg hgf)
  unfold reconcileProviderResources
  rw [heq, hperm.length_eq]

/-- **The report matches exactly when both sides agree. With unique keys it lists nothing twice, and it is the same for every
order of the resources.** -/
theorem provider_reconcile_exact (m : SessionMap) (resources : List Resource) :
    ((reconcileProviderResources m.sessions resources).status = .matches ↔ Agrees m.sessions resources) ∧
    ((resources.map Resource.key).Nodup → (reconcileProviderResources m.sessions resources).findings.Nodup ∧
      ∀ resources', resources'.Perm resources →
        reconcileProviderResources m.sessions resources' = reconcileProviderResources m.sessions resources) := by
  refine ⟨?_, fun hunique => ⟨?_, fun resources' hperm => reconcile_perm hunique hperm⟩⟩
  · have hnil : ((allFindings m.sessions resources).mergeSort fun f g => f.key ≤ g.key) = [] ↔
        allFindings m.sessions resources = [] := by
      rw [← List.length_eq_zero_iff, List.length_mergeSort, List.length_eq_zero_iff]
    rw [← allFindings_nil m, ← hnil]
    unfold reconcileProviderResources
    dsimp only
    split
    · rename_i hempty
      exact iff_of_true rfl hempty
    · rename_i hsome
      exact iff_of_false (by intro h; cases h) hsome
  · exact (List.mergeSort_perm _ _).nodup_iff.mpr (nodup_allFindings hunique)

end
end IRLight.Reconcile
