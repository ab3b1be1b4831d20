import IRLight.IngestAuth.CredentialStore
import Mathlib.Data.List.Induction

/-! # Who is let in by the credential store

In every run of the store at most one credential of a Session and a scope is not revoked, a revoked one stays so, and
`verify` finds a record exactly when it should. -/

namespace IRLight.IngestAuth

/-! ### Records -/

/-- What no method changes in a record. -/
def CredentialRecord.terms (r : CredentialRecord) :=
  (r.id, r.sessionId, r.userId, r.scope, r.protocols, r.createdAt, r.expiresAt, r.username, r.secretSha256)

/-- What a method other than `issue` may do to a record. -/
structure CredentialRecord.Keeps (r r' : CredentialRecord) : Prop where
  terms : r'.terms = r.terms
  revoked : ∀ t, r.revokedAt = some t → r'.revokedAt = some t

section
variable {r r' : CredentialRecord} {key : Uuid} {t : Timestamp}

theorem CredentialRecord.Keeps.refl (r : CredentialRecord) : r.Keeps r := ⟨rfl, fun _ h => h⟩

theorem CredentialRecord.Keeps.sessionId (h : r.Keeps r') : r'.sessionId = r.sessionId := by
  have hterms := h.terms
  simp only [CredentialRecord.terms, Prod.mk.injEq] at hterms
  exact hterms.2.1

theorem CredentialRecord.Keeps.scope (h : r.Keeps r') : r'.scope = r.scope := by
  have hterms := h.terms
  simp only [CredentialRecord.terms, Prod.mk.injEq] at hterms
  exact hterms.2.2.2.1

theorem CredentialRecord.Keeps.secretSha256 (h : r.Keeps r') : r'.secretSha256 = r.secretSha256 := by
  have hterms := h.terms
  simp only [CredentialRecord.terms, Prod.mk.injEq] at hterms
  exact hterms.2.2.2.2.2.2.2.2

theorem CredentialRecord.Keeps.unrevoked (h : r.Keeps r') (hr' : r'.revokedAt = none) : r.revokedAt = none := by
  cases hr : r.revokedAt with
  | none => rfl
  | some t =>
    rw [h.revoked t hr] at hr'
    cases hr'

theorem CredentialRecord.keeps_revoke : r.Keeps (r.revoke t) := by
  refine ⟨rfl, fun t' ht' => ?_⟩
  unfold revoke Credential.revoke
  rw [ht']
  rfl

theorem CredentialRecord.isSome_revoke : (r.revoke t).revokedAt.isSome = true := by
  unfold revoke Credential.revoke
  cases r.revokedAt <;> rfl

/-- Whether a record is valid depends on its terms. -/
theorem validateRecord_congr (h : r'.terms = r.terms) : validateRecord key r' = validateRecord key r := by
  simp only [CredentialRecord.terms, Prod.mk.injEq] at h
  obtain ⟨hid, hsession, huser, -, hprotocols, hcreated, hexpires, hname, -⟩ := h
  unfold validateRecord
  rw [hid, hsession, huser, hprotocols, hcreated, hexpires, hname]

/-- What is known of a valid record. -/
theorem validateRecord_ok (h : validateRecord key r = .ok ()) : r.id = key ∧ r.username = r.sessionId ∧ r.username ≠ "" := by
  unfold validateRecord at h
  obtain ⟨_, _, h⟩ := bind_eq_ok.mp h
  obtain ⟨_, _, h⟩ := bind_eq_ok.mp h
  obtain ⟨_, hname, h⟩ := bind_eq_ok.mp h
  obtain ⟨_, hid, h⟩ := bind_eq_ok.mp h
  obtain ⟨_, hsession, h⟩ := bind_eq_ok.mp h
  exact ⟨not_not.mp (raiseIf_eq_ok.mp hid), not_not.mp (raiseIf_eq_ok.mp hsession), raiseIf_eq_ok.mp hname⟩

theorem validateCredentials_iff {credentials : Credentials} : validateCredentials credentials = .ok () ↔
    ∀ key r, credentials.get? key = some r → validateRecord key r = .ok () := by
  rw [validateCredentials, forM_eq_ok]
  constructor
  · intro h key r hr
    exact h (key, r) (Dict.get?_eq_some.mp hr)
  · rintro h ⟨key, r⟩ hi
    exact h key r (Dict.get?_eq_some.mpr hi)

end

/-! ### What a call does -/

/-- The record that an `issue` makes. -/
def StoreMethod.record? (lib : Stdlib) : StoreMethod → Option CredentialRecord
  | .issue sessionId userId scope protocols ttlSeconds now credentialId secret =>
    (issueRecord lib sessionId userId scope protocols ttlSeconds now credentialId secret).toOption
  | _ => none

/-- What a call does to the stored records: it leaves them, it adds the one it has issued in place of the unrevoked
    ones of its Session and scope, or it changes some of them without touching their terms. -/
inductive StoreCall.Changes (lib : Stdlib) (c : StoreCall) (records records' : Credentials) : Prop
  | issued {record : CredentialRecord} (made : c.method.record? lib = some record)
      (set : ∀ key, records'.get? key = if key = record.id then some record else (records.get? key).map fun r =>
        if r.sessionId = record.sessionId ∧ r.scope = record.scope then r.revoke record.createdAt else r)
  | kept (f : Uuid → CredentialRecord → CredentialRecord)
      (keeps : ∀ key r, records.get? key = some r → r.Keeps (f key r))
      (set : ∀ key, records'.get? key = (records.get? key).map (f key))

section
variable {lib : Stdlib} {c : StoreCall} {files : CredentialFiles} {credentials credentials' records records' : Credentials}
  {fault : Option IoFault} {r : CredentialRecord} {key : Uuid}

theorem StoreCall.Changes.same (h : records' = records) : c.Changes lib records records' :=
  .kept (fun _ r => r) (fun _ r _ => .refl r) fun key => by rw [h, Option.map_id']

theorem CredentialFiles.load_ok (h : files.load = .ok credentials) : credentials = files.records := by
  unfold load at h
  unfold records
  split at h
  · rename_i credentials₀ hfile
    obtain ⟨_, _, rfl⟩ := map_eq_ok.mp h
    rw [hfile]
    rfl
  · rename_i hfile
    split at h
    · cases h
    · rw [hfile, ← Except.ok.inj h]
      rfl

/-- What a transaction does to the records. -/
theorem CredentialFiles.transact_records {α : Type} (body : Credentials → Except Exc (α × Option Credentials)) :
    (files.transact fault body).2.records = files.records ∨ ∃ a credentials',
      body files.records = .ok (a, some credentials') ∧ validateCredentials credentials' = .ok () ∧
        ∀ key, (files.transact fault body).2.records.get? key = credentials'.get? key := by
  unfold transact
  split
  · exact Or.inl rfl
  · exact Or.inl rfl
  · exact Or.inl rfl
  · rename_i credentials _ _ hload
    obtain rfl := load_ok hload
    dsimp only
    split
    · exact Or.inl rfl
    · exact Or.inl rfl
    · rename_i a credentials' hbody
      unfold persist
      dsimp only
      split
      · exact Or.inl rfl
      · exact Or.inr ⟨a, credentials', hbody, ‹validateCredentials credentials' = .ok ()›, fun key => Dict.get?_sort⟩
      · exact Or.inr ⟨a, credentials', hbody, ‹validateCredentials credentials' = .ok ()›, fun key => Dict.get?_sort⟩
      · exact Or.inl rfl
      · exact Or.inl rfl

theorem get?_setRecord {v : CredentialRecord} {k : Uuid} :
    (records.set k v).get? key = if key = k then some v else records.get? key := by
  split
  · rename_i hkey
    rw [hkey, Dict.get?_set_self]
  · rename_i hkey
    exact Dict.get?_set_ne hkey

/-- A record that a method changes in its place. -/
theorem StoreCall.Changes.one {r' : CredentialRecord} (hr : records.get? key = some r) (hkeeps : r.Keeps r') :
    c.Changes lib records (records.set key r') := by
  refine .kept (fun k r => if k = key then r' else r) (fun k r₀ hr₀ => ?_) fun k => ?_
  · split
    · rename_i hk
      subst hk
      rw [Option.some.inj (hr₀.symm.trans hr)]
      exact hkeeps
    · exact .refl r₀
  · rw [get?_setRecord]
    split
    · rename_i hk
      subst hk
      rw [hr, Option.map_some]
    · rw [Option.map_id']

theorem StoreCall.Changes.congr (h : c.Changes lib records credentials) (hsame : ∀ key, records'.get? key = credentials.get? key) :
    c.Changes lib records records' := by
  cases h with
  | issued made set => exact .issued made fun key => (hsame key).trans (set key)
  | kept f keeps set => exact .kept f keeps fun key => (hsame key).trans (set key)

/-- A transaction whose body changes the records in a way that is described. -/
theorem StoreCall.Changes.transact {α : Type} {body : Credentials → Except Exc (α × Option Credentials)}
    (h : ∀ a credentials', body files.records = .ok (a, some credentials') → c.Changes lib files.records credentials') :
    c.Changes lib files.records (files.transact fault body).2.records := by
  rcases files.transact_records body with hsame | ⟨a, credentials', hbody, -, hset⟩
  · exact .same hsame
  · exact (h a credentials' hbody).congr hset

variable (lib c files) in
/-- **What a call does to the stored records.** -/
theorem StoreCall.run_changes : c.Changes lib files.records (c.run lib files).2.records := by
  unfold run
  cases hmethod : c.method with
  | issue sessionId userId scope protocols ttlSeconds now credentialId secret =>
    dsimp only
    cases hrecord : issueRecord lib sessionId userId scope protocols ttlSeconds now credentialId secret with
    | error e => exact .same rfl
    | ok record =>
      refine .transact fun a credentials' hbody => ?_
      obtain ⟨-, hcredentials⟩ := Prod.mk.inj (Except.ok.inj hbody)
      obtain rfl := Option.some.inj hcredentials
      have hmade : c.method.record? lib = some record := by rw [hmethod, StoreMethod.record?, hrecord]; rfl
      refine .issued hmade fun key => ?_
      rw [rotate, get?_setRecord, Dict.get?_mapVal]
  | verify username secret protocol now scope =>
    dsimp only
    split
    · exact .same rfl
    · split
      · exact .same rfl
      · refine .transact fun a credentials' hbody => ?_
        obtain ⟨⟨o, credentials₀⟩, hverify, heq⟩ := map_eq_ok.mp hbody
        obtain ⟨-, rfl⟩ := Prod.mk.inj heq
        unfold verifyBody at hverify
        split at hverify
        · cases (Prod.mk.inj (Except.ok.inj hverify)).2
        · rename_i key record hfind
          obtain ⟨-, hset⟩ := Prod.mk.inj (Except.ok.inj hverify)
          rw [← Option.some.inj hset]
          exact .one (Dict.get?_eq_some.mpr (List.mem_of_find?_eq_some hfind)) ⟨rfl, fun _ h => h⟩
    · exact .same rfl
  | revoke credentialId userId now =>
    refine .transact fun a credentials' hbody => ?_
    obtain ⟨⟨o, credentials₀⟩, hrevoke, heq⟩ := map_eq_ok.mp hbody
    obtain ⟨-, rfl⟩ := Prod.mk.inj heq
    unfold revokeBody at hrevoke
    split at hrevoke
    · cases hrevoke
    · rename_i record hget
      obtain ⟨_, _, hrevoke⟩ := bind_eq_ok.mp hrevoke
      split at hrevoke
      · obtain ⟨revokedAt, _, hrevoke⟩ := bind_eq_ok.mp hrevoke
        obtain ⟨-, hset⟩ := Prod.mk.inj (pure_eq_ok.mp hrevoke)
        rw [← Option.some.inj hset]
        exact .one hget CredentialRecord.keeps_revoke
      · cases (Prod.mk.inj (pure_eq_ok.mp hrevoke)).2
  | revokeSession sessionId now =>
    dsimp only
    split
    · exact .same rfl
    · rename_i revokedAt _
      refine .transact fun a credentials' hbody => ?_
      obtain ⟨⟨o, credentials₀⟩, hrevoke, heq⟩ := map_eq_ok.mp hbody
      obtain ⟨-, rfl⟩ := Prod.mk.inj heq
      obtain ⟨-, hset⟩ := Prod.mk.inj (Except.ok.inj hrevoke)
      split at hset
      · cases hset
      · rw [← Option.some.inj hset]
        refine .kept (fun _ r => if r.sessionId = sessionId then r.revoke revokedAt else r) (fun _ r _ => ?_) fun key =>
          Dict.get?_mapVal
        split
        · exact CredentialRecord.keeps_revoke
        · exact .refl r

end

/-! ### Runs -/

/-- The identifier and the secret that an `issue` draws. -/
def StoreMethod.draws? : StoreMethod → Option (Uuid × String)
  | .issue _ _ _ _ _ _ credentialId secret => some (credentialId, secret)
  | _ => none

/-- The Session and the scope that an `issue` is for. -/
def StoreMethod.issuesFor? : StoreMethod → Option (String × CredentialScope)
  | .issue sessionId _ scope _ _ _ _ _ => (scopeOf scope).map fun scope => (sessionId, scope)
  | _ => none

/-- What the calls have drawn. -/
def drawn (calls : List StoreCall) : List (Uuid × String) := calls.filterMap (·.method.draws?)

/-- What `uuid4` and `token_urlsafe` draw: no identifier twice, and secrets that are not empty and all have different
    digests. -/
structure Draws (lib : Stdlib) (calls : List StoreCall) : Prop where
  ids : ((drawn calls).map Prod.fst).Nodup
  digests : ((("" :: (drawn calls).map Prod.snd)).map lib.sha256).Nodup

/-- The stored records are valid. -/
def Credentials.Valid (records : Credentials) : Prop :=
  ∀ key r, records.get? key = some r → validateRecord key r = .ok ()

/-- At most one credential of a Session and a scope is not revoked. -/
def Credentials.Single (records : Credentials) : Prop :=
  ∀ key key' r r', records.get? key = some r → records.get? key' = some r' → r.revokedAt = none → r'.revokedAt = none →
    r.sessionId = r'.sessionId → r.scope = r'.scope → key = key'

/-- Every stored record comes from a call that has issued it. -/
def Credentials.Issued (lib : Stdlib) (calls : List StoreCall) (records : Credentials) : Prop :=
  ∀ key r, records.get? key = some r → ∃ c ∈ calls, ∃ secret, c.method.draws? = some (key, secret) ∧
    r.secretSha256 = lib.sha256 secret ∧ c.method.issuesFor? = some (r.sessionId, r.scope)

section
variable {lib : Stdlib} {c : StoreCall} {calls before between : List StoreCall} {files : CredentialFiles}
  {records records' : Credentials} {r record : CredentialRecord} {key : Uuid} {m : StoreMethod} {secret : String}

theorem runStore_concat : runStore lib (calls ++ [c]) = (c.run lib (runStore lib calls)).2 := by
  rw [runStore, List.foldl_append]
  rfl

/-- What an `issue` makes is not revoked. -/
theorem StoreMethod.record?_spec (h : m.record? lib = some record) : record.revokedAt = none ∧
    ∃ secret, m.draws? = some (record.id, secret) ∧ record.secretSha256 = lib.sha256 secret ∧
      m.issuesFor? = some (record.sessionId, record.scope) := by
  cases m with
  | issue sessionId userId scope protocols ttlSeconds now credentialId secret =>
    rw [record?] at h
    cases hrecord : issueRecord lib sessionId userId scope protocols ttlSeconds now credentialId secret with
    | error e =>
      rw [hrecord] at h
      cases h
    | ok record' =>
      rw [hrecord] at h
      obtain rfl := Option.some.inj h
      unfold issueRecord at hrecord
      obtain ⟨_, _, hrecord⟩ := bind_eq_ok.mp hrecord
      obtain ⟨_, _, hrecord⟩ := bind_eq_ok.mp hrecord
      split at hrecord
      · cases hrecord
      · rename_i scope' hscope
        obtain ⟨_, _, hrecord⟩ := bind_eq_ok.mp hrecord
        obtain ⟨_, _, hrecord⟩ := bind_eq_ok.mp hrecord
        obtain ⟨_, _, hrecord⟩ := bind_eq_ok.mp hrecord
        rw [← pure_eq_ok.mp hrecord]
        refine ⟨rfl, secret, rfl, rfl, ?_⟩
        rw [issuesFor?, hscope]
        rfl
  | verify username secret protocol now scope => cases h
  | revoke credentialId userId now => cases h
  | revokeSession sessionId now => cases h

/-- A call is one transaction, or none. -/
theorem StoreCall.run_transacts : (c.run lib files).2 = files ∨
    ∃ body : Credentials → Except Exc (StoreAnswer × Option Credentials),
      (c.run lib files).2 = (files.transact c.fault body).2 := by
  unfold run
  split
  · split
    · exact Or.inl rfl
    · exact Or.inr ⟨_, rfl⟩
  · split
    · exact Or.inl rfl
    · split
      · exact Or.inl rfl
      · exact Or.inr ⟨_, rfl⟩
    · exact Or.inl rfl
  · exact Or.inr ⟨_, rfl⟩
  · split
    · exact Or.inl rfl
    · exact Or.inr ⟨_, rfl⟩

theorem Credentials.Valid.run (h : files.records.Valid) : (c.run lib files).2.records.Valid := by
  obtain hsame | ⟨body, hrun⟩ : (c.run lib files).2 = files ∨ _ := c.run_transacts
  · rwa [hsame]
  · rw [hrun]
    rcases files.transact_records body with hsame | ⟨a, credentials', -, hvalid, hset⟩
    · rwa [hsame]
    · intro key r hr
      rw [hset] at hr
      exact validateCredentials_iff.mp hvalid key r hr

theorem StoreCall.Changes.single (h : c.Changes lib records records') (hs : records.Single) : records'.Single := by
  intro key key' r r' hr hr' hlive hlive' hsession hscope
  cases h with
  | @issued record made set =>
    -- the rotation has revoked every other one of the new record's Session and scope
    have hrotated : ∀ {key r}, key ≠ record.id → records'.get? key = some r → r.revokedAt = none →
        records.get? key = some r ∧ ¬(r.sessionId = record.sessionId ∧ r.scope = record.scope) := by
      intro key r hkey hr hlive
      rw [set, if_neg hkey] at hr
      obtain ⟨r₀, hr₀, rfl⟩ := Option.map_eq_some_iff.mp hr
      split at hlive
      · have hsome := CredentialRecord.isSome_revoke (r := r₀) (t := record.createdAt)
        rw [hlive] at hsome
        cases hsome
      · rename_i hother
        rw [if_neg hother]
        exact ⟨hr₀, hother⟩
    have hnew : ∀ {r}, records'.get? record.id = some r → r = record := by
      intro r hr
      rw [set, if_pos rfl] at hr
      exact (Option.some.inj hr).symm
    by_cases hkey : key = record.id
    · by_cases hkey' : key' = record.id
      · exact hkey.trans hkey'.symm
      · obtain rfl := hnew (hkey ▸ hr)
        exact absurd ⟨hsession.symm, hscope.symm⟩ (hrotated hkey' hr' hlive').2
    · by_cases hkey' : key' = record.id
      · obtain rfl := hnew (hkey' ▸ hr')
        exact absurd ⟨hsession, hscope⟩ (hrotated hkey hr hlive).2
      · exact hs key key' r r' (hrotated hkey hr hlive).1 (hrotated hkey' hr' hlive').1 hlive hlive' hsession hscope
  | kept f keeps set =>
    rw [set] at hr hr'
    obtain ⟨r₀, hr₀, rfl⟩ := Option.map_eq_some_iff.mp hr
    obtain ⟨r₀', hr₀', rfl⟩ := Option.map_eq_some_iff.mp hr'
    have hkeeps := keeps key r₀ hr₀
    have hkeeps' := keeps key' r₀' hr₀'
    refine hs key key' r₀ r₀' hr₀ hr₀' (hkeeps.unrevoked hlive) (hkeeps'.unrevoked hlive') ?_ ?_
    · exact hkeeps.sessionId.symm.trans (hsession.trans hkeeps'.sessionId)
    · exact hkeeps.scope.symm.trans (hscope.trans hkeeps'.scope)

/-- Where a stored record comes from: an earlier one, or the call. -/
theorem StoreCall.Changes.origin (h : c.Changes lib records records') (hr : records'.get? key = some r) :
    (∃ r₀, records.get? key = some r₀ ∧ r₀.Keeps r) ∨
      ∃ secret, c.method.draws? = some (key, secret) ∧ r.secretSha256 = lib.sha256 secret ∧
        c.method.issuesFor? = some (r.sessionId, r.scope) ∧ r.revokedAt = none := by
  cases h with
  | @issued record made set =>
    rw [set] at hr
    split at hr
    · rename_i hkey
      obtain rfl := Option.some.inj hr
      obtain ⟨hlive, secret, hdraws, hdigest, hfor⟩ := StoreMethod.record?_spec made
      exact Or.inr ⟨secret, hkey ▸ hdraws, hdigest, hfor, hlive⟩
    · obtain ⟨r₀, hr₀, rfl⟩ := Option.map_eq_some_iff.mp hr
      refine Or.inl ⟨r₀, hr₀, ?_⟩
      split
      · exact CredentialRecord.keeps_revoke
      · exact .refl r₀
  | kept f keeps set =>
    rw [set] at hr
    obtain ⟨r₀, hr₀, rfl⟩ := Option.map_eq_some_iff.mp hr
    exact Or.inl ⟨r₀, hr₀, keeps key r₀ hr₀⟩

theorem Credentials.Issued.step (h : records.Issued lib calls) (hchanges : c.Changes lib records records') :
    records'.Issued lib (calls ++ [c]) := by
  intro key r hr
  rcases hchanges.origin hr with ⟨r₀, hr₀, hkeeps⟩ | ⟨secret, hdraws, hdigest, hfor, -⟩
  · obtain ⟨c₀, hc₀, secret, hdraws, hdigest, hfor⟩ := h key r₀ hr₀
    refine ⟨c₀, List.mem_append_left _ hc₀, secret, hdraws, hkeeps.secretSha256.trans hdigest, ?_⟩
    rw [hkeeps.sessionId, hkeeps.scope]
    exact hfor
  · exact ⟨c, List.mem_append_right _ (List.mem_singleton_self c), secret, hdraws, hdigest, hfor⟩

variable (lib calls) in
/-- The invariants of every run. -/
theorem runStore_sound : (runStore lib calls).records.Valid ∧ (runStore lib calls).records.Single ∧
    (runStore lib calls).records.Issued lib calls := by
  induction calls using List.reverseRecOn with
  | nil =>
    refine ⟨fun _ _ h => ?_, fun _ _ _ _ h => ?_, fun _ _ h => ?_⟩ <;> cases h
  | append_singleton calls c ih =>
    obtain ⟨hvalid, hsingle, hissued⟩ := ih
    have hchanges := c.run_changes lib (runStore lib calls)
    rw [runStore_concat]
    exact ⟨hvalid.run, hchanges.single hsingle, hissued.step hchanges⟩

/-! ### Draws -/

theorem drawn_append : drawn (before ++ between) = drawn before ++ drawn between := List.filterMap_append

theorem mem_drawn (hc : c ∈ calls) (hdraws : c.method.draws? = some (key, secret)) : (key, secret) ∈ drawn calls :=
  List.mem_filterMap.mpr ⟨c, hc, hdraws⟩

theorem Draws.earlier (h : Draws lib (before ++ between)) : Draws lib before where
  ids := by
    have hids := h.ids
    rw [drawn_append, List.map_append] at hids
    exact hids.of_append_left
  digests := by
    have hdigests := h.digests
    rw [drawn_append, List.map_append, ← List.cons_append, List.map_append] at hdigests
    exact hdigests.of_append_left

/-- A secret tells the identifier it was drawn with. -/
theorem Draws.key_eq (h : Draws lib calls) {key' : Uuid} {secret' : String} (hmem : (key, secret) ∈ drawn calls)
    (hmem' : (key', secret') ∈ drawn calls) (hdigest : lib.sha256 secret = lib.sha256 secret') : key = key' := by
  have hnodup := (List.nodup_cons.mp h.digests).2
  rw [List.map_map] at hnodup
  exact congrArg Prod.fst (List.inj_on_of_nodup_map hnodup hmem hmem' hdigest)

theorem Draws.ne_empty (h : Draws lib calls) (hmem : (key, secret) ∈ drawn calls) : lib.sha256 secret ≠ lib.sha256 "" := by
  intro heq
  exact (List.nodup_cons.mp h.digests).1 (heq ▸ List.mem_map_of_mem (List.mem_map_of_mem (f := Prod.snd) hmem))

/-- A call draws an identifier that no stored record has. -/
theorem Draws.fresh (h : Draws lib (calls ++ [c])) (hdraws : c.method.draws? = some (key, secret)) :
    (runStore lib calls).records.get? key = none := by
  cases hget : (runStore lib calls).records.get? key with
  | none => rfl
  | some r =>
    obtain ⟨c₀, hc₀, secret₀, hdraws₀, -⟩ := (runStore_sound lib calls).2.2 key r hget
    have hids := h.ids
    rw [drawn_append, List.map_append] at hids
    have hmem : key ∈ (drawn calls).map Prod.fst := List.mem_map_of_mem (f := Prod.fst) (mem_drawn hc₀ hdraws₀)
    have hmem' : key ∈ (drawn [c]).map Prod.fst :=
      List.mem_map_of_mem (f := Prod.fst) (mem_drawn (List.mem_singleton_self c) hdraws)
    exact absurd rfl ((List.nodup_append.mp hids).2.2 key hmem key hmem')

/-- A revoked credential stays revoked, with the time of its revocation. -/
theorem runStore_revoked (h : Draws lib (before ++ between)) {t : Timestamp}
    (hr : (runStore lib before).records.get? key = some r) (hrevoked : r.revokedAt = some t) :
    ∃ r', (runStore lib (before ++ between)).records.get? key = some r' ∧ r'.revokedAt = some t ∧
      r'.secretSha256 = r.secretSha256 := by
  induction between using List.reverseRecOn with
  | nil =>
    rw [List.append_nil]
    exact ⟨r, hr, hrevoked, rfl⟩
  | append_singleton between c ih =>
    rw [← List.append_assoc] at h ⊢
    obtain ⟨r', hr', hrevoked', hdigest⟩ := ih h.earlier
    rw [runStore_concat]
    cases c.run_changes lib (runStore lib (before ++ between)) with
    | @issued record made set =>
      have hkey : key ≠ record.id := by
        rintro rfl
        obtain ⟨-, secret, hdraws, -⟩ := StoreMethod.record?_spec made
        rw [h.fresh hdraws] at hr'
        cases hr'
      rw [set, if_neg hkey, hr', Option.map_some]
      split
      · exact ⟨_, rfl, CredentialRecord.keeps_revoke.revoked t hrevoked', hdigest⟩
      · exact ⟨_, rfl, hrevoked', hdigest⟩
    | kept f keeps set =>
      have hkeeps := keeps key r' hr'
      rw [set, hr', Option.map_some]
      exact ⟨_, rfl, hkeeps.revoked t hrevoked', hkeeps.secretSha256.trans hdigest⟩

/-! ### Verification -/

theorem CredentialFiles.transact_ok {α : Type} {fault : Option IoFault}
    {body : Credentials → Except Exc (α × Option Credentials)} {a : α} (h : (files.transact fault body).1 = .ok a) :
    ∃ o, body files.records = .ok (a, o) ∧ (o.isSome → fault = none) := by
  unfold transact at h
  split at h
  · cases h
  · cases h
  · cases h
  · rename_i credentials _ _ hload
    obtain rfl := load_ok hload
    dsimp only at h
    split at h
    · cases h
    · rename_i a' hbody
      obtain rfl := Except.ok.inj h
      exact ⟨none, hbody, fun hsome => by cases hsome⟩
    · rename_i a' credentials' hbody
      obtain ⟨_, hsaved, rfl⟩ := map_eq_ok.mp h
      refine ⟨some credentials', hbody, fun _ => ?_⟩
      unfold persist at hsaved
      dsimp only at hsaved
      split at hsaved
      · cases hsaved
      · rfl
      · cases hsaved
      · cases hsaved
      · cases hsaved

theorem CredentialFiles.load_eq (hvalid : files.records.Valid) (hr : files.records.get? key = some r) :
    files.load = .ok files.records := by
  unfold load
  cases hfile : files.file with
  | none =>
    rw [records, hfile] at hr
    cases hr
  | some credentials =>
    have hrecords : files.records = credentials := by rw [records, hfile]; rfl
    rw [hrecords] at hvalid ⊢
    dsimp only
    rw [validateCredentials_iff.mpr hvalid]
    rfl

theorem CredentialFiles.persist_eq (files : CredentialFiles) (hvalid : records.Valid) :
    (files.persist records none).1 = .ok () := by
  unfold persist
  rw [validateCredentials_iff.mpr hvalid]

/-- A transaction that persists valid records gives its answer. -/
theorem CredentialFiles.transact_eq {α : Type} {body : Credentials → Except Exc (α × Option Credentials)} {a : α}
    (hload : files.load = .ok files.records) (hbody : body files.records = .ok (a, some records)) (hvalid : records.Valid) :
    (files.transact none body).1 = .ok a := by
  unfold transact
  rw [hload]
  dsimp only
  rw [hbody]
  dsimp only
  rw [persist_eq _ hvalid]
  rfl

theorem runtimeTimestamp_eq_ok {value : PyFloat} {field : String} {t : Timestamp} :
    Credential.runtimeTimestamp value field = .ok t ↔ value = .finite t := by
  unfold Credential.runtimeTimestamp
  split
  · exact requireTimestamp_eq_ok
  · rename_i hfinite
    constructor
    · intro h
      cases h
    · rintro rfl
      exact absurd rfl hfinite

/-- `verify` finds the only record that it should. -/
theorem verify_iff (hdraws : Draws lib calls) {username protocol scope : String} {now : PyFloat} {p : PublicRecord}
    (hmethod : c.method = .verify username secret protocol now scope) :
    (c.run lib (runStore lib calls)).1 = .ok (.verified (some p)) ↔
      c.fault = none ∧ ∃ (t : Timestamp) (s : CredentialScope) (q : Protocol) (key : Uuid) (r : CredentialRecord),
        now = .finite t ∧ scopeOf scope = some s ∧ protocolOf (lib.lower protocol) = some q ∧
        (runStore lib calls).records.get? key = some r ∧ r.Accepts username (lib.sha256 secret) q s t ∧
        p = { r.toPublicRecord with lastAuthenticatedAt := some t } := by
  obtain ⟨hvalid, hsingle, hissued⟩ := runStore_sound lib calls
  unfold StoreCall.run
  rw [hmethod]
  dsimp only
  constructor
  · intro h
    split at h
    · cases h
    · rename_i t q s hnow hprotocol hscope
      split at h
      · cases Except.ok.inj h
      · obtain ⟨o, hbody, hfault⟩ := CredentialFiles.transact_ok h
        obtain ⟨⟨p', o'⟩, hverify, heq⟩ := map_eq_ok.mp hbody
        obtain ⟨hp, rfl⟩ := Prod.mk.inj heq
        obtain rfl : p' = some p := StoreAnswer.verified.inj hp
        unfold verifyBody at hverify
        split at hverify
        · cases (Prod.mk.inj (Except.ok.inj hverify)).1
        · rename_i key r hfind
          obtain ⟨hp, rfl⟩ := Prod.mk.inj (Except.ok.inj hverify)
          have haccepts : r.Accepts username (lib.sha256 secret) q s t := by simpa using List.find?_some hfind
          refine ⟨hfault rfl, t, s, q, key, r, ?_, hscope, hprotocol,
            Dict.get?_eq_some.mpr (List.mem_of_find?_eq_some hfind), haccepts, (Option.some.inj hp).symm⟩
          exact runtimeTimestamp_eq_ok.mp hnow
    · cases Except.ok.inj h
  · rintro ⟨hfault, t, s, q, key, r, rfl, hscope, hprotocol, hr, haccepts, rfl⟩
    have hid := validateRecord_ok (hvalid key r hr)
    have hname : username ≠ "" := haccepts.1 ▸ hid.2.2
    have hsecret : secret ≠ "" := by
      rintro rfl
      obtain ⟨c₀, hc₀, secret₀, hdraws₀, hdigest, -⟩ := hissued key r hr
      exact hdraws.ne_empty (mem_drawn hc₀ hdraws₀) (hdigest.symm.trans haccepts.2.2.2.2.2)
    -- the record that the loop finds is the only one it may find
    have hfind : (runStore lib calls).records.items.find? (fun i => i.2.Accepts username (lib.sha256 secret) q s t) =
        some (key, r) := by
      cases hfound : (runStore lib calls).records.items.find? (fun i => i.2.Accepts username (lib.sha256 secret) q s t) with
      | none =>
        have hno := List.find?_eq_none.mp hfound (key, r) (Dict.get?_eq_some.mp hr)
        exact absurd (decide_eq_true haccepts) hno
      | some i =>
        obtain ⟨key', r'⟩ := i
        have hr' := Dict.get?_eq_some.mpr (List.mem_of_find?_eq_some hfound)
        have haccepts' : r'.Accepts username (lib.sha256 secret) q s t := by simpa using List.find?_some hfound
        have hid' := validateRecord_ok (hvalid key' r' hr')
        have hkey := hsingle key' key r' r hr' hr haccepts'.2.2.1 haccepts.2.2.1
          (hid'.2.1.symm.trans (haccepts'.1.trans (haccepts.1.symm.trans hid.2.1))) (haccepts'.2.1.trans haccepts.2.1.symm)
        subst hkey
        rw [Option.some.inj (hr'.symm.trans hr)]
    rw [runtimeTimestamp_eq_ok.mpr rfl, hprotocol, hscope]
    dsimp only
    rw [if_neg (not_or.mpr ⟨hname, hsecret⟩), hfault]
    have hset : Credentials.Valid ((runStore lib calls).records.set key { r with lastAuthenticatedAt := some t }) := by
      intro key' r' hr'
      rw [get?_setRecord] at hr'
      split at hr'
      · rename_i hkey
        rw [← Option.some.inj hr', hkey]
        exact (validateRecord_congr rfl).trans (hvalid key r hr)
      · exact hvalid key' r' hr'
    refine CredentialFiles.transact_eq (CredentialFiles.load_eq hvalid hr) ?_ hset
    rw [verifyBody, hfind]
    rfl

/-! ### Replacement -/

/-- The call stores the credential that it issues. -/
def StoreCall.Stores (lib : Stdlib) (c : StoreCall) (files : CredentialFiles) : Prop :=
  ∃ key secret, c.method.draws? = some (key, secret) ∧ ((c.run lib files).2.records.get? key).isSome

theorem CredentialRecord.Keeps.trans {r' r'' : CredentialRecord} (h : r.Keeps r') (h' : r'.Keeps r'') : r.Keeps r'' :=
  ⟨h'.terms.trans h.terms, fun t ht => h'.revoked t (h.revoked t ht)⟩

theorem eq_of_nodup_filterMap {α β : Type} {f : α → Option β} {l : List α} {a b : α} {x : β} (h : (l.filterMap f).Nodup)
    (ha : a ∈ l) (hb : b ∈ l) (hfa : f a = some x) (hfb : f b = some x) : a = b := by
  induction l with
  | nil => cases ha
  | cons y l ih =>
    have hrest : ∀ {z}, z ∈ l → f z = some x → f y ≠ some x := by
      intro z hz hfz hfy
      rw [List.filterMap_cons_some hfy] at h
      exact (List.nodup_cons.mp h).1 (List.mem_filterMap.mpr ⟨z, hz, hfz⟩)
    rcases List.mem_cons.mp ha with hay | hal
    · rcases List.mem_cons.mp hb with hby | hbl
      · exact hay.trans hby.symm
      · exact absurd (hay ▸ hfa) (hrest hbl hfb)
    · rcases List.mem_cons.mp hb with hby | hbl
      · exact absurd (hby ▸ hfb) (hrest hal hfa)
      · exact ih (h.sublist ((List.sublist_cons_self y l).filterMap f)) hal hbl

/-- The calls that draw an identifier are one. -/
theorem Draws.call_eq (h : Draws lib calls) {c' : StoreCall} {secret' : String} (hc : c ∈ calls) (hc' : c' ∈ calls)
    (hdraws : c.method.draws? = some (key, secret)) (hdraws' : c'.method.draws? = some (key, secret')) : c = c' := by
  have hids := h.ids
  rw [drawn, List.map_filterMap] at hids
  exact eq_of_nodup_filterMap hids hc hc' (by rw [hdraws]; rfl) (by rw [hdraws']; rfl)

theorem Draws.ids_ne (h : Draws lib (before ++ between)) {key' : Uuid} {secret' : String}
    (hmem : (key, secret) ∈ drawn before) (hmem' : (key', secret') ∈ drawn between) : key ≠ key' := by
  have hids := h.ids
  rw [drawn_append, List.map_append] at hids
  exact (List.nodup_append.mp hids).2.2 key (List.mem_map_of_mem (f := Prod.fst) hmem) key'
    (List.mem_map_of_mem (f := Prod.fst) hmem')

/-- A record whose identifier was drawn by some time was there by that time. -/
theorem runStore_earlier (h : Draws lib (before ++ between)) (hmem : (key, secret) ∈ drawn before)
    (hr : (runStore lib (before ++ between)).records.get? key = some r) :
    ∃ r₀, (runStore lib before).records.get? key = some r₀ ∧ r₀.Keeps r := by
  induction between using List.reverseRecOn generalizing r with
  | nil =>
    rw [List.append_nil] at hr
    exact ⟨r, hr, .refl r⟩
  | append_singleton between c ih =>
    rw [← List.append_assoc] at h hr
    rw [runStore_concat] at hr
    rcases (c.run_changes lib (runStore lib (before ++ between))).origin hr with ⟨r', hr', hkeeps⟩ | ⟨secret', hdraws, -⟩
    · obtain ⟨r₀, hr₀, hkeeps₀⟩ := ih h.earlier hr'
      exact ⟨r₀, hr₀, hkeeps₀.trans hkeeps⟩
    · have hold : (key, secret) ∈ drawn (before ++ between) := by
        rw [drawn_append]
        exact List.mem_append_left _ hmem
      exact absurd rfl (h.ids_ne hold (mem_drawn (List.mem_singleton_self c) hdraws))

/-- Once a later `issue` for the same Session and scope is stored, the earlier one's record is revoked. -/
theorem replaced_revoked {c₁ c₂ : StoreCall} (h : Draws lib (calls ++ [c₂])) (hc₁ : c₁ ∈ calls)
    (hsame : c₁.method.issuesFor? = c₂.method.issuesFor?) (hstores : c₂.Stores lib (runStore lib calls))
    (hdraws : c₁.method.draws? = some (key, secret))
    (hr : (runStore lib (calls ++ [c₂])).records.get? key = some r) : ∃ t, r.revokedAt = some t := by
  obtain ⟨key₂, secret₂, hdraws₂, hsome⟩ := hstores
  obtain ⟨r₂, hr₂⟩ := Option.isSome_iff_exists.mp hsome
  cases hrevoked : r.revokedAt with
  | some t => exact ⟨t, rfl⟩
  | none =>
    obtain ⟨-, hsingle, hissued⟩ := runStore_sound lib (calls ++ [c₂])
    -- the later credential has just been stored, and is not revoked
    rcases (c₂.run_changes lib (runStore lib calls)).origin hr₂ with ⟨r₀, hr₀, -⟩ | ⟨_, -, -, hfor₂, hlive₂⟩
    · rw [h.fresh hdraws₂] at hr₀
      cases hr₀
    · obtain ⟨c₀, hc₀, secret₀, hdraws₀, -, hfor⟩ := hissued key r hr
      obtain rfl := h.call_eq hc₀ (List.mem_append_left _ hc₁) hdraws₀ hdraws
      rw [← runStore_concat] at hr₂
      have hfors := Prod.mk.inj (Option.some.inj (hfor.symm.trans (hsame.trans hfor₂)))
      have hkey := hsingle key key₂ r r₂ hr hr₂ hrevoked hlive₂ hfors.1 hfors.2
      exact absurd hkey (h.ids_ne (mem_drawn hc₁ hdraws) (mem_drawn (List.mem_singleton_self c₂) hdraws₂))

/-- **The ingest credential store.** In every run at most one credential of a Session and a scope is not revoked, and a
    revoked one stays so. `verify` lets in with a record exactly if the record is stored, is not revoked, has not
    expired, and has the user name, the scope, the protocol and the digest of the secret. A secret that a later `issue`
    for the same Session and scope has replaced is never let in again. -/
theorem credential_store (lib : Stdlib) (calls : List StoreCall) (hdraws : Draws lib calls) :
    (runStore lib calls).records.Single ∧
    (∀ before between, calls = before ++ between → ∀ key r t, (runStore lib before).records.get? key = some r →
      r.revokedAt = some t → ∃ r', (runStore lib calls).records.get? key = some r' ∧ r'.revokedAt = some t) ∧
    (∀ (c : StoreCall) (username secret protocol : String) (now : PyFloat) (scope : String) (p : PublicRecord),
      c.method = .verify username secret protocol now scope →
      ((c.run lib (runStore lib calls)).1 = .ok (.verified (some p)) ↔
        c.fault = none ∧ ∃ (t : Timestamp) (s : CredentialScope) (q : Protocol) (key : Uuid) (r : CredentialRecord),
          now = .finite t ∧ scopeOf scope = some s ∧ protocolOf (lib.lower protocol) = some q ∧
          (runStore lib calls).records.get? key = some r ∧ r.Accepts username (lib.sha256 secret) q s t ∧
          p = { r.toPublicRecord with lastAuthenticatedAt := some t })) ∧
    ∀ before c₂ after, calls = before ++ c₂ :: after → c₂.Stores lib (runStore lib before) → ∀ c₁ ∈ before,
      c₁.method.issuesFor? = c₂.method.issuesFor? → ∀ key secret, c₁.method.draws? = some (key, secret) →
        ∀ (c : StoreCall) (username protocol : String) (now : PyFloat) (scope : String) (p : PublicRecord),
          c.method = .verify username secret protocol now scope →
          (c.run lib (runStore lib calls)).1 ≠ .ok (.verified (some p)) := by
  refine ⟨(runStore_sound lib calls).2.1, ?_, fun c username secret protocol now scope p hmethod =>
    verify_iff hdraws hmethod, ?_⟩
  · rintro before between rfl key r t hr hrevoked
    obtain ⟨r', hr', hrevoked', -⟩ := runStore_revoked hdraws hr hrevoked
    exact ⟨r', hr', hrevoked'⟩
  · rintro before c₂ after rfl hstores c₁ hc₁ hsame key secret hdraws₁ c username protocol now scope p hmethod hrun
    obtain ⟨-, t, s, q, key', r, -, -, -, hr, haccepts, -⟩ := (verify_iff hdraws hmethod).mp hrun
    -- only the replaced credential has the digest of the secret
    obtain ⟨c₀, hc₀, secret₀, hdraws₀, hdigest, -⟩ := (runStore_sound lib (before ++ c₂ :: after)).2.2 key' r hr
    have hkey : key' = key := hdraws.key_eq (mem_drawn hc₀ hdraws₀) (mem_drawn (List.mem_append_left _ hc₁) hdraws₁)
      (hdigest.symm.trans haccepts.2.2.2.2.2)
    subst hkey
    have hsplit : before ++ c₂ :: after = (before ++ [c₂]) ++ after := by rw [List.append_assoc, List.singleton_append]
    rw [hsplit] at hdraws hr
    have hmem : (key', secret) ∈ drawn (before ++ [c₂]) := mem_drawn (List.mem_append_left _ hc₁) hdraws₁
    obtain ⟨r₀, hr₀, hkeeps⟩ := runStore_earlier hdraws hmem hr
    obtain ⟨t', hrevoked⟩ := replaced_revoked hdraws.earlier hc₁ hsame hstores hdraws₁ hr₀
    have hlive := haccepts.2.2.1
    rw [hkeeps.revoked t' hrevoked] at hlive
    cases hlive

end

/-! ### Sample -/

namespace StoreSample

/-- The SHA-256 digests of the secrets below and of the empty text. -/
def digests : List (String × BitVec 256) :=
  [ ("", 0xe3b0c44298fc1c149afbf4c8996fb92427ae41e4649b934ca495991b7852b855),
    ("secret", 0x2bb80d537b1da3e38bd30361aa855686bde0eacd7162fef6a25fe97bf527a25b),
    ("victim", 0x1bdd5b5b92e2d9f30a3b223bb359551d0da20e3702923e5f7b0a73889eba3d21) ]

def lib : Stdlib :=
  { sha256 := fun text => ⟨(digests.lookup text).getD 0⟩
    ipAddress := some
    uuid := fun _ => none
    lower := id }

def issue (credentialId : Uuid) (secret : String) : StoreCall :=
  ⟨.issue "s" "u" "INGEST" ["rtmp"] (.finite 60) (.finite 0) credentialId secret, none⟩

def verify (secret : String) : StoreCall := ⟨.verify "s" secret "rtmp" (.finite 1) "INGEST", none⟩

end StoreSample

open StoreSample in
/-- The second secret replaces the first one, which is not let in again. -/
theorem credential_store_sample :
    (runStore lib [issue ⟨0, 0⟩ "secret", issue ⟨0, 1⟩ "victim"]).records.Single ∧
      ¬∃ p, ((verify "secret").run lib (runStore lib [issue ⟨0, 0⟩ "secret", issue ⟨0, 1⟩ "victim"])).1 =
        .ok (.verified (some p)) := by
  have hdraws : Draws lib [issue ⟨0, 0⟩ "secret", issue ⟨0, 1⟩ "victim"] := ⟨by decide +kernel, by decide +kernel⟩
  have hstores : (issue ⟨0, 1⟩ "victim").Stores lib (runStore lib [issue ⟨0, 0⟩ "secret"]) :=
    ⟨⟨0, 1⟩, "victim", rfl, by decide +kernel⟩
  obtain ⟨hsingle, -, -, hreplaced⟩ := credential_store lib _ hdraws
  refine ⟨hsingle, ?_⟩
  rintro ⟨p, hp⟩
  exact hreplaced [issue ⟨0, 0⟩ "secret"] _ [] rfl hstores _ (List.mem_singleton_self _) rfl _ _ rfl _ _ _ _ _ p rfl hp

end IRLight.IngestAuth
