import IRLight.Destinations.SecretStore

/-! # A secret is what its user put last

In every run of the secret store a user's reference resolves to what this user put last under it, and to nothing after it was
deleted: whatever the other users do, and through faults in any call, processes that die and losses of power. -/

namespace IRLight.SecretStore
open Persistence

section
variable {lib : SecretLib} {secrets : Secrets} {key userId secretRef : String} {record : SecretRecord} {actions : List Action}

/-! ### Valid documents -/

/-- What the reader asks of the record under a key. -/
structure SecretRecord.Sound (lib : SecretLib) (key : String) (record : SecretRecord) : Prop where
  user : record.userId ≠ ""
  ref : record.secretRef ≠ ""
  ciphertext : record.ciphertext ≠ ""
  key : key = recordKey lib record.userId record.secretRef

theorem validateRecord_iff : validateRecord lib key record = .ok () ↔ record.Sound lib key := by
  unfold validateRecord
  constructor
  · intro h
    split at h
    · cases h
    · rename_i hempty
      split at h
      · cases h
      · rename_i hkey
        simp only [not_or] at hempty
        exact ⟨hempty.1, hempty.2.1, hempty.2.2, not_not.mp hkey⟩
  · intro h
    rw [if_neg, if_neg]
    · exact not_not.mpr h.key
    · simp only [not_or]
      exact ⟨h.user, h.ref, h.ciphertext⟩

theorem validate_iff : (document lib).validate secrets = .ok () ↔
    ∀ key record, secrets.get? key = some record → record.Sound lib key := by
  refine forM_ok.trans ⟨fun h key record hrecord => ?_, fun h i hi => ?_⟩
  · exact validateRecord_iff.mp (h (key, record) (Dict.get?_eq_some.mp hrecord))
  · exact validateRecord_iff.mpr (h i.1 i.2 (Dict.get?_eq_some.mpr hi))

/-! ### The calls -/

theorem Draft.sound (hlib : lib.Lawful) (d : Draft) (existing : Option SecretRecord) :
    (d.record lib existing).Sound lib (recordKey lib d.userId d.secretRef) :=
  ⟨d.user_ne, d.ref_ne, hlib.nonempty _ _, rfl⟩

/-- The cell of a key after a record was stored. -/
theorem cell_set {record : SecretRecord} (k : String) :
    (registers lib).cell ((secrets.set key record).sort fun i j => i.1 ≤ j.1) k =
      if k = key then some record.ciphertext else (registers lib).cell secrets k := by
  change (Dict.get? _ _).map _ = _
  rw [Dict.get?_sort]
  split
  · rename_i h
    rw [h, Dict.get?_set_self]
    rfl
  · rename_i h
    rw [Dict.get?_set_ne h]
    rfl

theorem cell_erase (k : String) : (registers lib).cell ((secrets.erase key).sort fun i j => i.1 ≤ j.1) k =
    if k = key then none else (registers lib).cell secrets k := by
  change (Dict.get? _ _).map _ = _
  rw [Dict.get?_sort]
  split
  · rename_i h
    rw [h, Dict.get?_erase_self]
    rfl
  · rename_i h
    rw [Dict.get?_erase_ne h]
    rfl

theorem resolve_none (h : secrets.get? (recordKey lib userId secretRef) = none) :
    body lib (.resolve userId secretRef) secrets = (.error (.notFound secretRef), none) := by
  simp only [body, h]

theorem resolve_some (h : secrets.get? (recordKey lib userId secretRef) = some record) :
    body lib (.resolve userId secretRef) secrets = ((decrypted lib record.ciphertext).map .value, none) := by
  simp only [body, h]

theorem registers_lawful (hlib : lib.Lawful) : (registers lib).Lawful where
  keeps := by
    intro q secrets b secrets' hvalid hbody
    have hrecords : ∀ key record, secrets.get? key = some record → record.Sound lib key := by
      rcases hvalid with hvalid | rfl
      · exact validate_iff.mp hvalid
      · intro key record hrecord
        cases hrecord
    cases q with
    | put d =>
      obtain ⟨rfl, h⟩ := Prod.mk.inj hbody
      obtain rfl := Option.some.inj h
      refine ⟨validate_iff.mpr fun key record hrecord => ?_, fun k => ?_⟩
      · rw [Dict.get?_sort] at hrecord
        by_cases hkey : key = recordKey lib d.userId d.secretRef
        · rw [hkey, Dict.get?_set_self] at hrecord
          obtain rfl := Option.some.inj hrecord
          exact hkey ▸ d.sound hlib _
        · rw [Dict.get?_set_ne hkey] at hrecord
          exact hrecords key record hrecord
      · rw [cell_set]
        change _ = (if k = _ then _ else _ : Option _).getD _
        split <;> rfl
    | delete userId secretRef =>
      change (if _ then _ else _) = _ at hbody
      split at hbody
      · obtain ⟨rfl, h⟩ := Prod.mk.inj hbody
        obtain rfl := Option.some.inj h
        refine ⟨validate_iff.mpr fun key record hrecord => ?_, fun k => ?_⟩
        · rw [Dict.get?_sort] at hrecord
          by_cases hkey : key = recordKey lib userId secretRef
          · rw [hkey, Dict.get?_erase_self] at hrecord
            cases hrecord
          · rw [Dict.get?_erase_ne hkey] at hrecord
            exact hrecords key record hrecord
        · rw [cell_erase]
          change _ = (if k = _ then _ else _ : Option _).getD _
          split <;> rfl
      · cases (Prod.mk.inj hbody).2
    | resolve userId secretRef =>
      cases hrecord : secrets.get? (recordKey lib userId secretRef) with
      | none => cases (Prod.mk.inj ((resolve_none hrecord).symm.trans hbody)).2
      | some record => cases (Prod.mk.inj ((resolve_some hrecord).symm.trans hbody)).2
    | load => cases (Prod.mk.inj hbody).2
    | configured userId secretRef => cases (Prod.mk.inj hbody).2
  honest := by
    intro q secrets b hbody
    cases q with
    | put d => cases (Prod.mk.inj hbody).2
    | delete userId secretRef =>
      change (if _ then _ else _) = _ at hbody
      split at hbody
      · cases (Prod.mk.inj hbody).2
      · cases (Prod.mk.inj hbody).1
        rfl
    | resolve userId secretRef =>
      cases hrecord : secrets.get? (recordKey lib userId secretRef) with
      | none => cases (Prod.mk.inj ((resolve_none hrecord).symm.trans hbody)).1
      | some record =>
        obtain ⟨hvalue, _⟩ := Prod.mk.inj ((resolve_some hrecord).symm.trans hbody)
        cases hdecrypted : decrypted lib record.ciphertext with
        | error e =>
          rw [hdecrypted] at hvalue
          cases hvalue
        | ok value =>
          rw [hdecrypted] at hvalue
          cases hvalue
          rfl
    | load =>
      cases (Prod.mk.inj hbody).1
      rfl
    | configured userId secretRef =>
      cases (Prod.mk.inj hbody).1
      rfl

/-! ### The register of a user's reference -/

/-- What a call sets the secret of a user's reference to. -/
def SecretCall.sets (userId secretRef : String) : SecretCall → Option (Option String)
  | .put d => if d.userId = userId ∧ d.secretRef = secretRef then some (some d.value) else none
  | .delete user ref => if user = userId ∧ ref = secretRef then some none else none
  | _ => none

/-- The user and the reference that a call writes to. -/
def SecretCall.pair? : SecretCall → Option (String × String)
  | .put d => some (d.userId, d.secretRef)
  | .delete userId secretRef => some (userId, secretRef)
  | _ => none

/-- A string without the separator. -/
def Plain (s : String) : Prop := '\x00' ∉ s.toList

theorem joined_inj {user ref userId secretRef : String} (hu : Plain user) (hu' : Plain userId)
    (h : joined user ref = joined userId secretRef) : user = userId ∧ ref = secretRef := by
  have h : user.toList ++ '\x00' :: ref.toList = userId.toList ++ '\x00' :: secretRef.toList := by
    have hlist := congrArg String.toList h
    simpa [joined] using hlist
  have htake : ∀ {l l' : List Char}, '\x00' ∉ l → (l ++ '\x00' :: l').takeWhile (· ≠ '\x00') = l := by
    intro l l' hl
    rw [List.takeWhile_append_of_pos]
    · simp
    · intro c hc
      have hne : c ≠ '\x00' := fun heq => hl (heq ▸ hc)
      simpa using hne
  have huser : user.toList = userId.toList := by
    have hsplit := congrArg (List.takeWhile (· ≠ '\x00')) h
    rwa [htake hu, htake hu'] at hsplit
  rw [huser] at h
  exact ⟨String.toList_inj.mp huser, String.toList_inj.mp (List.cons.inj (List.append_cancel_left h)).2⟩

/-- No other pair that was written has the digest of this one, and no user's identifier has the separator in it. -/
structure Distinct (lib : SecretLib) (calls : List (SecretCall × Bool)) (userId secretRef : String) : Prop where
  plain : Plain userId
  others : ∀ c ∈ calls, ∀ user ref, c.1.pair? = some (user, ref) → Plain user ∧
    (lib.sha256 (joined user ref) = lib.sha256 (joined userId secretRef) → joined user ref = joined userId secretRef)

/-- The secret in a ciphertext. -/
def plaintext (lib : SecretLib) (ciphertext : Option String) : Option String := ciphertext.bind fun c => (lib.decrypt c).join

/-- The register of the pair's key shows the secret of the pair. -/
theorem sets_plaintext (hlib : lib.Lawful) {calls : List (SecretCall × Bool)} (hdistinct : Distinct lib calls userId secretRef)
    (c : SecretCall × Bool) (hc : c ∈ calls) :
    c.1.sets userId secretRef = ((registers lib).sets c.1 (recordKey lib userId secretRef)).map (plaintext lib) := by
  have hpair : ∀ {user ref}, c.1.pair? = some (user, ref) →
      (recordKey lib userId secretRef = recordKey lib user ref ↔ user = userId ∧ ref = secretRef) := by
    intro user ref hpair
    obtain ⟨hplain, hkey⟩ := hdistinct.others c hc user ref hpair
    constructor
    · intro h
      exact joined_inj hplain hdistinct.plain (hkey h.symm)
    · rintro ⟨rfl, rfl⟩
      rfl
  rcases c with ⟨_ | d | _ | _ | ⟨user, ref⟩, _⟩
  · rfl
  · change (if _ then _ else _) = (if _ then _ else _ : Option _).map _
    rw [if_congr (hpair rfl) rfl rfl]
    split
    · change _ = some ((lib.decrypt (lib.encrypt d.iv d.value)).join)
      rw [hlib.decrypts]
      rfl
    · rfl
  · rfl
  · rfl
  · change (if _ then _ else _) = (if _ then _ else _ : Option _).map _
    rw [if_congr (hpair rfl) rfl rfl]
    split <;> rfl

/-- What a user's reference may resolve to after some calls. -/
def PossibleSecret (calls : List (SecretCall × Bool)) (userId secretRef : String) (secret : Option String) : Prop :=
  Possible none (SecretCall.sets userId secretRef) calls secret

/-- What a call finds under the key of a pair. -/
theorem possible_of_load (hlib : lib.Lawful) (hdistinct : Distinct lib (after lib actions).calls userId secretRef)
    (hload : (document lib).load (after lib actions).disk.file (after lib actions).disk.marker = .ok secrets) :
    PossibleSecret (after lib actions).calls userId secretRef
      (plaintext lib ((secrets.get? (recordKey lib userId secretRef)).map (·.ciphertext))) ∧
    ∀ record, secrets.get? (recordKey lib userId secretRef) = some record →
      ∃ value, lib.decrypt record.ciphertext = some (some value) := by
  have hpossible : (registers lib).Possible (after lib actions).calls (recordKey lib userId secretRef)
      ((secrets.get? (recordKey lib userId secretRef)).map (·.ciphertext)) :=
    ((Registers.after_sound (registers_lawful hlib) actions).possible hload).2 _
  refine ⟨Possible.map (f := plaintext lib) (sets_plaintext hlib hdistinct) hpossible, fun record hrecord => ?_⟩
  rw [hrecord] at hpossible
  rcases hpossible.source with h | ⟨⟨q, _⟩, _, hset⟩
  · cases h
  · cases q with
    | put d =>
      change (if _ then _ else _) = _ at hset
      split at hset
      · have hcipher : lib.encrypt d.iv d.value = record.ciphertext := Option.some.inj (Option.some.inj hset)
        exact ⟨d.value, by rw [← hcipher, hlib.decrypts]⟩
      · cases hset
    | delete user ref =>
      change (if _ then _ else _) = _ at hset
      split at hset
      · cases Option.some.inj hset
      · cases hset
    | load => cases hset
    | resolve user ref => cases hset
    | configured user ref => cases hset

/-- What a secret is answered as. -/
def answered (secretRef : String) : Option String → Except SecretError SecretAnswer
  | some value => .ok (.value value)
  | none => .error (.notFound secretRef)

/-- What the readers of a pair answer on a document. -/
theorem readers_cases (hlib : lib.Lawful) (hdistinct : Distinct lib (after lib actions).calls userId secretRef)
    (hload : (document lib).load (after lib actions).disk.file (after lib actions).disk.marker = .ok secrets) :
    ∃ secret, PossibleSecret (after lib actions).calls userId secretRef secret ∧
      (body lib (.resolve userId secretRef) secrets).1 = answered secretRef secret ∧
      (body lib (.configured userId secretRef) secrets).1 = .ok (.configured secret.isSome) := by
  obtain ⟨hpossible, hdecrypts⟩ := possible_of_load hlib hdistinct hload
  have hconfigured : (body lib (.configured userId secretRef) secrets).1 =
      .ok (.configured (secrets.get? (recordKey lib userId secretRef)).isSome) := rfl
  rw [hconfigured]
  cases hrecord : secrets.get? (recordKey lib userId secretRef) with
  | none =>
    rw [hrecord] at hpossible
    exact ⟨none, hpossible, congrArg Prod.fst (resolve_none hrecord), rfl⟩
  | some record =>
    obtain ⟨value, hvalue⟩ := hdecrypts record hrecord
    rw [hrecord] at hpossible
    have hplain : plaintext lib (some record.ciphertext) = some value := by
      change (lib.decrypt record.ciphertext).join = some value
      rw [hvalue]
      rfl
    have hdecrypted : decrypted lib record.ciphertext = .ok value := by
      unfold decrypted
      rw [hvalue]
    refine ⟨some value, hplain ▸ hpossible, ?_, rfl⟩
    rw [resolve_some hrecord, hdecrypted]
    rfl

variable (actions) in
/-- A call that fails before it reads a document raises a state error. -/
theorem call_cases (q : SecretCall) (fault : Option Fault) :
    (∃ secrets, (document lib).load (after lib actions).disk.file (after lib actions).disk.marker = .ok secrets ∧
      ((registers lib).call (after lib actions) q fault).1 = (body lib q secrets).1) ∨
    ∃ message, ((registers lib).call (after lib actions) q fault).1 = .error (.stateError message) := by
  rcases Document.call_answer (document lib) (after lib actions).disk fault (body lib q) with ⟨secrets, hload, h⟩ | h | h | ⟨e, hload, h⟩
  · exact .inl ⟨secrets, hload, h⟩
  · exact .inr ⟨_, h⟩
  · exact .inr ⟨_, h⟩
  · right
    have hstate : ∃ message, e = .stateError message := by
      rcases Document.load_error hload with rfl | rfl | ⟨secrets, hinvalid⟩
      · exact ⟨_, rfl⟩
      · exact ⟨_, rfl⟩
      · obtain ⟨i, _, hi⟩ := forM_error hinvalid
        unfold validateRecord at hi
        split at hi
        · exact ⟨_, (Except.error.inj hi).symm⟩
        · split at hi
          · exact ⟨_, (Except.error.inj hi).symm⟩
          · cases hi
    obtain ⟨message, rfl⟩ := hstate
    exact ⟨message, h⟩

/-- **A secret is what its user put last.** In every run, a `resolve` gives what the last call on this user's reference has put,
    or what was there before it if that call was not acknowledged, and it finds nothing only if that was deleted or never put. No
    call on another user's reference makes a difference. -/
theorem resolves_to_last_put (hlib : lib.Lawful) (hdistinct : Distinct lib (after lib actions).calls userId secretRef)
    (fault : Option Fault) :
    (∀ value, ((registers lib).call (after lib actions) (.resolve userId secretRef) fault).1 = .ok (.value value) →
      PossibleSecret (after lib actions).calls userId secretRef (some value)) ∧
    (((registers lib).call (after lib actions) (.resolve userId secretRef) fault).1 = .error (.notFound secretRef) →
      PossibleSecret (after lib actions).calls userId secretRef none) ∧
    ∀ b, ((registers lib).call (after lib actions) (.configured userId secretRef) fault).1 = .ok (.configured b) →
      ∃ secret, PossibleSecret (after lib actions).calls userId secretRef secret ∧ b = secret.isSome := by
  have hresolve : ∀ secret, ((registers lib).call (after lib actions) (.resolve userId secretRef) fault).1 = answered secretRef secret →
      PossibleSecret (after lib actions).calls userId secretRef secret := by
    intro secret hanswer
    rcases call_cases actions (.resolve userId secretRef) fault with ⟨secrets, hload, h⟩ | ⟨message, h⟩
    · obtain ⟨secret', hpossible, hbody, _⟩ := readers_cases hlib hdistinct hload
      rw [h, hbody] at hanswer
      have hsame : secret' = secret := by
        cases secret with
        | none =>
          cases secret' with
          | none => rfl
          | some value => cases hanswer
        | some value =>
          cases secret' with
          | none => cases hanswer
          | some value' => rw [SecretAnswer.value.inj (Except.ok.inj hanswer)]
      exact hsame ▸ hpossible
    · rw [h] at hanswer
      cases secret <;> cases hanswer
  refine ⟨fun value h => hresolve (some value) h, fun h => hresolve none h, fun b hanswer => ?_⟩
  rcases call_cases actions (.configured userId secretRef) fault with ⟨secrets, hload, h⟩ | ⟨message, h⟩
  · obtain ⟨secret, hpossible, _, hbody⟩ := readers_cases hlib hdistinct hload
    rw [h, hbody] at hanswer
    exact ⟨secret, hpossible, (SecretAnswer.configured.inj (Except.ok.inj hanswer)).symm⟩
  · rw [h] at hanswer
    cases hanswer

/-- **A secret stays.** Once a `put` or a `delete` of a user's reference is acknowledged, and until the next one on it, a `resolve`
    without a fault gives exactly the secret that was put, or finds nothing after the `delete`, in every run in which nobody else
    touches the file. -/
theorem acknowledged_secret_stays (hlib : lib.Lawful) (hdistinct : Distinct lib (after lib actions).calls userId secretRef)
    (hown : ∀ a ∈ actions, a.own) {q : SecretCall} {later earlier : List (SecretCall × Bool)} {secret : Option String}
    (hcalls : (after lib actions).calls = later ++ (q, true) :: earlier) (hset : q.sets userId secretRef = some secret)
    (hlater : ∀ c ∈ later, c.1.sets userId secretRef = none) :
    ((registers lib).call (after lib actions) (.resolve userId secretRef) none).1 = answered secretRef secret := by
  have hmem : (q, true) ∈ (after lib actions).calls := by
    rw [hcalls]
    exact List.mem_append_right _ List.mem_cons_self
  obtain ⟨secrets, hload⟩ := Registers.loads_of_acknowledged (registers_lawful hlib) hown hmem
  obtain ⟨secret', hpossible, hbody, _⟩ := readers_cases hlib hdistinct hload
  have hanswer : ((registers lib).call (after lib actions) (.resolve userId secretRef) none).1 =
      (body lib (.resolve userId secretRef) secrets).1 := Document.call_none hload
  rw [hanswer, hbody]
  unfold PossibleSecret at hpossible
  rw [hcalls] at hpossible
  rw [hpossible.last hset hlater]

end

/-! ### A put that is lost -/

instance (s : String) : Decidable (Plain s) := inferInstanceAs (Decidable (_ ∉ _))

namespace Sample

/-- A digest and a cipher that show what they hide. -/
def lib : SecretLib where
  sha256 s := s
  encrypt _ value := "." ++ value
  decrypt ciphertext :=
    match ciphertext.toList with
    | [] => none
    | _ :: l => some (some (String.ofList l))

theorem lib_lawful : lib.Lawful where
  decrypts _ value := by simp [lib]
  nonempty _ value := by
    intro h
    have hlist := congrArg String.toList h
    simp [lib] at hlist

def alice (value : String) (h : value ≠ "") (fault : Option Fault) : Action :=
  .call (.put ⟨"alice", "main", value, "iv", 1, by decide, by decide, h⟩) fault

def bob : SecretCall := .put ⟨"bob", "main", "third", "iv", 1, by decide, by decide, by decide⟩

/-- The second put of a user is not synced. The power fails, and another user puts a secret under the same reference. -/
def lostPut : List Action :=
  [alice "first" (by decide) none, alice "second" (by decide) (some (.writing .unsynced)), .loss 1 true, .call bob none]

/-- No user's identifier has the separator in it. -/
def plainUsers (calls : List (SecretCall × Bool)) : Bool := calls.all fun c => c.1.pair?.all fun p => '\x00' ∉ p.1.toList

theorem distinct {calls : List (SecretCall × Bool)} {userId secretRef : String} (hplain : Plain userId) (h : plainUsers calls) :
    Distinct lib calls userId secretRef := by
  refine ⟨hplain, fun c hc user ref hpair => ⟨?_, fun hkey => hkey⟩⟩
  have hc' := List.all_eq_true.mp h c hc
  rw [hpair] at hc'
  exact of_decide_eq_true hc'

end Sample

theorem resolves_to_last_put_lostPut :
    PossibleSecret (after Sample.lib Sample.lostPut).calls "alice" "main" (some "first") :=
  (resolves_to_last_put Sample.lib_lawful (Sample.distinct (by decide) (by decide +kernel)) none).1 "first" (by decide +kernel)

theorem acknowledged_secret_stays_lostPut :
    ((registers Sample.lib).call (after Sample.lib Sample.lostPut) (.resolve "bob" "main") none).1 = .ok (.value "third") :=
  @acknowledged_secret_stays Sample.lib "bob" "main" Sample.lostPut Sample.lib_lawful
    (Sample.distinct (by decide) (by decide +kernel)) (by decide) Sample.bob [] _ (some "third") rfl rfl (by decide)

end IRLight.SecretStore
