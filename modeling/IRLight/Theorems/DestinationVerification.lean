import IRLight.Destinations.Verification

/-! # Verification is about the current URL

A probe runs between two transactions, and anything may happen to the destination meanwhile. A result is only recorded
while the destination still has the URL that was probed, and its type never changes. -/

namespace IRLight.Destinations
open Interleaving

/-! ### Transactions -/

section
variable {lib : UrlLib} {files : CatalogFiles} {fault : Option CommitFault} {catalog : Catalog} {id : Uuid}

/-- What is loaded is what is stored. -/
theorem CatalogFiles.lookup_of_load (h : files.load lib = .ok catalog) (id : Uuid) :
    catalog.lookup id = files.file.bind fun c => c.lookup id := by
  unfold load at h
  cases hfile : files.file with
  | some c =>
    rw [hfile] at h
    simp only at h
    cases hvalid : validateCatalogAuthority lib c with
    | error e =>
      rw [hvalid] at h
      cases h
    | ok u =>
      rw [hvalid] at h
      rw [← Except.ok.inj h]
      rfl
  | none =>
    rw [hfile] at h
    simp only at h
    split at h
    · cases h
    · rw [← Except.ok.inj h]
      rfl

variable (lib fault) in
/-- A transaction keeps the file or replaces it by the catalog that its body gave. -/
theorem CatalogFiles.transact_file {α : Type} (files : CatalogFiles)
    (body : Catalog → Except CatalogExc (α × Option Catalog)) : (files.transact lib fault body).2.file = files.file ∨
      ∃ catalog a catalog', files.load lib = .ok catalog ∧ body catalog = .ok (a, some catalog') ∧
        (files.transact lib fault body).2.file = some catalog' := by
  unfold transact
  by_cases hfault : fault = some .refused
  · rw [if_pos hfault]
    exact .inl rfl
  rw [if_neg hfault]
  cases hrun : files.load lib >>= body with
  | error e => exact .inl rfl
  | ok result =>
    obtain ⟨catalog, hload, hbody⟩ := bind_eq_ok.mp hrun
    obtain ⟨a, _ | catalog'⟩ := result
    · exact .inl rfl
    · simp only [save]
      cases validateCatalogAuthority lib catalog' with
      | error e => exact .inl rfl
      | ok u =>
        rcases fault with _ | _ | _ | _
        · exact .inr ⟨catalog, a, catalog', hload, hbody, rfl⟩
        · exact .inl rfl
        · exact .inl rfl
        · exact .inr ⟨catalog, a, catalog', hload, hbody, rfl⟩

theorem CatalogFiles.transact_ok {α : Type} {body : Catalog → Except CatalogExc (α × Option Catalog)} {a : α}
    (h : (files.transact lib fault body).1 = .ok a) :
    ∃ catalog saved, files.load lib = .ok catalog ∧ body catalog = .ok (a, saved) := by
  unfold transact at h
  by_cases hfault : fault = some .refused
  · rw [if_pos hfault] at h
    cases h
  rw [if_neg hfault] at h
  cases hrun : files.load lib >>= body with
  | error e =>
    rw [hrun] at h
    cases h
  | ok result =>
    obtain ⟨catalog, hload, hbody⟩ := bind_eq_ok.mp hrun
    rw [hrun] at h
    obtain ⟨b, _ | catalog'⟩ := result
    · obtain rfl := Except.ok.inj h
      exact ⟨catalog, none, hload, hbody⟩
    · simp only at h
      cases hsaved : (files.save lib catalog' fault).1 with
      | error e =>
        rw [hsaved] at h
        cases h
      | ok u =>
        rw [hsaved] at h
        obtain rfl := Except.ok.inj h
        exact ⟨catalog, some catalog', hload, hbody⟩

theorem getOwned_eq_ok {userId : String} {d : Destination} (h : getOwned catalog id userId = .ok d) :
    catalog.lookup id = some d ∧ d.userId = userId := by
  unfold getOwned at h
  split at h
  · rename_i d' hd
    split at h
    · rename_i huser
      obtain rfl := Except.ok.inj h
      exact ⟨hd, huser⟩
    · cases h
  · cases h

end

/-- What a call may do to the destination under an identifier. -/
inductive Moves (fresh : Uuid) (o : CatalogOp) (id : Uuid) : Option Destination → Option Destination → Prop where
  | same (d : Option Destination) : Moves fresh o id d d
  | created {user type displayName serverUrl secretRef : String} {now : Timestamp} {d : Option Destination}
      (hid : id = fresh) : Moves fresh o id d (some (.created id user type displayName serverUrl secretRef now))
  | updated {user : String} {changes : DestinationUpdate} {now : Timestamp} {d : Destination}
      (ho : o = .update id user changes) : Moves fresh o id (some d) (some (d.updated changes now))
  | deleted (d : Option Destination) : Moves fresh o id d none
  | verified {user : String} {result : ProbeResult} {now : Timestamp} {d : Destination}
      (ho : o = .recordVerified id user d.serverUrl result) : Moves fresh o id (some d) (some (d.verified result now))
  | failed {user reason : String} {now : Timestamp} {d : Destination}
      (ho : o = .recordFailure id user d.serverUrl reason) : Moves fresh o id (some d) (some (d.failed reason now))

namespace CatalogWorld
variable {lib : UrlLib} {w : CatalogWorld} {x : CatalogInput} {fresh id : Uuid} {o : CatalogOp}

/-- A transaction moves a destination the way that each catalog it may load is changed. -/
theorem transact_moves {α : Type} {body : Catalog → Except CatalogExc (α × Option Catalog)}
    (h : ∀ catalog a catalog', body catalog = .ok (a, some catalog') →
      Moves fresh o id (catalog.lookup id) (catalog'.lookup id)) :
    Moves fresh o id (w.destination? id) ((w.transact lib x body).2.destination? id) := by
  rcases CatalogFiles.transact_file lib x.fault w.files body with hfile |
    ⟨catalog, a, catalog', hload, hbody, hfile⟩
  · have hsame : (w.transact lib x body).2.destination? id = w.destination? id := by
      change (w.files.transact lib x.fault body).2.file.bind _ = _
      rw [hfile]
      rfl
    rw [hsame]
    exact .same _
  · have hbefore : w.destination? id = catalog.lookup id := (CatalogFiles.lookup_of_load hload id).symm
    have hafter : (w.transact lib x body).2.destination? id = catalog'.lookup id := by
      change (w.files.transact lib x.fault body).2.file.bind _ = _
      rw [hfile]
      rfl
    rw [hbefore, hafter]
    exact h catalog a catalog' hbody

/-- A record that is written under one identifier. -/
theorem moves_insert {catalog : Catalog} {id' : Uuid} {d : Destination}
    (h : id = id' → Moves fresh o id (catalog.lookup id) (some d)) :
    Moves fresh o id (catalog.lookup id) ((catalog.insert id' d).lookup id) := by
  by_cases hid : id = id'
  · subst hid
    rw [AList.lookup_insert]
    exact h rfl
  · rw [AList.lookup_insert_ne hid]
    exact .same _

variable (lib) in
theorem exec_moves (i : ℕ) (o : CatalogOp) (x : CatalogInput) (w : CatalogWorld) (id : Uuid) :
    Moves ⟨i, w.serial⟩ o id (w.destination? id) (((exec lib).state i o x w).destination? id) := by
  cases o with
  | probe url => exact .same _
  | create user type displayName serverUrl secretRef =>
    refine transact_moves fun catalog a catalog' h => ?_
    obtain ⟨now, -, h⟩ := bind_eq_ok.mp h
    obtain ⟨-, h⟩ := Prod.mk.inj (pure_eq_ok.mp h)
    obtain rfl := Option.some.inj h
    exact moves_insert fun hid => hid ▸ .created rfl
  | get id' user =>
    refine transact_moves fun catalog a catalog' h => ?_
    obtain ⟨item, -, h⟩ := bind_eq_ok.mp h
    obtain ⟨-, h⟩ := Prod.mk.inj (pure_eq_ok.mp h)
    cases h
  | update id' user changes =>
    refine transact_moves fun catalog a catalog' h => ?_
    obtain ⟨item, hitem, h⟩ := bind_eq_ok.mp h
    obtain ⟨now, -, h⟩ := bind_eq_ok.mp h
    obtain ⟨-, h⟩ := Prod.mk.inj (pure_eq_ok.mp h)
    obtain rfl := Option.some.inj h
    refine moves_insert fun hid => ?_
    subst hid
    rw [(getOwned_eq_ok hitem).1]
    exact .updated rfl
  | delete id' user =>
    refine transact_moves fun catalog a catalog' h => ?_
    obtain ⟨item, -, h⟩ := bind_eq_ok.mp h
    obtain ⟨-, h⟩ := Prod.mk.inj (pure_eq_ok.mp h)
    obtain rfl := Option.some.inj h
    by_cases hid : id = id'
    · rw [hid, AList.lookup_erase]
      exact .deleted _
    · rw [AList.lookup_erase_ne hid]
      exact .same _
  | recordVerified id' user url result =>
    refine transact_moves fun catalog a catalog' h => ?_
    obtain ⟨item, hitem, h⟩ := bind_eq_ok.mp h
    split at h
    · cases h
    · rename_i hurl
      obtain rfl := not_not.mp hurl
      obtain ⟨now, -, h⟩ := bind_eq_ok.mp h
      obtain ⟨-, h⟩ := Prod.mk.inj (pure_eq_ok.mp h)
      obtain rfl := Option.some.inj h
      refine moves_insert fun hid => ?_
      subst hid
      rw [(getOwned_eq_ok hitem).1]
      exact .verified rfl
  | recordFailure id' user url reason =>
    refine transact_moves fun catalog a catalog' h => ?_
    obtain ⟨item, hitem, h⟩ := bind_eq_ok.mp h
    split at h
    · obtain ⟨-, h⟩ := Prod.mk.inj (pure_eq_ok.mp h)
      cases h
    · rename_i hurl
      obtain rfl := not_not.mp hurl
      obtain ⟨now, -, h⟩ := bind_eq_ok.mp h
      obtain ⟨-, h⟩ := Prod.mk.inj (pure_eq_ok.mp h)
      obtain rfl := Option.some.inj h
      refine moves_insert fun hid => ?_
      subst hid
      rw [(getOwned_eq_ok hitem).1]
      exact .failed rfl

theorem exec_serial (i : ℕ) (o : CatalogOp) (x : CatalogInput) (w : CatalogWorld) :
    ((exec lib).state i o x w).serial = w.serial + 1 := by
  cases o <;> rfl

/-- What is read is stored. -/
theorem destination?_of_get {i : ℕ} {user : String} {item : Destination}
    (h : (exec lib i (.get id user) x w).1 = .ok item) : w.destination? id = some item := by
  obtain ⟨catalog, saved, hload, hbody⟩ := CatalogFiles.transact_ok h
  obtain ⟨item', hitem, hbody⟩ := bind_eq_ok.mp hbody
  obtain ⟨rfl, -⟩ := Prod.mk.inj (pure_eq_ok.mp hbody)
  exact (CatalogFiles.lookup_of_load hload id).symm.trans (getOwned_eq_ok hitem).1

end CatalogWorld

/-! ### What a request found out -/

/-- A call that read the destination. -/
def Reads (id : Uuid) (item : Destination) (e : Event CatalogOp CatalogOp.Res CatalogExc CatalogInput) : Prop :=
  ∃ user x, e = ⟨.get id user, x, .ok item⟩

/-- A probe of the URL that returned the result. -/
def Probed (url : String) (result : ProbeResult) (e : Event CatalogOp CatalogOp.Res CatalogExc CatalogInput) : Prop :=
  ∃ x, e = ⟨.probe url, x, .ok result⟩

/-- The request read the destination, and it probed no other URL than the one it read. -/
structure Found (h : CatalogHistory) (id : Uuid) (item : Destination) : Prop where
  read : ∃ e ∈ h, Reads id item e
  probed : ∀ e ∈ h, ∀ url, e.op = .probe url → url = item.serverUrl

section
variable {lib : UrlLib}

/-- What a request must have found out before it records a result. -/
def Permits (lib : UrlLib) (h : CatalogHistory) : CatalogOp → Prop
  | .recordVerified id _ url result => ∃ item, Found h id item ∧ item.serverUrl = url ∧
      lib.lower result.protocol = lib.lower item.type ∧ ∃ e ∈ h, Probed url result e
  | .recordFailure id _ url _ => ∃ item, Found h id item ∧ item.serverUrl = url
  | _ => True

variable {id : Uuid} {item : Destination} {h : CatalogHistory}

variable (id item) in
theorem Found.get (user : String) (x : CatalogInput) : Found [⟨.get id user, x, .ok item⟩] id item where
  read := ⟨_, List.mem_singleton_self _, user, x, rfl⟩
  probed e he url hurl := by
    obtain rfl := List.mem_singleton.mp he
    cases hurl

theorem Found.probe (hfound : Found h id item) (x : CatalogInput) (r : Except CatalogExc ProbeResult) :
    Found (⟨.probe item.serverUrl, x, r⟩ :: h) id item where
  read := by
    obtain ⟨e, he, hreads⟩ := hfound.read
    exact ⟨e, List.mem_cons_of_mem _ he, hreads⟩
  probed e he url hurl := by
    rcases List.mem_cons.mp he with rfl | he
    · exact (CatalogOp.probe.inj hurl).symm
    · exact hfound.probed e he url hurl

/-- A result that the probe gave. -/
def Answered (id : Uuid) (item : Destination) (r : Except CatalogExc ProbeResult) (h : CatalogHistory) : Prop :=
  ∀ result, r = .ok result → Found h id item ∧ ∃ e ∈ h, Probed item.serverUrl result e

/-- A failure ends in an exception, so whatever is said of results holds. -/
theorem verificationFailed_abides {α : Type} {userId reason : String} {Q : Except CatalogExc α → CatalogHistory → Prop}
    (hfound : Found h id item) (hQ : ∀ e h', Q (.error e) h') :
    (verificationFailed id userId item.serverUrl reason : CatalogProg α).Abides (Permits lib) Q h :=
  .op_bind ⟨item, hfound, rfl⟩ (fun _ _ => .done (hQ _ _)) fun _ _ => hQ _ _

theorem probeFailed_abides {α : Type} {userId : String} {Q : Except CatalogExc α → CatalogHistory → Prop}
    (hfound : Found h id item) (hQ : ∀ e h', Q (.error e) h') (e : CatalogExc) :
    (probeFailed id userId item.serverUrl e : CatalogProg α).Abides (Permits lib) Q h := by
  unfold probeFailed
  split
  · exact verificationFailed_abides hfound hQ
  · exact verificationFailed_abides hfound hQ

theorem recordProbe_abides {userId : String} {result : ProbeResult} (hfound : Found h id item)
    (hprobed : ∃ e ∈ h, Probed item.serverUrl result e) :
    (recordProbe lib id userId item.serverUrl (lib.lower item.type) result).Abides (Permits lib) (fun _ _ => True) h := by
  unfold recordProbe
  split
  · exact verificationFailed_abides hfound fun _ _ => trivial
  · rename_i hprotocol
    exact .op ⟨item, hfound, rfl, not_not.mp hprotocol, hprobed⟩ fun _ _ => trivial

theorem verifyDestination_abides (id : Uuid) (userId : String) :
    (verifyDestination lib id userId).Abides (Permits lib) (fun _ _ => True) [] := by
  refine .op_bind trivial (fun x item => ?_) fun _ _ => trivial
  simp only
  have hfound := Found.get id item userId x
  split
  · exact .done trivial
  split
  · exact verificationFailed_abides hfound fun _ _ => trivial
  -- a result of the probe, or the exception of `probeFailed`
  refine Prog.Abides.bind (Q := Answered id item) ?_ (fun result h' _ hr => ?_) fun _ _ _ _ => trivial
  · refine Prog.Abides.tryExcept (Q := fun r h => Found h id item ∧ Answered id item r h) ?_ (fun _ _ _ hr => hr.2)
      fun e h' _ hr => ?_
    · refine .op trivial fun x r => ⟨hfound.probe x r, fun result hresult => ⟨hfound.probe x r, ?_⟩⟩
      exact ⟨_, List.mem_cons_self, x, by rw [hresult]⟩
    · exact probeFailed_abides hr.1 (fun _ _ result hresult => by cases hresult) e
  · obtain ⟨hfound, hprobed⟩ := hr result rfl
    exact recordProbe_abides hfound hprobed

/-- Every request that is not a verification makes one call, which needs no permission. -/
theorem single_abides {o : CatalogOp} {f : o.Res → CatalogResponse} (hpermits : ∀ h, Permits lib h o) :
    (f <$> o.call : CatalogProg CatalogResponse).Abides (Permits lib) (fun _ _ => True) h :=
  .op_bind (hpermits h) (fun _ _ => .done trivial) fun _ _ => trivial

theorem program_abides (q : CatalogRequest) : (q.program lib).Abides (Permits lib) (fun _ _ => True) [] := by
  cases q with
  | create user type displayName serverUrl secretRef =>
    exact .ofExcept_bind (fun _ _ => single_abides fun _ => trivial) fun _ _ => trivial
  | get id user => exact single_abides fun _ => trivial
  | update id user changes =>
    unfold CatalogRequest.program
    simp only
    split
    · exact .ofExcept_bind (fun _ _ => single_abides fun _ => trivial) fun _ _ => trivial
    · exact single_abides fun _ => trivial
  | delete id user => exact single_abides fun _ => trivial
  | verify id user =>
    exact (verifyDestination_abides id user).bind (fun _ _ _ _ => .done trivial) fun _ _ _ _ => trivial

end

/-! ### Every run -/

/-- What a verified destination shows was found out by a probe of its URL. -/
def VerifiedByProbe (lib : UrlLib) (c : CatalogRun) (d : Destination) : Prop :=
  ∃ result, d.verificationTransport = some result ∧ lib.lower result.protocol = lib.lower d.type ∧
    c.Saw (Probed d.serverUrl result)

structure CatalogRun.Sound (lib : UrlLib) (c : CatalogRun) : Prop where
  drawn : ∀ id d, c.state.destination? id = some d → id.serial < c.state.serial
  read : ∀ id item, c.Saw (Reads id item) → id.serial < c.state.serial ∧
    ∀ d, c.state.destination? id = some d → d.type = item.type
  verified : ∀ id d, c.state.destination? id = some d → d.verificationStatus = .verified → VerifiedByProbe lib c d

section
variable {lib : UrlLib} {c : CatalogRun}

/-- A new URL makes a destination unverified, and otherwise an edit keeps what was found out about it. -/
theorem updated_cases (d : Destination) (changes : DestinationUpdate) (now : Timestamp) :
    (d.updated changes now).type = d.type ∧ ((d.updated changes now).verificationStatus = .unverified ∨
      (d.updated changes now).verificationStatus = d.verificationStatus ∧
      (d.updated changes now).serverUrl = d.serverUrl ∧
      (d.updated changes now).verificationTransport = d.verificationTransport) := by
  obtain ⟨displayName, url, secretRef, enabled⟩ := changes
  cases url with
  | none => exact ⟨rfl, .inr ⟨rfl, rfl, rfl⟩⟩
  | some url =>
    by_cases hurl : url ≠ d.serverUrl
    · have hmoved : d.moved url = _ := if_pos hurl
      simp [Destination.updated, hmoved]
    · have hkept : d.moved url = d := if_neg hurl
      simp [Destination.updated, hkept]

/-- The type of a stored destination is the one it had. -/
theorem Moves.type {fresh id : Uuid} {o : CatalogOp} {d : Option Destination} {d' : Destination}
    (h : Moves fresh o id d (some d')) : id = fresh ∨ ∃ d₀, d = some d₀ ∧ d'.type = d₀.type := by
  cases h with
  | same => exact .inr ⟨d', rfl, rfl⟩
  | created hid => exact .inl hid
  | updated ho => exact .inr ⟨_, rfl, (updated_cases _ _ _).1⟩
  | verified ho => exact .inr ⟨_, rfl, rfl⟩
  | failed ho => exact .inr ⟨_, rfl, rfl⟩

/-- A later moment saw the same probes. -/
theorem VerifiedByProbe.mono {c' : CatalogRun} {d d' : Destination} (h : VerifiedByProbe lib c d)
    (htransport : d'.verificationTransport = d.verificationTransport) (htype : d'.type = d.type)
    (hurl : d'.serverUrl = d.serverUrl)
    (hsaw : ∀ result, c.Saw (Probed d.serverUrl result) → c'.Saw (Probed d.serverUrl result)) :
    VerifiedByProbe lib c' d' := by
  obtain ⟨result, hresult, hprotocol, hprobed⟩ := h
  exact ⟨result, htransport.trans hresult, htype ▸ hprotocol, hurl ▸ hsaw result hprobed⟩

namespace CatalogRun

theorem sound_init : Sound lib ⟨.initial, []⟩ where
  drawn id d hd := by cases hd
  read id item hsaw := absurd hsaw (Pool.not_saw_init _)
  verified id d hd := by cases hd

theorem Sound.start (h : c.Sound lib) (q : CatalogRequest) (p : CatalogProg CatalogResponse) :
    Sound lib ⟨c.state, c.tasks ++ [⟨q, p, []⟩]⟩ where
  drawn := h.drawn
  read id item hsaw := h.read id item (Pool.saw_start.mp hsaw)
  verified id d hd hverified := (h.verified id d hd hverified).mono rfl rfl rfl fun _ => Pool.saw_start.mpr

variable {i : ℕ} {q : CatalogRequest} {p p' : CatalogProg CatalogResponse} {h : CatalogHistory} {o : CatalogOp}
  {x : CatalogInput}

theorem Sound.step (hs : c.Sound lib) (ht : c.tasks[i]? = some ⟨q, p, h⟩) (hpermits : Permits lib h o) :
    Sound lib ⟨(CatalogWorld.exec lib).state i o x c.state,
      c.tasks.set i ⟨q, p', (CatalogWorld.exec lib).event i o x c.state :: h⟩⟩ where
  drawn id d hd := by
    rw [CatalogWorld.exec_serial]
    have hmoves := CatalogWorld.exec_moves lib i o x c.state id
    rw [hd] at hmoves
    rcases hmoves.type with hid | ⟨d₀, hd₀, -⟩
    · rw [hid]
      exact Nat.lt_succ_self _
    · exact Nat.lt_succ_of_lt (hs.drawn id d₀ hd₀)
  read id item hsaw := by
    rw [CatalogWorld.exec_serial]
    have hmoves := CatalogWorld.exec_moves lib i o x c.state id
    -- the destination was read earlier, or it is read by this call
    have hread : id.serial < c.state.serial ∧ ∀ d, c.state.destination? id = some d → d.type = item.type := by
      rcases (Pool.saw_step ht).mp hsaw with ⟨user, x', he⟩ | hsaw
      · obtain ⟨rfl, -, hresult⟩ := Event.mk.inj he
        have hitem := CatalogWorld.destination?_of_get (eq_of_heq hresult)
        refine ⟨hs.drawn id item hitem, fun d hd => ?_⟩
        rw [Option.some.inj (hd.symm.trans hitem)]
      · exact hs.read id item hsaw
    refine ⟨Nat.lt_succ_of_lt hread.1, fun d hd => ?_⟩
    rw [hd] at hmoves
    rcases hmoves.type with hid | ⟨d₀, hd₀, htype⟩
    · exact absurd hread.1 (by rw [hid]; exact lt_irrefl _)
    · exact htype.trans (hread.2 d₀ hd₀)
  verified id d hd hverified := by
    have hsaw : ∀ {φ}, c.Saw φ → Pool.Saw φ (⟨(CatalogWorld.exec lib).state i o x c.state,
        c.tasks.set i ⟨q, p', (CatalogWorld.exec lib).event i o x c.state :: h⟩⟩ : CatalogRun) :=
      fun hsaw => (Pool.saw_step ht).mpr (.inr hsaw)
    have hmoves := CatalogWorld.exec_moves lib i o x c.state id
    have hbefore := hs.verified id
    have hread := hs.read id
    change ((CatalogWorld.exec lib).state i o x c.state).destination? id = some d at hd
    rw [hd] at hmoves
    revert hbefore hread hmoves
    generalize c.state.destination? id = d₀
    intro hmoves hbefore hread
    cases hmoves with
    | same => exact (hbefore d rfl hverified).mono rfl rfl rfl fun _ => hsaw
    | created hid => cases hverified
    | @updated user changes now d₀ ho =>
      obtain ⟨htype, hstatus | ⟨hstatus, hurl, htransport⟩⟩ := updated_cases d₀ changes now
      · rw [hstatus] at hverified
        cases hverified
      · exact (hbefore d₀ rfl (hstatus ▸ hverified)).mono htransport htype hurl fun _ => hsaw
    | @verified user result now d₀ ho =>
      subst ho
      obtain ⟨item, hfound, hurl, hprotocol, e, he, hprobed⟩ := hpermits
      obtain ⟨e', he', hreads⟩ := hfound.read
      have htype := (hread item ⟨_, List.mem_of_getElem? ht, e', he', hreads⟩).2 d₀ rfl
      refine ⟨result, rfl, ?_, hsaw ⟨_, List.mem_of_getElem? ht, e, he, hprobed⟩⟩
      exact hprotocol.trans (congrArg lib.lower htype.symm)
    | failed ho => cases hverified

/-- Every request keeps to what it must have found out. -/
theorem Reaches.abides (hc : CatalogRun.Reaches lib c) {t : Task CatalogRequest CatalogOp CatalogOp.Res CatalogExc
    CatalogResponse CatalogInput} (ht : t ∈ c.tasks) : t.program.Abides (Permits lib) (fun _ _ => True) t.history :=
  Reachable.abides hc program_abides ht

theorem Reaches.sound (hc : CatalogRun.Reaches lib c) : c.Sound lib := by
  refine hc.invariant sound_init fun c a hr _ hs => ?_
  rcases Pool.act_cases (CatalogWorld.exec lib) (CatalogRequest.program lib) c a with
    ⟨q, rfl, he⟩ | ⟨i, x, q, o, next, h, rfl, ht, he⟩ | he
  · rw [he]
    exact hs.start q _
  · rw [he]
    have habides := Reaches.abides hr (List.mem_of_getElem? ht)
    exact hs.step ht (Prog.Abides.call_iff.mp habides).1
  · rwa [he]

end CatalogRun

/-- **Verification is about the current URL.** What a verified destination shows was found out by a probe of the URL it
    has. Besides edits, the only thing that ever changes a stored destination is the recording of a result, by a request
    that read the URL and the type the destination has at that moment and probed no other URL. -/
theorem verification_current (hc : CatalogRun.Reaches lib c) :
    (∀ id d, c.state.destination? id = some d → d.verificationStatus = .verified → VerifiedByProbe lib c d) ∧
    ∀ i o h x id d d', c.Calls i o h → c.state.destination? id = some d →
      (c.act (CatalogWorld.exec lib) (CatalogRequest.program lib) (.step i x)).state.destination? id = some d' → d' ≠ d →
      (∃ user changes now, o = .update id user changes ∧ d' = d.updated changes now) ∨
      ∃ item, Found h id item ∧ item.serverUrl = d.serverUrl ∧ item.type = d.type ∧
        ((∃ reason now, d' = d.failed reason now) ∨
          ∃ result now, d' = d.verified result now ∧ ∃ e ∈ h, Probed d.serverUrl result e) := by
  have hs := hc.sound
  refine ⟨hs.verified, fun i o h x id d d' hcalls hd hd' hne => ?_⟩
  rw [hcalls.state] at hd'
  have hmoves := CatalogWorld.exec_moves lib i o x c.state id
  rw [hd, hd'] at hmoves
  obtain ⟨⟨q, p, h⟩, next, ht, rfl, rfl⟩ := hcalls
  have hpermits := (Prog.Abides.call_iff.mp (CatalogRun.Reaches.abides hc (List.mem_of_getElem? ht))).1
  have hcurrent : ∀ {item}, Found h id item → item.type = d.type := by
    intro item hfound
    obtain ⟨e, he, hreads⟩ := hfound.read
    exact ((hs.read id item ⟨_, List.mem_of_getElem? ht, e, he, hreads⟩).2 d hd).symm
  cases hmoves with
  | same => exact absurd rfl hne
  | created hid =>
    rw [hid] at hd
    exact absurd (hs.drawn _ d hd) (lt_irrefl _)
  | updated ho => exact .inl ⟨_, _, _, ho, rfl⟩
  | verified ho =>
    subst ho
    obtain ⟨item, hfound, hurl, -, hprobed⟩ := hpermits
    exact .inr ⟨item, hfound, hurl, hcurrent hfound, .inr ⟨_, _, rfl, hprobed⟩⟩
  | failed ho =>
    subst ho
    obtain ⟨item, hfound, hurl⟩ := hpermits
    exact .inr ⟨item, hfound, hurl, hcurrent hfound, .inl ⟨_, _, rfl⟩⟩

end

/-! ### A URL that changes and changes back during the probe -/

namespace CatalogSample

def url (host : String) : String := "rtmp://" ++ host ++ "/live"

def lib : UrlLib :=
  { urlsplit := fun _ => some ⟨"rtmp", none, none, "/live", "", ""⟩
    parseQsl := fun _ => []
    unquotePlus := id
    casefold := fun text => String.ofList (text.toList.map Char.toLower)
    lower := fun text => String.ofList (text.toList.map Char.toLower) }

def id : Uuid := ⟨0, 0⟩

def probed : ProbeResult := ⟨"rtmp", "203.0.113.7", 1935, 12⟩

def call (i : ℕ) : Action CatalogRequest CatalogInput := .step i ⟨.finite 1, none, .ok probed⟩

/-- Request 1 probes `a.example`, while requests 2 and 3 change the URL to `b.example` and back. -/
def run : CatalogRun :=
  Pool.run (CatalogWorld.exec lib) (CatalogRequest.program lib) ⟨.initial, []⟩
    [.start (.create "u" "rtmp" "A" (url "a.example") "s"), call 0, .start (.verify id "u"), call 1,
      .start (.update id "u" { serverUrl := some (url "b.example") }), call 2,
      .start (.update id "u" { serverUrl := some (url "a.example") }), call 1, call 3, call 1]

end CatalogSample

theorem verification_current_sample : ∃ d, CatalogSample.run.state.destination? CatalogSample.id = some d ∧
    d.serverUrl = CatalogSample.url "a.example" ∧ VerifiedByProbe CatalogSample.lib CatalogSample.run d := by
  have hrun : (CatalogSample.run.state.destination? CatalogSample.id).any fun d =>
      d.verificationStatus = .verified ∧ d.serverUrl = CatalogSample.url "a.example" := by decide +kernel
  obtain ⟨d, hd, hverified⟩ := (Option.any_eq_true _ _).mp hrun
  obtain ⟨hverified, hurl⟩ := of_decide_eq_true hverified
  have hreaches : CatalogRun.Reaches CatalogSample.lib CatalogSample.run := Reachable.init.run fun _ _ _ => trivial
  exact ⟨d, hd, hurl, (verification_current hreaches).1 _ d hd hverified⟩

end IRLight.Destinations
