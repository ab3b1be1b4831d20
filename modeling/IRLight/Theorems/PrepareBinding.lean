import IRLight.ControlPlane.Writes

/-! # The binding of a prepare request

The first prepare of a Session binds it to an idempotency key and a request. Later ones are replays of exactly
this request, or they are refused, and nothing else touches the binding. -/

namespace IRLight
open Status SessionStore

/-- A prepare request that was bound to a Session: its id, the idempotency key and the request. -/
structure PrepareBinding where
  sessionId : String
  idempotencyKey : String
  request : PrepareRequest

/-- The binding that a call has made. A replay makes none. -/
def StoreOp.binds : (o : StoreOp) → o.Res → List PrepareBinding
  | beginPrepare sid _ request _ _ key, (_, replay) => if replay then [] else [⟨sid, key, request⟩]
  | _, _ => []

/-- A run of calls that begins in `s₀`, with the bindings that it has made. -/
inductive PrepareRun (s₀ : SessionStore) : List PrepareBinding → SessionStore → Prop
  | start : PrepareRun s₀ [] s₀
  | call {bindings : List PrepareBinding} {s s' : SessionStore} {o : StoreOp} {clock : ℕ → PyFloat} {fresh : Uuid}
      {a : o.Res} (run : PrepareRun s₀ bindings s) (call : o.run clock fresh s = .ok (a, s')) :
      PrepareRun s₀ (bindings ++ o.binds a) s'

/-- The Session is bound to the request by the key. -/
def Session.BoundTo (r : Session) (key : String) (request : PrepareRequest) : Prop :=
  r.prepared = (some key, some request, request)

/-- The record of a Session shows the binding that was made for it, or that none was. -/
inductive Shows (bindings : List PrepareBinding) (sid : String) : Option Session → Prop
  | unbound {o : Option Session} (unbound : ∀ r, o = some r → r.idempotencyKey = none)
      (none : ∀ b ∈ bindings, b.sessionId ≠ sid) : Shows bindings sid o
  | bound {r : Session} {key : String} {request : PrepareRequest} (bound : r.BoundTo key request)
      (made : ∀ b ∈ bindings, b.sessionId = sid → b = ⟨sid, key, request⟩) (mem : ⟨sid, key, request⟩ ∈ bindings) :
      Shows bindings sid (some r)

section
variable {bindings : List PrepareBinding} {sid key : String} {request : PrepareRequest} {r r' : Session} {o : StoreOp}
  {s₀ s s' : SessionStore} {clock : ℕ → PyFloat} {fresh : Uuid}

theorem Session.BoundTo.idempotencyKey (h : r.BoundTo key request) : r.idempotencyKey = some key := congrArg Prod.fst h

theorem Session.BoundTo.configured (h : r.BoundTo key request) : configured r = request := by
  have hrequest : r.prepareRequest = some request := congrArg (·.2.1) h
  rw [SessionStore.configured, hrequest]
  rfl

/-! ### Steps -/

/-- A call keeps the binding of a record that is bound. -/
theorem StoreOp.Rewrites.prepared_of_bound {stable : Timestamp} (hw : o.Rewrites stable sid r r')
    (hkey : r.idempotencyKey ≠ none) : r'.prepared = r.prepared := by
  cases hp : o.prepares sid with
  | false => exact hw.terms.2 hp
  | true =>
    cases hw with
    | begin _ _ hnone => exact absurd hnone hkey
    | _ => cases hp

/-- A call that prepares nothing keeps what the record shows. -/
theorem Shows.kept (h : Shows bindings sid (s.session? sid)) (hw : o.Writes s s') (ho : ∀ sid, o.prepares sid = false) :
    Shows bindings sid (s'.session? sid) := by
  generalize hs : s.session? sid = old at h
  cases h with
  | unbound unbound none =>
    refine .unbound (fun r' hr' => ?_) none
    rcases hw.record hr' with hold | ⟨_, hm⟩ | ⟨r, hr, hrw⟩
    · exact unbound r' (hs.symm.trans hold)
    · cases hm with
      | create => rfl
      | reserve => rfl
      | begin =>
        have hp := ho sid
        simp [StoreOp.prepares] at hp
    · have hkey : r'.idempotencyKey = r.idempotencyKey := congrArg Prod.fst (hrw.terms.2 (ho sid))
      rw [hkey]
      exact unbound r (hs.symm.trans hr)
  | @bound r key request bound made mem =>
    obtain ⟨r', hr'⟩ := Option.isSome_iff_exists.mp (hw.isSome (show (s.session? sid).isSome by rw [hs]; rfl))
    rw [hr']
    refine .bound ?_ made mem
    rcases hw.record hr' with hold | ⟨hnone, _⟩ | ⟨r₁, hr₁, hrw⟩
    · obtain rfl := Option.some.inj (hs.symm.trans hold)
      exact bound
    · rw [hs] at hnone
      cases hnone
    · obtain rfl := Option.some.inj (hs.symm.trans hr₁)
      exact (hrw.terms.2 (ho sid)).trans bound

/-- A prepare binds the Session if it was not bound, and is a replay otherwise. -/
theorem Shows.prepared {user ent : String} {max : ℤ} {replay : Bool} {sid' : String}
    (h : Shows bindings sid (s.session? sid))
    (hrun : s.beginPrepare sid' user request ent max key clock = .ok ((r, replay), s')) :
    Shows (bindings ++ StoreOp.binds (.beginPrepare sid' user request ent max key) (r, replay)) sid (s'.session? sid) := by
  rcases effect_beginPrepare hrun with ⟨rfl, _, _, _, rfl⟩ | ⟨rfl, _, r₀, now, rfl, rfl, hold⟩
  · exact (List.append_nil bindings).symm ▸ h
  · show Shows (bindings ++ [⟨sid', key, request⟩]) sid _
    by_cases he : sid = sid'
    · subst he
      rw [session?_put_self]
      have hnone : ∀ b ∈ bindings, b.sessionId ≠ sid := by
        generalize hs : s.session? sid = old at h hold
        cases h with
        | unbound _ none => exact none
        | bound bound =>
          rcases hold with ⟨hr, _, _, hkey⟩ | ⟨hr, _⟩
          · obtain rfl := Option.some.inj hr
            rw [bound.idempotencyKey] at hkey
            cases hkey
          · cases hr
      refine .bound rfl (fun b hb hsid => ?_) (List.mem_append_right _ (List.mem_singleton_self _))
      rcases List.mem_append.mp hb with hb | hb
      · exact absurd hsid (hnone b hb)
      · exact List.mem_singleton.mp hb
    · rw [session?_put_ne he]
      have hother : ∀ b ∈ bindings ++ [⟨sid', key, request⟩], b.sessionId = sid → b ∈ bindings := by
        intro b hb hsid
        rcases List.mem_append.mp hb with hb | hb
        · exact hb
        · rw [List.mem_singleton.mp hb] at hsid
          exact absurd hsid.symm he
      generalize s.session? sid = old at h
      cases h with
      | unbound unbound none => exact .unbound unbound fun b hb hsid => none b (hother b hb hsid) hsid
      | bound bound made mem =>
        exact .bound bound (fun b hb hsid => made b (hother b hb hsid) hsid) (List.mem_append_left _ mem)

theorem Shows.call {a : o.Res} (h : Shows bindings sid (s.session? sid)) (hrun : o.run clock fresh s = .ok (a, s')) :
    Shows (bindings ++ o.binds a) sid (s'.session? sid) := by
  cases o with
  | beginPrepare sid' user request ent max key => exact h.prepared hrun
  | _ => exact (List.append_nil bindings).symm ▸ h.kept (StoreOp.writes _ _ hrun) fun _ => rfl

/-- Every record shows the binding that was made for it. -/
theorem PrepareRun.shows (h : PrepareRun s₀ bindings s) (h₀ : ∀ r, s₀.session? sid = some r → r.idempotencyKey = none) :
    Shows bindings sid (s.session? sid) := by
  induction h with
  | start => exact .unbound h₀ fun b hb => by cases hb
  | call _ call ih => exact ih.call call

/-- A binding is never changed. -/
theorem PrepareRun.kept {made : List PrepareBinding} (h : PrepareRun s made s') (hr : s.session? sid = some r)
    (hkey : r.idempotencyKey ≠ none) : ∃ r', s'.session? sid = some r' ∧ r'.prepared = r.prepared := by
  induction h with
  | start => exact ⟨r, hr, rfl⟩
  | call _ call ih =>
    obtain ⟨r₁, hr₁, hkept⟩ := ih
    have hw := StoreOp.writes _ _ call
    obtain ⟨r', hr'⟩ := Option.isSome_iff_exists.mp (hw.isSome (by rw [hr₁]; rfl))
    refine ⟨r', hr', ?_⟩
    rcases hw.record hr' with hold | ⟨hnone, _⟩ | ⟨r₂, hr₂, hrw⟩
    · obtain rfl := Option.some.inj (hr₁.symm.trans hold)
      exact hkept
    · rw [hr₁] at hnone
      cases hnone
    · obtain rfl := Option.some.inj (hr₁.symm.trans hr₂)
      have hkey₁ : r₁.idempotencyKey ≠ none := by
        rw [show r₁.idempotencyKey = r.idempotencyKey from congrArg Prod.fst hkept]
        exact hkey
      exact (hrw.prepared_of_bound hkey₁).trans hkept

/-! ### Replays -/

/-- What a request for a bound Session is checked for. -/
theorem checkReplay_eq_ok {own : String} {u : Unit} :
    checkReplay r own request key = .ok u ↔ configured r = request ∧ own = key := by
  unfold checkReplay
  constructor
  · intro h
    obtain ⟨_, _, h⟩ := bind_eq_ok.mp h
    obtain ⟨_, _, h⟩ := bind_eq_ok.mp h
    obtain ⟨_, hrequest, h⟩ := bind_eq_ok.mp h
    exact ⟨not_not.mp (raiseIf_eq_ok.mp hrequest), not_not.mp (raiseIf_eq_ok.mp h)⟩
  · rintro ⟨rfl, rfl⟩
    simp [raiseIf, bind, Except.bind]

/-- A prepare of a Session that is bound and not over. -/
theorem beginPrepare_bound {user ent : String} {max : ℤ} {bound : PrepareRequest} {own : String}
    (hr : s.session? sid = some r) (hu : r.userId = user) (hst : r.status ∉ [finished, failed])
    (hlease : s.rejectActiveCleanupLease sid (clock 0) = .ok ()) (hb : r.BoundTo own bound) :
    if 1 ≤ max ∧ own = key ∧ bound = request then s.beginPrepare sid user request ent max key clock = .ok ((r, true), s)
    else ∃ e, s.beginPrepare sid user request ent max key clock = .error e := by
  have hown := hb.idempotencyKey
  split
  · rename_i hsame
    obtain ⟨hmax, rfl, rfl⟩ := hsame
    refine bind_eq_ok.mpr ⟨(), raiseIf_eq_ok.mpr (by omega), bind_eq_ok.mpr ⟨(), hlease, ?_⟩⟩
    unfold SessionStore.edit
    rw [hr]
    refine bind_eq_ok.mpr ⟨((r, true), none), ?_, rfl⟩
    refine bind_eq_ok.mpr ⟨(), raiseIf_eq_ok.mpr (not_not.mpr hu), bind_eq_ok.mpr ⟨(), raiseIf_eq_ok.mpr hst, ?_⟩⟩
    simp only [hown]
    exact bind_eq_ok.mpr ⟨(), checkReplay_eq_ok.mpr ⟨hb.configured, rfl⟩, rfl⟩
  · rename_i hdiffers
    cases hrun : s.beginPrepare sid user request ent max key clock with
    | error e => exact ⟨e, rfl⟩
    | ok p =>
      obtain ⟨_, hmax, h⟩ := bind_eq_ok.mp hrun
      obtain ⟨_, _, h⟩ := bind_eq_ok.mp h
      obtain ⟨w, hf, _⟩ := edit_eq_ok h
      rw [hr] at hf
      obtain ⟨_, _, hf⟩ := bind_eq_ok.mp hf
      obtain ⟨_, _, hf⟩ := bind_eq_ok.mp hf
      simp only [hown] at hf
      obtain ⟨_, hcheck, _⟩ := bind_eq_ok.mp hf
      obtain ⟨hrequest, hkey⟩ := checkReplay_eq_ok.mp hcheck
      exact absurd ⟨not_lt.mp (raiseIf_eq_ok.mp hmax), hkey, hb.configured.symm.trans hrequest⟩ hdiffers

/-- The owner is given the Session for exactly the key and the request that it is bound to. -/
theorem getPrepareReplay_bound {user : String} {bound : PrepareRequest} {own : String} (hr : s.session? sid = some r)
    (hb : r.BoundTo own bound) :
    s.getPrepareReplay sid user request key = .ok (some r') ↔ r' = r ∧ r.userId = user ∧ own = key ∧ bound = request := by
  unfold getPrepareReplay
  rw [hr]
  have hown := hb.idempotencyKey
  constructor
  · intro h
    obtain ⟨_, huser, h⟩ := bind_eq_ok.mp h
    split at h
    · cases pure_eq_ok.mp h
    · rename_i hkey
      obtain ⟨_, hrequest, h⟩ := bind_eq_ok.mp h
      rw [hown, not_not] at hkey
      exact ⟨(Option.some.inj (pure_eq_ok.mp h)).symm, not_not.mp (raiseIf_eq_ok.mp huser), Option.some.inj hkey,
        hb.configured.symm.trans (not_not.mp (raiseIf_eq_ok.mp hrequest))⟩
  · rintro ⟨rfl, huser, rfl, rfl⟩
    refine bind_eq_ok.mpr ⟨(), raiseIf_eq_ok.mpr (not_not.mpr huser), ?_⟩
    rw [if_neg (not_not.mpr hown)]
    exact bind_eq_ok.mpr ⟨(), raiseIf_eq_ok.mpr (not_not.mpr hb.configured), rfl⟩

/-- A key that no prepare has bound gives no Session. -/
theorem getPrepareReplay_unbound {user : String} (hr : ∀ r, s.session? sid = some r → r.idempotencyKey = none) :
    s.getPrepareReplay sid user request key ≠ .ok (some r') := by
  intro h
  obtain ⟨hr', hkey⟩ := effect_getPrepareReplay h
  rw [hr r' hr'] at hkey
  cases hkey

/-- **The binding of a Session is immutable**: once a Session is bound to an idempotency key, no run of calls changes
    the key or the configuration. A later prepare by the owner of a Session that is not over is a replay if the key
    and the request are the bound ones, unless the owner's sessions are disabled, and is refused otherwise. A replay
    is found for exactly the key and the request that were bound. -/
theorem prepare_binding_immutable (h₀ : ∀ sid r, s₀.session? sid = some r → r.idempotencyKey = none)
    (hrun : PrepareRun s₀ bindings s) :
    (∀ made s', PrepareRun s made s' → ∀ sid r, s.session? sid = some r → r.idempotencyKey ≠ none →
        ∃ r', s'.session? sid = some r' ∧ r'.prepared = r.prepared) ∧
      (∀ sid r own, s.session? sid = some r → r.idempotencyKey = some own → r.status ∉ terminalStates →
        ∃ bound, r.BoundTo own bound ∧ ∀ request ent max key clock, s.rejectActiveCleanupLease sid (clock 0) = .ok () →
          if 1 ≤ max ∧ own = key ∧ bound = request then
            s.beginPrepare sid r.userId request ent max key clock = .ok ((r, true), s)
          else ∃ e, s.beginPrepare sid r.userId request ent max key clock = .error e) ∧
      ∀ sid user request key r, s.getPrepareReplay sid user request key = .ok (some r) ↔
        s.session? sid = some r ∧ r.userId = user ∧ ⟨sid, key, request⟩ ∈ bindings := by
  refine ⟨fun made s' hlater sid r hr hkey => hlater.kept hr hkey, fun sid r own hr hkey hst => ?_,
    fun sid user request key r => ?_⟩
  · have hshows := hrun.shows (h₀ sid)
    rw [hr] at hshows
    cases hshows with
    | unbound unbound =>
      rw [unbound r rfl] at hkey
      cases hkey
    | bound hb =>
      obtain rfl := Option.some.inj (hb.idempotencyKey.symm.trans hkey)
      refine ⟨_, hb, fun request ent max key clock hlease => beginPrepare_bound hr rfl (fun hover => hst ?_) hlease hb⟩
      revert hover
      cases r.status <;> decide
  · have hshows := hrun.shows (h₀ sid)
    generalize hs : s.session? sid = found at hshows
    cases hshows with
    | unbound unbound none =>
      refine ⟨fun h => absurd h (getPrepareReplay_unbound fun r hr => unbound r (hs.symm.trans hr)), fun h => ?_⟩
      exact absurd rfl (none _ h.2.2)
    | bound hb made mem =>
      rw [getPrepareReplay_bound hs hb]
      constructor
      · rintro ⟨rfl, rfl, rfl, rfl⟩
        exact ⟨rfl, rfl, mem⟩
      · rintro ⟨hr, rfl, hmem⟩
        obtain rfl := Option.some.inj hr
        obtain ⟨_, rfl, rfl⟩ := PrepareBinding.mk.inj (made _ hmem rfl)
        exact ⟨rfl, rfl, rfl, rfl⟩

end

/-! A Session that is bound and being provisioned, and its owner's sessions disabled. -/

namespace PrepareSample

def clock (_ : ℕ) : PyFloat := .finite 1

def request : PrepareRequest := { environment := .dev, destinationId := none, egressMode := .directPush }

def store : SessionStore where
  sessions := ∅
  orphanCleanupLeases := ∅
  authoritative := true
  recoveryStableSeconds := 0

theorem unbound (sid : String) (r : Session) (hr : store.session? sid = some r) : r.idempotencyKey = none := by
  cases hr

def prepared : SessionStore := store.after (store.beginPrepare "s" "u" request "e" 1 "k" clock)

def running : SessionStore := prepared.after (prepared.claimProvisioning "s" ⟨0, 0⟩ (.finite 1) clock)

theorem run : PrepareRun store [⟨"s", "k", request⟩] running := by
  obtain ⟨⟨r, replay⟩, hbegin⟩ : ∃ a, store.beginPrepare "s" "u" request "e" 1 "k" clock = .ok (a, prepared) :=
    SessionStore.after_eq (by decide +kernel)
  obtain ⟨r', hclaim⟩ : ∃ a, prepared.claimProvisioning "s" ⟨0, 0⟩ (.finite 1) clock = .ok (a, running) :=
    SessionStore.after_eq (by decide +kernel)
  have hfirst := @PrepareRun.call store [] store prepared (.beginPrepare "s" "u" request "e" 1 "k") clock ⟨0, 0⟩ _ .start hbegin
  have hthen := @PrepareRun.call store _ prepared running (.claimProvisioning "s" ⟨0, 0⟩ (.finite 1)) clock ⟨0, 0⟩ _ hfirst hclaim
  rcases effect_beginPrepare hbegin with ⟨_, hr, _⟩ | ⟨rfl, _⟩
  · cases hr
  · exact hthen

theorem running_bound : ∃ r, running.session? "s" = some r ∧ r.userId = "u" ∧ r.status = provisioning ∧ r.BoundTo "k" request := by
  have hrecord : (running.session? "s").any fun r =>
      r.userId = "u" && r.status = provisioning && r.prepared = (some "k", some request, request) := by
    decide +kernel
  obtain ⟨r, hr, h⟩ := (Option.any_eq_true _ _).mp hrecord
  simp only [Bool.and_eq_true, decide_eq_true_eq] at h
  exact ⟨r, hr, h.1.1, h.1.2, h.2⟩

end PrepareSample

open PrepareSample in
theorem prepare_binding_immutable_sample : ∃ r, running.session? "s" = some r ∧
    running.beginPrepare "s" "u" request "e" 1 "k" clock = .ok ((r, true), running) := by
  obtain ⟨r, hr, hu, hst, hb⟩ := running_bound
  obtain ⟨request', hb', hreplay⟩ := (prepare_binding_immutable unbound run).2.1 "s" r "k" hr hb.idempotencyKey
    (by rw [hst]; decide)
  obtain rfl := congrArg (·.2.2) (hb'.symm.trans hb)
  have hthis := hreplay request "e" 1 "k" clock rfl
  rw [if_pos ⟨le_rfl, rfl, rfl⟩, hu] at hthis
  exact ⟨r, hr, hthis⟩

open PrepareSample in
/-- A replay is refused when the owner's sessions are disabled. -/
theorem disabled_replay_refused : ∃ bindings s r e, PrepareRun store bindings s ∧ s.session? "s" = some r ∧ r.userId = "u" ∧
    r.status ∉ terminalStates ∧ r.BoundTo "k" request ∧ s.rejectActiveCleanupLease "s" (clock 0) = .ok () ∧
      s.beginPrepare "s" "u" request "e" 0 "k" clock = .error e := by
  obtain ⟨r, hr, hu, hst, hb⟩ := running_bound
  exact ⟨_, running, r, _, run, hr, hu, by rw [hst]; decide, hb, rfl, rfl⟩

end IRLight
