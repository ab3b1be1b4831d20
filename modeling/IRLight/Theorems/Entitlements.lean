import IRLight.ControlPlane.EntitlementStore

/-! # A user's entitlement is what was set last

In every run of the entitlement store a user has the limit that was set last for this user. A user whose limit was set never
falls back to the default: not through faults, processes that die or losses of power, and not when the file is taken away or
damaged. -/

namespace IRLight.EntitlementStore
open Persistence

section
variable {defaultLimit : Except EntitlementError ℕ} {entitlements : Entitlements} {userId : String} {record : EntitlementRecord}
  {actions : List Action} {g : Grant} {now : Timestamp}

/-! ### Valid documents -/

theorem refuse_ok {bad : Prop} [Decidable bad] {message : String} {u : Unit} : refuse bad message = .ok u ↔ ¬bad := by
  unfold refuse
  split
  · rename_i h
    constructor
    · intro he
      cases he
    · intro hn
      exact absurd h hn
  · rename_i h
    exact ⟨fun _ => h, fun _ => rfl⟩

theorem requireNonempty_ok {value field : String} {u : Unit} : requireNonempty value field = .ok u ↔ value ≠ "" := refuse_ok

/-- What the reader asks of the record under a user's identifier. -/
structure EntitlementRecord.Sound (userId : String) (record : EntitlementRecord) : Prop where
  key : userId ≠ ""
  id : record.id = "user:" ++ userId
  user : record.userId = userId
  plan : record.plan ≠ ""
  stripped : strip record.plan ≠ ""

theorem validateRecord_iff : validateRecord userId record = .ok () ↔ record.Sound userId := by
  simp only [validateRecord, bind_eq_ok, requireNonempty_ok, refuse_ok, exists_const]
  constructor
  · rintro ⟨hkey, -, -, hplan, hstripped, huser, hid⟩
    exact ⟨hkey, not_not.mp hid, not_not.mp huser, hplan, hstripped⟩
  · intro h
    refine ⟨h.key, ?_, h.user ▸ h.key, h.plan, h.stripped, not_not.mpr h.user, not_not.mpr h.id⟩
    rw [h.id]
    intro hempty
    have hlist := congrArg String.toList hempty
    simp at hlist

theorem validate_iff : document.validate entitlements = .ok () ↔
    ∀ userId record, entitlements.get? userId = some record → record.Sound userId := by
  refine forM_ok.trans ⟨fun h userId record hrecord => ?_, fun h i hi => ?_⟩
  · exact validateRecord_iff.mp (h (userId, record) (Dict.get?_eq_some.mp hrecord))
  · exact validateRecord_iff.mpr (h i.1 i.2 (Dict.get?_eq_some.mpr hi))

/-- The records of a document that a call may find. -/
theorem sound_of_found (hvalid : document.validate entitlements = .ok () ∨ entitlements = document.initial) (userId : String)
    (record : EntitlementRecord) (hrecord : entitlements.get? userId = some record) : record.Sound userId := by
  rcases hvalid with hvalid | rfl
  · exact validate_iff.mp hvalid userId record hrecord
  · cases hrecord

/-! ### The calls -/

theorem strip_empty : strip "" = "" := by decide

theorem Grant.sound (g : Grant) (now : Timestamp) : (g.record now).Sound g.userId := by
  refine ⟨g.user_ne, rfl, rfl, fun hplan => g.plan_ne ?_, g.plan_ne⟩
  have hplan : g.plan = "" := hplan
  rw [hplan]
  exact strip_empty

/-- The document that a `set` writes. -/
abbrev granted (entitlements : Entitlements) (g : Grant) (now : Timestamp) : Entitlements :=
  (entitlements.set g.userId (g.record now)).sort fun i j => i.1 ≤ j.1

theorem validate_granted (h : ∀ userId record, entitlements.get? userId = some record → record.Sound userId) :
    document.validate (granted entitlements g now) = .ok () := by
  refine validate_iff.mpr fun userId record hrecord => ?_
  rw [Dict.get?_sort] at hrecord
  by_cases hkey : userId = g.userId
  · rw [hkey, Dict.get?_set_self] at hrecord
    obtain rfl := Option.some.inj hrecord
    exact hkey ▸ g.sound now
  · rw [Dict.get?_set_ne hkey] at hrecord
    exact h userId record hrecord

/-- The terms of a user after a `set`. -/
theorem cell_granted (k : String) : (registers defaultLimit).cell (granted entitlements g now) k =
    if k = g.userId then some (g.plan, g.maxConcurrentSessions) else (registers defaultLimit).cell entitlements k := by
  change (Dict.get? _ _).map _ = _
  rw [Dict.get?_sort]
  split
  · rename_i h
    rw [h, Dict.get?_set_self]
    rfl
  · rename_i h
    rw [Dict.get?_set_ne h]
    rfl

theorem body_get_none (h : entitlements.get? userId = none) : body defaultLimit (.get userId) entitlements =
    ((defaultEntitlement defaultLimit userId).map .entitlement, none) := by
  simp only [body, h]

theorem body_get_some (h : entitlements.get? userId = some record) :
    body defaultLimit (.get userId) entitlements = (.ok (.entitlement record.entitlement), none) := by
  simp only [body, h]

/-- What a `set` does with the document. -/
theorem body_set_cases (defaultLimit : Except EntitlementError ℕ) (entitlements : Entitlements) (g : Grant) :
    (∃ e, body defaultLimit (.set g) entitlements = (.error e, none)) ∨
    ∃ now, body defaultLimit (.set g) entitlements =
      (.ok (.granted (g.record now).entitlement), some (granted entitlements g now)) := by
  cases hnow : updatedAt g.reading with
  | error e => exact .inl ⟨e, by simp only [body, hnow]⟩
  | ok now =>
    cases hvalid : document.validate (granted entitlements g now) with
    | error e => exact .inl ⟨e, by simp only [body, hnow, hvalid]⟩
    | ok u => exact .inr ⟨now, by simp only [body, hnow, hvalid]⟩

theorem registers_lawful : (registers defaultLimit).Lawful where
  keeps := by
    intro q entitlements b entitlements' hvalid hbody
    cases q with
    | load => cases (Prod.mk.inj hbody).2
    | get userId =>
      cases hrecord : entitlements.get? userId with
      | none => cases (Prod.mk.inj ((body_get_none hrecord).symm.trans hbody)).2
      | some record => cases (Prod.mk.inj ((body_get_some hrecord).symm.trans hbody)).2
    | set g =>
      rcases body_set_cases defaultLimit entitlements g with ⟨e, hset⟩ | ⟨now, hset⟩
      · cases (Prod.mk.inj (hset.symm.trans hbody)).2
      · obtain ⟨rfl, h⟩ := Prod.mk.inj (hset.symm.trans hbody)
        obtain rfl := Option.some.inj h
        refine ⟨validate_granted (sound_of_found hvalid), fun k => ?_⟩
        rw [cell_granted]
        change _ = (if k = _ then _ else _ : Option _).getD _
        split <;> rfl
  honest := by
    intro q entitlements b hbody
    cases q with
    | load =>
      cases (Prod.mk.inj hbody).1
      rfl
    | get userId =>
      have hget : ∀ {r : Except EntitlementError Entitlement}, r.map EntitlementAnswer.entitlement = .ok b → b.done = false := by
        intro r hr
        cases r with
        | error e => cases hr
        | ok e =>
          cases hr
          rfl
      cases hrecord : entitlements.get? userId with
      | none => exact hget (Prod.mk.inj ((body_get_none hrecord).symm.trans hbody)).1
      | some record =>
        cases (Prod.mk.inj ((body_get_some hrecord).symm.trans hbody)).1
        rfl
    | set g =>
      rcases body_set_cases defaultLimit entitlements g with ⟨e, hset⟩ | ⟨now, hset⟩
      · cases (Prod.mk.inj (hset.symm.trans hbody)).1
      · cases (Prod.mk.inj (hset.symm.trans hbody)).2

/-! ### The register of a user -/

/-- The terms that a user may have after some calls. -/
def PossibleTerms (calls : List (EntitlementCall × Bool)) (userId : String) (terms : Option Terms) : Prop :=
  Possible none (EntitlementCall.sets userId) calls terms

/-- The entitlement says what the terms are. -/
def Entitlement.Shows (defaultLimit : Except EntitlementError ℕ) (userId : String) (e : Entitlement) : Option Terms → Prop
  | none => defaultEntitlement defaultLimit userId = .ok e
  | some (plan, limit) => e.id = "user:" ++ userId ∧ e.userId = userId ∧ e.plan = plan ∧ e.maxConcurrentSessions = limit

/-- **An entitlement is what was set last.** In every run, a `get` gives a user the plan and the limit of the last `set` for this
    user, or of what was there before it if that call was not acknowledged. Once a `set` for the user is acknowledged, it never
    gives the default. -/
theorem gives_last_set {e : Entitlement} {fault : Option Fault}
    (h : ((registers defaultLimit).call (after defaultLimit actions) (.get userId) fault).1 = .ok (.entitlement e)) :
    ∃ terms, PossibleTerms (after defaultLimit actions).calls userId terms ∧ e.Shows defaultLimit userId terms ∧
      ∀ g, (.set g, true) ∈ (after defaultLimit actions).calls → g.userId = userId → terms.isSome := by
  rcases Document.call_answer document (after defaultLimit actions).disk fault (body defaultLimit (.get userId)) with
    ⟨entitlements, hload, hanswer⟩ | hanswer | hanswer | ⟨_, _, hanswer⟩
  · obtain ⟨hvalid, hpossible⟩ := (Registers.after_sound registers_lawful actions).possible hload
    have hterms : PossibleTerms (after defaultLimit actions).calls userId
        ((entitlements.get? userId).map fun r => (r.plan, r.maxConcurrentSessions)) := hpossible userId
    refine ⟨_, hterms, ?_, fun g hg huser => ?_⟩
    · rw [show ((registers defaultLimit).call (after defaultLimit actions) (.get userId) fault).1 = _ from hanswer] at h
      cases hrecord : entitlements.get? userId with
      | none =>
        rw [body_get_none hrecord] at h
        change defaultEntitlement defaultLimit userId = .ok e
        cases hdefault : defaultEntitlement defaultLimit userId with
        | error e' =>
          rw [hdefault] at h
          cases h
        | ok e' =>
          rw [hdefault] at h
          cases h
          rfl
      | some record =>
        rw [body_get_some hrecord] at h
        obtain rfl := EntitlementAnswer.entitlement.inj (Except.ok.inj h)
        have hsound : record.Sound userId := sound_of_found hvalid userId record hrecord
        exact ⟨hsound.id, hsound.user, rfl, rfl⟩
    · have hset : (EntitlementCall.set g).sets userId = some (some (g.plan, g.maxConcurrentSessions)) := if_pos huser.symm
      obtain ⟨⟨q, _⟩, _, hq⟩ := Possible.was_set hg hset hterms
      cases q with
      | set g' =>
        change (if _ then _ else _) = _ at hq
        split at hq
        · exact (Option.some.inj hq) ▸ rfl
        · cases hq
      | load => cases hq
      | get _ => cases hq
  all_goals
    rw [show ((registers defaultLimit).call (after defaultLimit actions) (.get userId) fault).1 = _ from hanswer] at h
    cases h

end

namespace Sample

theorem alice_named : "alice" ≠ "" := by decide

def alice (limit : ℕ) (fault : Option Fault) : Action :=
  .call (.set ⟨"alice", limit, "studio", .finite 1, alice_named, by decide⟩) fault

/-- The limit of a user is set twice, the second time without a sync, and the power fails. -/
def lostSet : List Action := [alice 3 none, alice 5 (some (.writing .unsynced)), .loss 1 true]

end Sample

theorem gives_last_set_lostSet : ∃ terms,
    PossibleTerms (after (.ok 1) Sample.lostSet).calls "alice" terms ∧ terms.isSome := by
  have hgives := @gives_last_set (.ok 1) "alice" Sample.lostSet ⟨"user:alice", "alice", "studio", 3, some 1⟩ none (by decide +kernel)
  obtain ⟨terms, hterms, _, hsome⟩ := hgives
  exact ⟨terms, hterms, hsome _ (List.mem_cons_of_mem _ List.mem_cons_self) rfl⟩

end IRLight.EntitlementStore
