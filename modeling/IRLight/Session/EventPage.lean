import IRLight.Session.Record

/-! # Pages of events

`_event_page` of the Session API gives the retained events after a sequence number, and says when older ones are gone. -/

namespace IRLight

structure EventPage where
  events : List SessionEvent
  earliestSequence : Option ℕ
  latestSequence : Option ℕ
  nextAfterSequence : Option ℤ
  hasMore : Bool
  retentionGap : Bool

/-- The events after a sequence number. -/
def remainingEvents (events : List SessionEvent) (afterSequence : Option ℤ) : List SessionEvent :=
  match afterSequence with
  | none => events
  | some after => events.filter fun event => after < event.sequence

def retentionGap (afterSequence : Option ℤ) (earliestSequence : Option ℕ) : Bool :=
  match afterSequence, earliestSequence with
  | some after, some earliest => after < (earliest : ℤ) - 1
  | _, _ => false

/-- `_event_page` of a Session with these events. -/
def eventPage (events : List SessionEvent) (afterSequence : Option ℤ) (limit : ℤ) : Except Exc EventPage := do
  raiseIf (∃ after ∈ afterSequence, after < 0) (.httpException 400 (.text "after_sequence must be non-negative"))
  raiseIf (limit < 1 ∨ (sessionEventLimit : ℤ) < limit)
    (.httpException 400 (.text s!"limit must be between 1 and {sessionEventLimit}"))
  let earliestSequence := events.head?.map (·.sequence)
  let remaining := remainingEvents events afterSequence
  let page := remaining.take limit.toNat
  return { events := page
           earliestSequence := earliestSequence
           latestSequence := events.getLast?.map (·.sequence)
           nextAfterSequence := (page.getLast?.map fun event => (event.sequence : ℤ)).or afterSequence
           hasMore := page.length < remaining.length
           retentionGap := retentionGap afterSequence earliestSequence }

/-- Where a client that passes this `after_sequence` is: all sequence numbers are positive. -/
def position (afterSequence : Option ℤ) : ℤ := afterSequence.getD 0

/-- What a page of increasing events is: those up to its `next_after_sequence`, and all of them if it has no more. -/
structure IsPage (events : List SessionEvent) (afterSequence : Option ℤ) (page : EventPage) : Prop where
  valid : ∀ after ∈ afterSequence, 0 ≤ after
  sublist : page.events.Sublist events
  later : ∀ e ∈ page.events, position afterSequence < e.sequence
  upTo : ∀ e ∈ page.events, (e.sequence : ℤ) ≤ position page.nextAfterSequence
  complete : ∀ e ∈ events, position afterSequence < e.sequence →
    (e.sequence : ℤ) ≤ position page.nextAfterSequence → e ∈ page.events
  next : page.nextAfterSequence = afterSequence ∨ ∃ e ∈ page.events, page.nextAfterSequence = some (e.sequence : ℤ)
  rest : page.hasMore = false → ∀ e ∈ events, position afterSequence < e.sequence → e ∈ page.events
  gap : page.retentionGap ↔ ∃ after first, afterSequence = some after ∧ events.head? = some first ∧
    after < (first.sequence : ℤ) - 1

section
variable {events : List SessionEvent} {afterSequence : Option ℤ} {limit : ℤ} {page : EventPage}

/-- The last one of increasing events is the greatest. -/
theorem sequence_le_getLast (hincreasing : events.Pairwise fun a b => a.sequence < b.sequence) {last e : SessionEvent}
    (hlast : events.getLast? = some last) (he : e ∈ events) : e.sequence ≤ last.sequence := by
  obtain ⟨front, rfl⟩ := List.getLast?_eq_some_iff.mp hlast
  rcases List.mem_append.mp he with he | he
  · exact ((List.pairwise_append.mp hincreasing).2.2 e he last (List.mem_singleton_self _)).le
  · rw [List.mem_singleton.mp he]

/-- Without a sequence number a page starts before every event. -/
theorem remainingEvents_eq (hpositive : ∀ e ∈ events, 0 < e.sequence) :
    remainingEvents events afterSequence = events.filter fun event => position afterSequence < event.sequence := by
  cases afterSequence with
  | some after => rfl
  | none =>
    refine (List.filter_eq_self.mpr fun e he => ?_).symm
    exact decide_eq_true (Int.natCast_pos.mpr (hpositive e he))

theorem retentionGap_iff : retentionGap afterSequence (events.head?.map (·.sequence)) ↔
    ∃ after first, afterSequence = some after ∧ events.head? = some first ∧ after < (first.sequence : ℤ) - 1 := by
  cases afterSequence with
  | none => simp [retentionGap]
  | some after =>
    cases hfirst : events.head? with
    | none => simp [retentionGap]
    | some first => simp [retentionGap]

theorem eventPage_isPage (hpositive : ∀ e ∈ events, 0 < e.sequence)
    (hincreasing : events.Pairwise fun a b => a.sequence < b.sequence)
    (h : eventPage events afterSequence limit = .ok page) : IsPage events afterSequence page := by
  unfold eventPage at h
  obtain ⟨_, hafter, h⟩ := bind_eq_ok.mp h
  have hafter := raiseIf_eq_ok.mp hafter
  obtain ⟨_, hlimit, h⟩ := bind_eq_ok.mp h
  have hlimit := raiseIf_eq_ok.mp hlimit
  simp only at h
  rw [remainingEvents_eq hpositive] at h
  obtain rfl := pure_eq_ok.mp h
  generalize hremaining : events.filter (fun event => position afterSequence < event.sequence) = remaining
  have hmem : ∀ {e}, e ∈ remaining ↔ e ∈ events ∧ position afterSequence < e.sequence := by
    intro e
    rw [← hremaining, List.mem_filter, decide_eq_true_eq]
  have hsorted : remaining.Pairwise fun a b => a.sequence < b.sequence := hremaining ▸ hincreasing.filter _
  generalize hpage : remaining.take limit.toNat = page
  have hsplit : remaining = page ++ remaining.drop limit.toNat := by rw [← hpage, List.take_append_drop]
  have hpaged : ∀ {e}, e ∈ page → e ∈ remaining := fun he => List.mem_of_mem_take (hpage ▸ he)
  -- the next position is that of the last event of the page
  have hnext : ∀ last, page.getLast? = some last →
      position ((page.getLast?.map fun event => (event.sequence : ℤ)).or afterSequence) = last.sequence := by
    intro last hlast
    rw [hlast]
    rfl
  refine ⟨fun after hmem => not_lt.mp fun hlt => hafter ⟨after, hmem, hlt⟩, ?_, fun e he => (hmem.mp (hpaged he)).2, fun e he => ?_, fun e he hlater hle => ?_, ?_, fun hall e he hlater => ?_,
    retentionGap_iff⟩
  · rw [← hpage, ← hremaining]
    exact (List.take_sublist _ _).trans List.filter_sublist
  · obtain ⟨last, hlast⟩ := Option.isSome_iff_exists.mp (List.getLast?_isSome.mpr (List.ne_nil_of_mem he))
    rw [hsplit] at hsorted
    rw [hnext last hlast]
    exact_mod_cast sequence_le_getLast (List.pairwise_append.mp hsorted).1 hlast he
  · have hin : e ∈ page ++ remaining.drop limit.toNat := hsplit ▸ hmem.mpr ⟨he, hlater⟩
    refine (List.mem_append.mp hin).resolve_right fun hdropped => ?_
    cases hlast : page.getLast? with
    | none =>
      rw [hlast] at hle
      exact absurd hle (not_le.mpr hlater)
    | some last =>
      rw [hnext last hlast] at hle
      rw [hsplit] at hsorted
      have hlt := (List.pairwise_append.mp hsorted).2.2 last (List.mem_of_getLast? hlast) e hdropped
      omega
  · cases hlast : page.getLast? with
    | none => exact .inl rfl
    | some last => exact .inr ⟨last, List.mem_of_getLast? hlast, rfl⟩
  · have hlength : remaining.length ≤ page.length := not_lt.mp (of_decide_eq_false hall)
    rw [← hpage, List.length_take] at hlength
    rw [← hpage, List.take_of_length_le (by omega)]
    exact hmem.mpr ⟨he, hlater⟩

theorem IsPage.le_next (h : IsPage events afterSequence page) :
    position afterSequence ≤ position page.nextAfterSequence := by
  rcases h.next with hnext | ⟨e, he, hnext⟩
  · rw [hnext]
  · exact (h.later e he).le.trans (h.upTo e he)

/-- Every request for a page within the limits is answered. -/
theorem eventPage_eq_ok (hafter : ∀ after ∈ afterSequence, 0 ≤ after) (hlimit : 1 ≤ limit)
    (hlimit' : limit ≤ sessionEventLimit) : ∃ page, eventPage events afterSequence limit = .ok page := by
  have hlow : ¬∃ after ∈ afterSequence, after < 0 := fun ⟨after, hmem, hlt⟩ => absurd (hafter after hmem) (not_le.mpr hlt)
  have hrange : ¬(limit < 1 ∨ (sessionEventLimit : ℤ) < limit) := by omega
  unfold eventPage
  exact ⟨_, bind_eq_ok.mpr ⟨(), raiseIf_eq_ok.mpr hlow, bind_eq_ok.mpr ⟨(), raiseIf_eq_ok.mpr hrange, rfl⟩⟩⟩

end

end IRLight
