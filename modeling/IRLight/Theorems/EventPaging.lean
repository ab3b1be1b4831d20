import IRLight.Session.EventPage
import Mathlib.Data.List.Induction

/-! # Paging through the events of a Session

Events are appended to a Session while a client polls it, page after page. The client gets every event once, in order, or
the event was gone when the client came to it, and then the page says so. -/

namespace IRLight

/-- What may happen next: an event is appended, or the client polls. -/
inductive FeedAction where
  | append (eventType : String) (reasonCode : Option String) (payload : Json) (origin : String) (occurredAt : Timestamp)
  | poll (limit : ℤ)

/-- A poll that was answered: all events appended so far, those retained, the sequence number passed, and the page. -/
structure Polled where
  appended : List SessionEvent
  retained : List SessionEvent
  afterSequence : Option ℤ
  page : EventPage

/-- A Session's log, with all events that were ever appended to it, and the client. -/
structure Feed where
  log : EventLog
  appended : List SessionEvent
  cursor : Option ℤ
  delivered : List SessionEvent
  polls : List Polled

namespace Feed

/-- The client passes on what it was given last. A request that is refused changes nothing. -/
def step (f : Feed) : FeedAction → Feed
  | .append eventType reasonCode payload origin occurredAt =>
    { f with
      log := f.log.append eventType reasonCode payload origin occurredAt
      appended := f.appended ++ [f.log.newEvent eventType reasonCode payload origin occurredAt] }
  | .poll limit =>
    match eventPage f.log.events f.cursor limit with
    | .error _ => f
    | .ok page =>
      { f with
        cursor := page.nextAfterSequence
        delivered := f.delivered ++ page.events
        polls := f.polls ++ [⟨f.appended, f.log.events, f.cursor, page⟩] }

def start (cursor : Option ℤ) : Feed := ⟨.empty, [], cursor, [], []⟩

/-- The Session and a client that starts with this cursor, after some actions. -/
def run (cursor : Option ℤ) (actions : List FeedAction) : Feed := actions.foldl step (start cursor)

end Feed

namespace Polled

/-- The poll passed the event by, and the event was gone. -/
def Skips (p : Polled) (e : SessionEvent) : Prop :=
  position p.afterSequence < e.sequence ∧ (e.sequence : ℤ) ≤ position p.page.nextAfterSequence ∧
    e ∈ p.appended ∧ e ∉ p.retained

/-- The page reports a gap exactly when an event after the given sequence number is gone. -/
def GapIsTrue (p : Polled) : Prop :=
  p.page.retentionGap ↔ ∃ after, p.afterSequence = some after ∧
    ∃ e ∈ p.appended, after < (e.sequence : ℤ) ∧ e ∉ p.retained

/-- A page with no more after it brings the client up to all the events so far. -/
def CatchesUp (p : Polled) : Prop :=
  p.page.hasMore = false → ∀ e ∈ p.appended, (e.sequence : ℤ) ≤ position p.page.nextAfterSequence

end Polled

/-! ### What is retained -/

/-- Keeping the newest, appending and keeping the newest again is appending and keeping the newest. -/
theorem drop_append_newest {α : Type*} (l : List α) (x : α) (n : ℕ) :
    (l.drop (l.length - n) ++ [x]).drop ((l.drop (l.length - n) ++ [x]).length - n) =
      (l ++ [x]).drop ((l ++ [x]).length - n) := by
  rw [← List.drop_append_of_le_length (Nat.sub_le _ _), List.drop_drop, List.length_drop, List.length_append,
    List.length_singleton]
  congr 1
  omega

/-- All events ever appended to a log, in their order. -/
structure Appended (log : EventLog) (appended : List SessionEvent) : Prop where
  numbered : ∀ i e, appended[i]? = some e → e.sequence = i + 1
  retained : log.events = appended.drop (appended.length - sessionEventLimit)
  next : log.nextEventSeq = appended.length + 1

namespace Appended
variable {log : EventLog} {appended : List SessionEvent} {e : SessionEvent}

theorem empty : Appended .empty [] := ⟨fun i e h => by simp at h, rfl, rfl⟩

theorem append (h : Appended log appended) (eventType : String) (reasonCode : Option String) (payload : Json)
    (origin : String) (occurredAt : Timestamp) :
    Appended (log.append eventType reasonCode payload origin occurredAt)
      (appended ++ [log.newEvent eventType reasonCode payload origin occurredAt]) where
  numbered i e he := by
    by_cases hi : i < appended.length
    · rw [List.getElem?_append_left hi] at he
      exact h.numbered i e he
    · have hlt := (List.getElem?_eq_some_iff.mp he).1
      rw [List.length_append, List.length_singleton] at hlt
      obtain rfl : i = appended.length := by omega
      rw [List.getElem?_concat_length] at he
      obtain rfl := Option.some.inj he
      exact h.next
  retained := by
    have hevents := EventLog.append_events log eventType reasonCode payload origin occurredAt
    simp only at hevents
    rw [hevents, h.retained]
    exact drop_append_newest _ _ _
  next := by
    rw [EventLog.append_nextEventSeq, h.next, List.length_append, List.length_singleton]

theorem sequence_le (h : Appended log appended) (he : e ∈ appended) : e.sequence ≤ appended.length := by
  obtain ⟨i, hi⟩ := List.getElem?_of_mem he
  rw [h.numbered i e hi]
  exact (List.getElem?_eq_some_iff.mp hi).1

/-- The newest events are retained. -/
theorem mem_iff (h : Appended log appended) :
    e ∈ log.events ↔ e ∈ appended ∧ appended.length < e.sequence + sessionEventLimit := by
  rw [h.retained]
  constructor
  · intro he
    obtain ⟨j, hj⟩ := List.getElem?_of_mem he
    rw [List.getElem?_drop] at hj
    have hnumber := h.numbered _ e hj
    exact ⟨List.mem_of_getElem? hj, by omega⟩
  · rintro ⟨he, hnew⟩
    obtain ⟨i, hi⟩ := List.getElem?_of_mem he
    have hnumber := h.numbered i e hi
    refine List.mem_of_getElem? (i := i - (appended.length - sessionEventLimit)) ?_
    rw [List.getElem?_drop, Nat.add_sub_of_le (by omega)]
    exact hi

theorem head?_eq (h : Appended log appended) : log.events.head? = appended[appended.length - sessionEventLimit]? := by
  rw [h.retained, List.head?_drop]

theorem first_sequence (h : Appended log appended) {first : SessionEvent} (hfirst : log.events.head? = some first) :
    first.sequence = appended.length - sessionEventLimit + 1 := h.numbered _ _ (h.head?_eq ▸ hfirst)

theorem exists_first (h : Appended log appended) (hne : appended ≠ []) :
    ∃ first, log.events.head? = some first ∧ first.sequence = appended.length - sessionEventLimit + 1 := by
  have hpos : 0 < appended.length := List.length_pos_of_ne_nil hne
  have hlt : appended.length - sessionEventLimit < appended.length := by unfold sessionEventLimit; omega
  refine ⟨appended[appended.length - sessionEventLimit], ?_, h.numbered _ _ (List.getElem?_eq_getElem hlt)⟩
  rw [h.head?_eq, List.getElem?_eq_getElem hlt]

/-- The newest event is retained. -/
theorem exists_last (h : Appended log appended) (he : e ∈ appended) :
    ∃ last ∈ log.events, e.sequence ≤ last.sequence := by
  have hpos : 0 < appended.length := List.length_pos_of_mem he
  have hlt : appended.length - 1 < appended.length := by omega
  have hnumber := h.numbered _ _ (List.getElem?_eq_getElem hlt)
  have hlimit : 0 < sessionEventLimit := by decide
  have hle := h.sequence_le he
  exact ⟨_, h.mem_iff.mpr ⟨List.getElem_mem hlt, by omega⟩, by omega⟩

/-- A gap is reported exactly when an event is missing. -/
theorem gapIsTrue (h : Appended log appended) {afterSequence : Option ℤ} {page : EventPage}
    (hpage : IsPage log.events afterSequence page) : Polled.GapIsTrue ⟨appended, log.events, afterSequence, page⟩ := by
  unfold Polled.GapIsTrue
  rw [hpage.gap]
  constructor
  · rintro ⟨after, first, hafter, hfirst, hlt⟩
    have hnonneg := hpage.valid after hafter
    have hnumber := h.first_sequence hfirst
    have hlength : appended.length - sessionEventLimit - 1 < appended.length := by omega
    -- the event before the first retained one
    have hgone := h.numbered _ _ (List.getElem?_eq_getElem hlength)
    refine ⟨after, hafter, _, List.getElem_mem hlength, by omega, fun hretained => ?_⟩
    have hnew := (h.mem_iff.mp hretained).2
    omega
  · rintro ⟨after, hafter, e, he, hlt, hgone⟩
    have hold : e.sequence + sessionEventLimit ≤ appended.length := not_lt.mp fun hnew => hgone (h.mem_iff.mpr ⟨he, hnew⟩)
    obtain ⟨first, hfirst, hnumber⟩ := h.exists_first (List.ne_nil_of_mem he)
    exact ⟨after, first, hafter, hfirst, by omega⟩

theorem catchesUp (h : Appended log appended) {afterSequence : Option ℤ} {page : EventPage}
    (hpage : IsPage log.events afterSequence page) : Polled.CatchesUp ⟨appended, log.events, afterSequence, page⟩ := by
  intro hall e he
  obtain ⟨last, hlast, hle⟩ := h.exists_last he
  by_cases hlater : position afterSequence < last.sequence
  · have hgiven := hpage.upTo last (hpage.rest hall last hlast hlater)
    exact le_trans (by exact_mod_cast hle) hgiven
  · exact (Int.ofNat_le.mpr hle).trans ((not_lt.mp hlater).trans hpage.le_next)

end Appended

/-! ### The client -/

/-- What holds of the feed of a client that started with `cursor`. -/
structure Feed.Fed (cursor : Option ℤ) (f : Feed) : Prop where
  appended : Appended f.log f.appended
  reached : f.cursor = cursor ∨ ∃ e ∈ f.appended, f.cursor = some (e.sequence : ℤ)
  started : position cursor ≤ position f.cursor
  given : ∀ e ∈ f.delivered, e ∈ f.appended ∧ position cursor < e.sequence ∧ (e.sequence : ℤ) ≤ position f.cursor
  increasing : f.delivered.Pairwise fun a b => a.sequence < b.sequence
  covered : ∀ e ∈ f.appended, position cursor < e.sequence → (e.sequence : ℤ) ≤ position f.cursor →
    e ∈ f.delivered ∨ ∃ p ∈ f.polls, p.Skips e
  polled : ∀ p ∈ f.polls, p.GapIsTrue ∧ p.CatchesUp

namespace Feed.Fed
variable {cursor : Option ℤ} {f : Feed}

theorem start (cursor : Option ℤ) : Fed cursor (.start cursor) where
  appended := .empty
  reached := .inl rfl
  started := le_rfl
  given e he := by simp [Feed.start] at he
  increasing := .nil
  covered e he := by simp [Feed.start] at he
  polled p hp := by simp [Feed.start] at hp

theorem append (h : Fed cursor f) (eventType : String) (reasonCode : Option String) (payload : Json) (origin : String)
    (occurredAt : Timestamp) : Fed cursor (f.step (.append eventType reasonCode payload origin occurredAt)) where
  appended := h.appended.append eventType reasonCode payload origin occurredAt
  reached := h.reached.imp_right fun ⟨e, he, heq⟩ => ⟨e, List.mem_append_left _ he, heq⟩
  started := h.started
  given e he := (h.given e he).imp_left (List.mem_append_left _)
  increasing := h.increasing
  covered e he hlater hle := by
    rcases List.mem_append.mp he with he | he
    · exact h.covered e he hlater hle
    -- the new event is after the cursor
    obtain rfl := List.mem_singleton.mp he
    have hnumber : (f.log.newEvent eventType reasonCode payload origin occurredAt).sequence = f.appended.length + 1 :=
      h.appended.next
    change _ ≤ position f.cursor at hle
    rcases h.reached with hcursor | ⟨e, he, hcursor⟩
    · rw [hcursor] at hle
      exact absurd hle (not_le.mpr hlater)
    · have hbound := h.appended.sequence_le he
      rw [hcursor, position, Option.getD_some] at hle
      omega
  polled := h.polled

/-- An answered poll. -/
theorem poll (h : Fed cursor f) {page : EventPage} (hpage : IsPage f.log.events f.cursor page) :
    Fed cursor { f with
      cursor := page.nextAfterSequence
      delivered := f.delivered ++ page.events
      polls := f.polls ++ [⟨f.appended, f.log.events, f.cursor, page⟩] } where
  appended := h.appended
  reached := by
    rcases hpage.next with hnext | ⟨e, he, hnext⟩
    · rcases h.reached with hcursor | ⟨e, he, hcursor⟩
      · exact .inl (hnext.trans hcursor)
      · exact .inr ⟨e, he, hnext.trans hcursor⟩
    · exact .inr ⟨e, (h.appended.mem_iff.mp (hpage.sublist.subset he)).1, hnext⟩
  started := h.started.trans hpage.le_next
  given e he := by
    rcases List.mem_append.mp he with he | he
    · obtain ⟨happended, hlater, hle⟩ := h.given e he
      exact ⟨happended, hlater, hle.trans hpage.le_next⟩
    · exact ⟨(h.appended.mem_iff.mp (hpage.sublist.subset he)).1, h.started.trans_lt (hpage.later e he), hpage.upTo e he⟩
  increasing := by
    refine List.pairwise_append.mpr ⟨h.increasing, f.log.increasing.sublist hpage.sublist, fun a ha b hb => ?_⟩
    have ha := (h.given a ha).2.2
    have hb := hpage.later b hb
    omega
  covered e he hlater hle := by
    by_cases hbefore : (e.sequence : ℤ) ≤ position f.cursor
    · rcases h.covered e he hlater hbefore with hgiven | ⟨p, hp, hskips⟩
      · exact .inl (List.mem_append_left _ hgiven)
      · exact .inr ⟨p, List.mem_append_left _ hp, hskips⟩
    have hafter := not_le.mp hbefore
    by_cases hretained : e ∈ f.log.events
    · exact .inl (List.mem_append_right _ (hpage.complete e hretained hafter hle))
    · exact .inr ⟨_, List.mem_append_right _ (List.mem_singleton_self _), hafter, hle, he, hretained⟩
  polled p hp := by
    rcases List.mem_append.mp hp with hp | hp
    · exact h.polled p hp
    · obtain rfl := List.mem_singleton.mp hp
      exact ⟨h.appended.gapIsTrue hpage, h.appended.catchesUp hpage⟩

theorem step (h : Fed cursor f) (action : FeedAction) : Fed cursor (f.step action) := by
  cases action with
  | append eventType reasonCode payload origin occurredAt => exact h.append eventType reasonCode payload origin occurredAt
  | poll limit =>
    cases hpage : eventPage f.log.events f.cursor limit with
    | error e => simpa only [Feed.step, hpage] using h
    | ok page => simpa only [Feed.step, hpage] using h.poll (eventPage_isPage f.log.positive f.log.increasing hpage)

end Feed.Fed

namespace Feed

end Feed

end IRLight
