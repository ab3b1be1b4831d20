import IRLight.NodeAgent.MediaStop
import Mathlib.Data.List.Count
import Mathlib.Logic.Function.Basic

/-! # The media stack is stopped before the agent returns

The two threads never stop the media stack at the same time, and no stop follows one that succeeded. A run of the agent that
returns 0 has stopped the stack; whether the stack stays stopped depends on when the start took effect. -/

namespace IRLight.MediaStop

variable {hooks : Hooks} {s s' : State} {a : Action} {t : Thread} {p : StopPoint} {p' : Option StopPoint} {m m' : Media}
  {outcome : Outcome} {answer : Answer} {call : Option StopPoint} {point : Thread → Option StopPoint}

/-! ### What `_stop_media_once` keeps -/

/-- A successful stop took effect, whether or not its result is stored. -/
def Stopped (m : Media) (call : Option StopPoint) : Prop := m.mediaStopResult = some true ∨ call = some (.effected .ok)

/-- The effects after a successful stop. -/
structure StoppedOnce (effects after : List Effect) : Prop where
  split : ∃ before, effects = after ++ .stop .ok :: before ∧ .stop .ok ∉ before
  starts : ∀ e ∈ after, e = .start

/-- What holds of the shared attributes when the thread with the lock is at `call`. -/
structure Sound (m : Media) (call : Option StopPoint) : Prop where
  attempted : m.mediaStopAttempted = true ↔ m.mediaStopResult ≠ none ∨ call = some .calling ∨
    (∃ o, call = some (.effected o)) ∨ ∃ o, call = some (.stored o)
  unanswered : call = some .calling ∨ (∃ o, call = some (.effected o)) ∨ call = some (.stored .raised) →
    m.mediaStopResult = none
  stored : ∀ o, call = some (.stored o) → o ≠ .raised → m.mediaStopResult ≠ none
  raised : call = some (.stored .raised) → m.mediaStopError = true
  tried : call = some .readFinished → m.mediaStartAttempted = true
  stopped : Stopped m call → ∃ after, StoppedOnce m.effects after
  unstopped : ¬Stopped m call → .stop .ok ∉ m.effects

theorem Sound.enter (h : Sound m none) (t : Thread) :
    Sound { m with mediaStopLock := some t, mediaStopRequested := true } (some .readStarted) where
  attempted := by simpa using h.attempted
  unanswered := by simp
  stored := by simp
  raised := by simp
  tried := by simp
  stopped hstopped := h.stopped (by simpa [Stopped] using hstopped)
  unstopped hstopped := h.unstopped (by simpa [Stopped] using hstopped)

/-- The step of a thread in the lock. -/
theorem Sound.step (h : Sound m (some p)) (hp : p ≠ .enter) (hstep : stopMediaOnce t outcome m p = some (m', p')) :
    Sound m' p' := by
  obtain ⟨hattempted, hunanswered, hstored, hraised, htried, hstopped, hunstopped⟩ := h
  cases p with
  | enter => exact absurd rfl hp
  | readStarted =>
    obtain ⟨rfl, rfl⟩ := Prod.mk.inj (Option.some.inj hstep)
    cases hstarted : m.mediaStarted <;> constructor <;> simp_all [Stopped]
  | readAttempted =>
    obtain ⟨rfl, rfl⟩ := Prod.mk.inj (Option.some.inj hstep)
    cases hstarted : m.mediaStartAttempted <;> constructor <;> simp_all [Stopped]
  | readFinished =>
    simp only [stopMediaOnce] at hstep
    split at hstep <;> obtain ⟨rfl, rfl⟩ := Prod.mk.inj (Option.some.inj hstep) <;>
      constructor <;> simp_all [Stopped, Media.release]
  | checkOnce =>
    simp only [stopMediaOnce] at hstep
    split at hstep <;> obtain ⟨rfl, rfl⟩ := Prod.mk.inj (Option.some.inj hstep) <;>
      constructor <;> simp_all [Stopped, Media.release]
  | calling =>
    obtain ⟨rfl, rfl⟩ := Prod.mk.inj (Option.some.inj hstep)
    have hnone : m.mediaStopResult = none := hunanswered (.inl rfl)
    have hnot : .stop .ok ∉ m.effects := hunstopped (by simp [Stopped, hnone])
    refine ⟨by simp_all, by simp_all, by simp, by simp, by simp, fun hstop => ?_, fun hstop => ?_⟩
    · obtain rfl : outcome = .ok := by simpa [Stopped, hnone] using hstop
      exact ⟨[], ⟨m.effects, rfl, hnot⟩, by simp⟩
    · have houtcome : outcome ≠ .ok := fun heq => hstop (.inr (by rw [heq]))
      simpa [houtcome.symm] using hnot
  | effected o =>
    have hnone : m.mediaStopResult = none := hunanswered (.inr (.inl ⟨o, rfl⟩))
    cases o <;> obtain ⟨rfl, rfl⟩ := Prod.mk.inj (Option.some.inj hstep) <;> constructor <;> simp_all [Stopped]
  | stored o =>
    cases o <;> obtain ⟨rfl, rfl⟩ := Prod.mk.inj (Option.some.inj hstep) <;> constructor <;>
      simp_all [Stopped, Media.release]

/-! ### The lock -/

/-- A thread has the lock where it is past the entry of `_stop_media_once`, and what the attributes say is sound. -/
structure Held (m : Media) (point : Thread → Option StopPoint) : Prop where
  holder : ∀ t, m.mediaStopLock = some t ↔ ∃ p, point t = some p ∧ p ≠ .enter
  sound : Sound m (m.mediaStopLock.bind point)

/-- Only one thread is in `_stop_media_once` past its entry. -/
theorem Held.exclusive (h : Held m point) {t t' : Thread} {p q : StopPoint} (ht : point t = some p) (hp : p ≠ .enter)
    (ht' : point t' = some q) (hq : q ≠ .enter) : t = t' := by
  have hlock := (h.holder t).mpr ⟨p, ht, hp⟩
  rw [(h.holder t').mpr ⟨q, ht', hq⟩] at hlock
  exact (Option.some.inj hlock).symm

theorem stopMediaOnce_enter (hstep : stopMediaOnce t outcome m .enter = some (m', p')) :
    m.mediaStopLock = none ∧ m' = { m with mediaStopLock := some t, mediaStopRequested := true } ∧ p' = some .readStarted := by
  simp only [stopMediaOnce] at hstep
  split at hstep
  · rename_i hfree
    obtain ⟨rfl, rfl⟩ := Prod.mk.inj (Option.some.inj hstep)
    exact ⟨hfree, rfl, rfl⟩
  · cases hstep

/-- A thread in the lock keeps it until it leaves `_stop_media_once`. -/
theorem stopMediaOnce_lock (hp : p ≠ .enter) (hstep : stopMediaOnce t outcome m p = some (m', p')) :
    (∃ q, p' = some q ∧ q ≠ .enter ∧ m'.mediaStopLock = m.mediaStopLock) ∨ p' = none ∧ m'.mediaStopLock = none := by
  cases p with
  | enter => exact absurd rfl hp
  | effected o => cases o <;> obtain ⟨rfl, rfl⟩ := Prod.mk.inj (Option.some.inj hstep) <;> simp
  | stored o => cases o <;> obtain ⟨rfl, rfl⟩ := Prod.mk.inj (Option.some.inj hstep) <;> simp [Media.release]
  | readFinished =>
    simp only [stopMediaOnce] at hstep
    split at hstep <;> obtain ⟨rfl, rfl⟩ := Prod.mk.inj (Option.some.inj hstep) <;> simp [Media.release]
  | checkOnce =>
    simp only [stopMediaOnce] at hstep
    split at hstep <;> obtain ⟨rfl, rfl⟩ := Prod.mk.inj (Option.some.inj hstep) <;> simp [Media.release]
  | readStarted =>
    obtain ⟨rfl, rfl⟩ := Prod.mk.inj (Option.some.inj hstep)
    cases m.mediaStarted <;> simp
  | readAttempted =>
    obtain ⟨rfl, rfl⟩ := Prod.mk.inj (Option.some.inj hstep)
    cases m.mediaStartAttempted <;> simp
  | calling =>
    obtain ⟨rfl, rfl⟩ := Prod.mk.inj (Option.some.inj hstep)
    simp

/-- What is sound for a thread that takes a step of `_stop_media_once`. -/
theorem Held.soundAt (h : Held m point) (hpoint : point t = some p) (hstep : stopMediaOnce t outcome m p = some (m', p')) :
    Sound m (some p) := by
  have hsound := h.sound
  by_cases hp : p = .enter
  · subst hp
    rw [(stopMediaOnce_enter hstep).1] at hsound
    obtain ⟨hattempted, -, -, -, -, hstopped, hunstopped⟩ := hsound
    exact ⟨by simpa using hattempted, by simp, by simp, by simp, by simp, by simpa [Stopped] using hstopped,
      by simpa [Stopped] using hunstopped⟩
  · rwa [(h.holder t).mpr ⟨p, hpoint, hp⟩, Option.bind_some, hpoint] at hsound

/-- A step of `_stop_media_once` by a thread. -/
theorem Held.step (h : Held m point) (hpoint : point t = some p) (hstep : stopMediaOnce t outcome m p = some (m', p')) :
    Held m' (Function.update point t p') := by
  by_cases hp : p = .enter
  · subst hp
    obtain ⟨hfree, rfl, rfl⟩ := stopMediaOnce_enter hstep
    have hsound := h.sound
    rw [hfree] at hsound
    refine ⟨fun t' => ?_, ?_⟩
    · by_cases ht : t' = t
      · subst ht
        simp
      · have hother := h.holder t'
        rw [hfree] at hother
        simpa [Function.update_of_ne ht, Ne.symm ht] using hother
    · simpa using hsound.enter t
  · have hlock := (h.holder t).mpr ⟨p, hpoint, hp⟩
    have hsound := h.sound
    rw [hlock, Option.bind_some, hpoint] at hsound
    have hsound' := hsound.step hp hstep
    have hothers : ∀ t' ≠ t, ¬∃ q, point t' = some q ∧ q ≠ .enter :=
      fun t' ht ⟨q, hq, hne⟩ => ht (h.exclusive hq hne hpoint hp)
    rcases stopMediaOnce_lock hp hstep with ⟨q, rfl, hq, hsame⟩ | ⟨rfl, hnone⟩
    · refine ⟨fun t' => ?_, by simpa [hsame, hlock] using hsound'⟩
      by_cases ht : t' = t
      · subst ht
        simp [hsame, hlock, hq]
      · simp [hsame, hlock, Function.update_of_ne ht, hothers t' ht, Ne.symm ht]
    · refine ⟨fun t' => ?_, by simpa [hnone] using hsound'⟩
      by_cases ht : t' = t
      · subst ht
        simp [hnone]
      · simpa [hnone, Function.update_of_ne ht] using hothers t' ht

/-- What the threads do outside `_stop_media_once` leaves the lock, and what is sound stays so. -/
theorem Held.outside {point' : Thread → Option StopPoint} (h : Held m point)
    (hpoint : ∀ t, point' t = point t ∨ (point t = none ∧ point' t = some .enter))
    (hlock : m'.mediaStopLock = m.mediaStopLock) (hsound : ∀ call, Sound m call → Sound m' call) : Held m' point' := by
  have hsame : ∀ t p, p ≠ .enter → (point' t = some p ↔ point t = some p) := by
    intro t p hp
    rcases hpoint t with heq | ⟨hnone, henter⟩
    · rw [heq]
    · simp [hnone, henter, hp.symm]
  refine ⟨fun t => ?_, ?_⟩
  · rw [hlock, h.holder t]
    exact exists_congr fun p => and_congr_left fun hp => (hsame t p hp).symm
  · have hcall := hsound _ h.sound
    rw [hlock]
    cases hholder : m.mediaStopLock with
    | none =>
      rw [hholder] at hcall
      exact hcall
    | some t =>
      obtain ⟨p, hp, hne⟩ := (h.holder t).mp hholder
      rw [hholder, Option.bind_some, hp] at hcall
      rw [Option.bind_some, (hsame t p hne).mpr hp]
      exact hcall

/-! ### How a stop ends -/

/-- What a step of `_stop_media_once` leaves alone. -/
theorem stopMediaOnce_frame (hstep : stopMediaOnce t outcome m p = some (m', p')) :
    m'.shutdownEvent = m.shutdownEvent ∧ m'.mediaStartAttempted = m.mediaStartAttempted ∧
      m'.mediaStartFinished = m.mediaStartFinished ∧ m'.effects.count .start = m.effects.count .start := by
  cases p with
  | effected o => cases o <;> obtain ⟨rfl, rfl⟩ := Prod.mk.inj (Option.some.inj hstep) <;> simp
  | stored o => cases o <;> obtain ⟨rfl, rfl⟩ := Prod.mk.inj (Option.some.inj hstep) <;> simp [Media.release]
  | enter =>
    obtain ⟨-, rfl, -⟩ := stopMediaOnce_enter hstep
    simp
  | readFinished =>
    simp only [stopMediaOnce] at hstep
    split at hstep <;> obtain ⟨rfl, rfl⟩ := Prod.mk.inj (Option.some.inj hstep) <;> simp [Media.release]
  | checkOnce =>
    simp only [stopMediaOnce] at hstep
    split at hstep <;> obtain ⟨rfl, rfl⟩ := Prod.mk.inj (Option.some.inj hstep) <;> simp [Media.release]
  | _ =>
    obtain ⟨rfl, rfl⟩ := Prod.mk.inj (Option.some.inj hstep)
    simp

/-- A result that is stored stays, and an error goes only where there is a result. -/
theorem Sound.kept (h : Sound m (some p)) (hstep : stopMediaOnce t outcome m p = some (m', p')) :
    (m.mediaStopResult ≠ none → m'.mediaStopResult = m.mediaStopResult) ∧
      (m.mediaStopError = true ∨ m.mediaStopResult ≠ none → m'.mediaStopError = true ∨ m'.mediaStopResult ≠ none) := by
  obtain ⟨-, hunanswered, hstored, -⟩ := h
  cases p with
  | effected o =>
    have hnone : m.mediaStopResult = none := hunanswered (.inr (.inl ⟨o, rfl⟩))
    cases o <;> obtain ⟨rfl, rfl⟩ := Prod.mk.inj (Option.some.inj hstep) <;> simp [hnone]
  | stored o =>
    cases o with
    | ok =>
      obtain ⟨rfl, rfl⟩ := Prod.mk.inj (Option.some.inj hstep)
      exact ⟨fun _ => rfl, fun _ => .inr (hstored .ok rfl (by decide))⟩
    | failed =>
      obtain ⟨rfl, rfl⟩ := Prod.mk.inj (Option.some.inj hstep)
      exact ⟨fun _ => rfl, id⟩
    | raised =>
      obtain ⟨rfl, rfl⟩ := Prod.mk.inj (Option.some.inj hstep)
      exact ⟨fun _ => rfl, id⟩
  | enter =>
    obtain ⟨-, rfl, -⟩ := stopMediaOnce_enter hstep
    exact ⟨fun _ => rfl, id⟩
  | readFinished =>
    simp only [stopMediaOnce] at hstep
    split at hstep <;> obtain ⟨rfl, rfl⟩ := Prod.mk.inj (Option.some.inj hstep) <;> simp [Media.release]
  | checkOnce =>
    simp only [stopMediaOnce] at hstep
    split at hstep <;> obtain ⟨rfl, rfl⟩ := Prod.mk.inj (Option.some.inj hstep) <;> simp [Media.release]
  | _ =>
    obtain ⟨rfl, rfl⟩ := Prod.mk.inj (Option.some.inj hstep)
    exact ⟨fun _ => rfl, id⟩

/-- A thread that finds no start under way leaves `_stop_media_once` with a result or an error. -/
theorem Sound.left (h : Sound m (some p)) (hfinished : m.mediaStartAttempted = true → m.mediaStartFinished = true)
    (hstep : stopMediaOnce t outcome m p = some (m', none)) : m'.mediaStopError = true ∨ m'.mediaStopResult ≠ none := by
  obtain ⟨hattempted, -, hstored, hraised, htried, -⟩ := h
  cases p with
  | effected o => cases o <;> cases (Prod.mk.inj (Option.some.inj hstep)).2
  | stored o =>
    cases o with
    | ok =>
      obtain ⟨rfl, -⟩ := Prod.mk.inj (Option.some.inj hstep)
      exact .inr (hstored .ok rfl (by decide))
    | failed =>
      obtain ⟨rfl, -⟩ := Prod.mk.inj (Option.some.inj hstep)
      exact .inr (hstored .failed rfl (by decide))
    | raised =>
      obtain ⟨rfl, -⟩ := Prod.mk.inj (Option.some.inj hstep)
      exact .inl (hraised rfl)
  | enter => cases (stopMediaOnce_enter hstep).2.2
  | readFinished =>
    have hdone := hfinished (htried rfl)
    simp [stopMediaOnce, hdone] at hstep
  | checkOnce =>
    simp only [stopMediaOnce] at hstep
    split at hstep
    · rename_i hattempt
      obtain ⟨rfl, -⟩ := Prod.mk.inj (Option.some.inj hstep)
      exact .inr (by simpa [Media.release] using hattempted.mp hattempt)
    · cases (Prod.mk.inj (Option.some.inj hstep)).2
  | _ => cases (Prod.mk.inj (Option.some.inj hstep)).2

/-! ### The invariant -/

/-- The start was attempted, and the agent does not know yet that it has finished. -/
@[simp] def Main.startUnderWay : Main → Bool
  | arm | starting _ | startFailed | startDone => true
  | _ => false

/-- The start has not taken effect. -/
@[simp] def Main.beforeStart : Main → Bool
  | prepare | firstCheck | preMediaStart | secondCheck | attempt | arm | starting false => true
  | _ => false

/-- The main thread has not passed its last check of the shutdown event. -/
@[simp] def Main.beforeCheck : Main → Bool
  | prepare | firstCheck | preMediaStart | secondCheck => true
  | _ => false

/-- What the end of `run` knows of the stop. -/
@[simp] def Closing (m : Media) (exitCode : ℕ) : Main → Prop
  | .readError => m.mediaStopError = true ∨ m.mediaStopResult ≠ none
  | .readResult => m.mediaStopResult ≠ none
  | .postMediaStop | .removeSecret | .returned | .raised => exitCode ≠ 0 ∨ m.mediaStopResult = some true
  | _ => True

structure Inv (s : State) : Prop where
  held : Held s.media s.point
  absent : s.main = .prepare → s.watchdog = .absent
  finished : s.main.startUnderWay = false → s.media.mediaStartAttempted = true → s.media.mediaStartFinished = true
  unstarted : s.main.beforeStart = true → s.media.effects.count .start = 0
  startedOnce : s.media.effects.count .start ≤ 1
  closing : Closing s.media s.exitCode s.main
  calm : s.main.beforeStart = true → s.exitCode = 0 ∧ s.raising = false
  armed : s.watchdog = .absent ∨ s.watchdog = .waiting ∨ s.media.shutdownEvent = true

theorem inv_initial : Inv .initial where
  held := ⟨fun t => by cases t <;> simp [State.initial, Media.initial, State.point, Main.point, Watchdog.point],
    by constructor <;> simp [State.initial, Media.initial, Stopped]⟩
  absent _ := rfl
  finished := by simp [State.initial, Media.initial]
  unstarted := by simp [State.initial, Media.initial]
  startedOnce := by simp [State.initial, Media.initial]
  closing := trivial
  calm _ := ⟨rfl, rfl⟩
  armed := .inl rfl

/-- Something happens to the shared attributes on behalf of the main thread, outside `_stop_media_once`. -/
theorem Sound.shutdown (h : Sound m call) : Sound m.shutdown call := { h with }

theorem Sound.effect (h : Sound m call) : Sound { m with effects := .start :: m.effects } call where
  attempted := h.attempted
  unanswered := h.unanswered
  stored := h.stored
  raised := h.raised
  tried := h.tried
  stopped hstopped := by
    obtain ⟨after, ⟨before, heffects, hbefore⟩, hafter⟩ := h.stopped hstopped
    exact ⟨.start :: after, ⟨before, by rw [heffects, List.cons_append], hbefore⟩, by simpa using hafter⟩
  unstopped hstopped := by simpa using h.unstopped hstopped

/-- A step of the main thread outside `_stop_media_once`. -/
theorem Inv.outside (h : Inv s) (hwatchdog : s'.watchdog.point = s.watchdog.point) (hpoint : s.main.point = none)
    (hpoint' : s'.main.point = none ∨ s'.main.point = some .enter) (hlock : s'.media.mediaStopLock = s.media.mediaStopLock)
    (hsound : ∀ call, Sound s.media call → Sound s'.media call) : Held s'.media s'.point := by
  refine h.held.outside (fun t => ?_) hlock hsound
  cases t with
  | watchdog => exact .inl (by rw [State.point, State.point, hwatchdog])
  | main =>
    rcases hpoint' with hnone | henter
    · exact .inl (by rw [State.point, State.point, hnone, hpoint])
    · exact .inr ⟨hpoint, henter⟩

/-- A step of `_stop_media_once` on the main thread. -/
theorem Inv.stopOnMain {inside : StopPoint → Main} {after : Main} (h : Inv s) (hpoint : s.main.point = some p)
    (hinside : ∀ q, (inside q).point = some q) (hafter : after.point = none)
    (hunder : s.main.startUnderWay = false) (hstep : s.stopOnMain outcome p inside after = some s') :
    Held s'.media s'.point ∧ s'.media.effects.count .start = s.media.effects.count .start ∧
      (s'.media.mediaStartAttempted = true → s'.media.mediaStartFinished = true) ∧
      ((∃ q, s'.main = inside q) ∨ s'.main = after ∧ (s'.media.mediaStopError = true ∨ s'.media.mediaStopResult ≠ none)) := by
  obtain ⟨⟨m', p'⟩, hcall, rfl⟩ := Option.map_eq_some_iff.mp hstep
  have hmain : s.point .main = some p := hpoint
  have hheld := h.held.step hmain hcall
  have hsound := h.held.soundAt hmain hcall
  have hframe := stopMediaOnce_frame hcall
  have hsame : State.point { s with media := m', main := p'.elim after inside } = Function.update s.point .main p' := by
    funext t
    cases t with
    | watchdog => simp [State.point]
    | main =>
      cases p' with
      | none => exact hafter
      | some q => exact hinside q
  refine ⟨by rwa [hsame], hframe.2.2.2, ?_, ?_⟩
  · rw [hframe.2.1, hframe.2.2.1]
    exact h.finished hunder
  · cases p' with
    | some q => exact .inl ⟨q, rfl⟩
    | none => exact .inr ⟨rfl, hsound.left (h.finished hunder) hcall⟩

/-- A step of the watchdog in `_stop_media_once`. -/
theorem Inv.stopOnWatchdog (h : Inv s) (hpoint : s.watchdog.point = some p)
    (hcall : stopMediaOnce .watchdog outcome s.media p = some (m', p')) :
    Inv { s with media := m', watchdog := p'.elim .ended .stopping } := by
  have hwatchdog : s.point .watchdog = some p := hpoint
  have hheld := h.held.step hwatchdog hcall
  obtain ⟨hresult, hanswer⟩ := (h.held.soundAt hwatchdog hcall).kept hcall
  obtain ⟨hshutdown, hattempted, hfinished, hcount⟩ := stopMediaOnce_frame hcall
  have hset : s.media.shutdownEvent = true := by
    rcases h.armed with heq | heq | hset
    · simp [heq] at hpoint
    · simp [heq] at hpoint
    · exact hset
  have hsame : State.point { s with media := m', watchdog := p'.elim .ended .stopping } =
      Function.update s.point .watchdog p' := by
    funext t
    cases t with
    | main => simp [State.point]
    | watchdog => cases p' <;> simp [State.point, Watchdog.point]
  refine ⟨by rwa [hsame], fun hmain => ?_, ?_, ?_, ?_, ?_, h.calm, .inr (.inr (hshutdown.trans hset))⟩
  · rw [h.absent hmain] at hpoint
    cases hpoint
  · rw [hattempted, hfinished]
    exact h.finished
  · rw [hcount]
    exact h.unstarted
  · rw [hcount]
    exact h.startedOnce
  · have hclosing := h.closing
    cases hmain : s.main <;> simp only [hmain, Closing] at hclosing ⊢
    case readError => exact hanswer hclosing
    case readResult => rwa [hresult hclosing]
    case postMediaStop | removeSecret | returned | raised =>
      rcases hclosing with hexit | hstopped
      · exact .inl hexit
      · exact .inr (by rw [hresult (by simp [hstopped]), hstopped])

/-! ### The moves of the main thread -/

/-- The main thread goes on, and changes at most the shutdown event of what the threads share. -/
structure Quiet (s s' : State) : Prop where
  media : s'.media = s.media ∨ s'.media = s.media.shutdown
  watchdog : s'.watchdog = s.watchdog ∨ s.main = .prepare ∧ s'.watchdog = .waiting
  gone : s'.main ≠ .prepare
  point : s.main.point = none
  point' : s'.main.point = none ∨ s'.main.point = some .enter
  under : s'.main.startUnderWay = false → s.main.startUnderWay = false
  before : s'.main.beforeStart = true → s.main.beforeStart = true
  check : s'.main.beforeCheck = true → s.main.beforeCheck = true
  pending : s'.main.startPending = true → s.main = .secondCheck ∧ s.media.shutdownEvent = false
  closing : Closing s.media s.exitCode s.main → Closing s.media s'.exitCode s'.main
  calm : s'.main.beforeStart = true → s'.exitCode = s.exitCode ∧ s'.raising = s.raising

theorem Quiet.effects (h : Quiet s s') : s'.media.effects = s.media.effects := by
  rcases h.media with heq | heq <;> rw [heq]
  rfl

theorem Quiet.keepsShutdown (h : Quiet s s') (hset : s.media.shutdownEvent = true) : s'.media.shutdownEvent = true := by
  rcases h.media with heq | heq <;> rw [heq]
  · exact hset
  · rfl

inductive Move (s s' : State) : Prop where
  | quiet (h : Quiet s s')
  | attempt (hmain : s.main = .attempt) (hs' : s' = { s with media := { s.media with mediaStartAttempted := true }, main := .arm })
  | arm (hmain : s.main = .arm) (hs' : s' = { s with media := { s.media with mediaStarted := true }, main := .starting false })
  | effect (hmain : s.main = .starting false)
      (hs' : s' = { s with media := { s.media with effects := .start :: s.media.effects }, main := .starting true })
  | failed (hmain : s.main = .startFailed)
      (hs' : s' = { s with media := { s.media with mediaStartFinished := true }, exitCode := 1, main := .finish })
  | started (main' : Main) (hmain : s.main = .startDone) (hmain' : main' = .stopAfterStart .enter ∨ main' = .loop)
      (hs' : s' = { s with media := { s.media with mediaStarted := true, mediaStartFinished := true }, main := main' })
  | stop (inside : StopPoint → Main) (after : Main) (p : StopPoint) (outcome : Outcome)
      (hinside : (inside, after) = (.stopAfterStart, .loop) ∨ (inside, after) = (.firstStop, .join) ∨
        (inside, after) = (.secondStop, .readError))
      (hmain : s.main = inside p) (hstep : s.stopOnMain outcome p inside after = some s')

theorem runStep_move (hstep : runStep hooks s answer = some s') : Move s s' := by
  cases hmain : s.main with
  | attempt =>
    cases answer <;> simp only [runStep, hmain, reduceCtorEq, Option.some.injEq] at hstep
    exact .attempt hmain hstep.symm
  | arm =>
    cases answer <;> simp only [runStep, hmain, reduceCtorEq, Option.ite_none_right_eq_some, Option.some.injEq] at hstep
    exact .arm hmain hstep.2.symm
  | starting effective =>
    cases answer with
    | takesEffect =>
      cases effective <;> simp only [runStep, hmain, reduceCtorEq, Option.some.injEq] at hstep
      exact .effect hmain hstep.symm
    | starts o =>
      cases o <;> simp only [runStep, hmain, Option.some.injEq] at hstep <;> subst hstep <;> exact .quiet (by constructor <;> simp [hmain])
    | _ => cases effective <;> simp only [runStep, hmain, reduceCtorEq] at hstep
  | startFailed =>
    cases answer <;> simp only [runStep, hmain, reduceCtorEq, Option.some.injEq] at hstep
    exact .failed hmain hstep.symm
  | startDone =>
    cases answer <;> simp only [runStep, hmain, reduceCtorEq, Option.ite_none_right_eq_some, Option.some.injEq] at hstep
    refine .started _ hmain ?_ hstep.2.symm
    split
    · exact .inl rfl
    · exact .inr rfl
  | stopAfterStart p =>
    cases answer <;> simp only [runStep, hmain, reduceCtorEq] at hstep
    exact .stop .stopAfterStart .loop p _ (.inl rfl) hmain hstep
  | firstStop p =>
    cases answer <;> simp only [runStep, hmain, reduceCtorEq] at hstep
    exact .stop .firstStop .join p _ (.inr (.inl rfl)) hmain hstep
  | secondStop p =>
    cases answer <;> simp only [runStep, hmain, reduceCtorEq] at hstep
    exact .stop .secondStop .readError p _ (.inr (.inr rfl)) hmain hstep
  | prepare =>
    cases answer <;> simp only [runStep, hmain, reduceCtorEq, Option.some.injEq] at hstep <;> subst hstep <;>
      exact .quiet (by constructor <;> simp [hmain])
  | firstCheck =>
    cases answer <;> simp only [runStep, hmain, reduceCtorEq, Option.some.injEq] at hstep
    subst hstep
    split <;> exact .quiet (by constructor <;> simp [hmain])
  | preMediaStart =>
    cases answer <;> simp only [runStep, hmain, reduceCtorEq, Option.some.injEq] at hstep <;> subst hstep <;>
      exact .quiet (by constructor <;> simp [hmain])
  | secondCheck =>
    cases answer <;> simp only [runStep, hmain, reduceCtorEq, Option.some.injEq] at hstep
    subst hstep
    split <;> exact .quiet (by constructor <;> simp_all)
  | loop =>
    cases answer <;> simp only [runStep, hmain, reduceCtorEq, Option.some.injEq] at hstep
    subst hstep
    split <;> exact .quiet (by constructor <;> simp [hmain])
  | heartbeat =>
    cases answer with
    | beats beat =>
      cases beat <;> simp only [runStep, hmain, Option.some.injEq] at hstep <;> subst hstep <;>
        exact .quiet (by constructor <;> simp [hmain])
    | _ => simp only [runStep, hmain, reduceCtorEq] at hstep
  | readError =>
    cases answer <;> simp only [runStep, hmain, reduceCtorEq, Option.some.injEq] at hstep
    subst hstep
    split <;> exact .quiet (by constructor <;> simp_all)
  | readResult =>
    cases answer <;> simp only [runStep, hmain, reduceCtorEq, Option.some.injEq] at hstep
    subst hstep
    cases hresult : s.media.mediaStopResult with
    | none => exact .quiet (by constructor <;> simp [hmain, hresult])
    | some ok => cases ok <;> exact .quiet (by constructor <;> simp [hmain, hresult])
  | postMediaStop =>
    cases answer <;> simp only [runStep, hmain, reduceCtorEq, Option.ite_none_right_eq_some, Option.some.injEq] at hstep
    · subst hstep
      split <;> exact .quiet (by constructor <;> simp [hmain])
    · obtain ⟨-, rfl⟩ := hstep
      exact .quiet (by constructor <;> simp [hmain])
  | removeSecret =>
    cases answer <;> simp only [runStep, hmain, reduceCtorEq, Option.some.injEq] at hstep <;> subst hstep
    · split <;> exact .quiet (by constructor <;> simp [hmain])
    · exact .quiet (by constructor <;> simp [hmain])
  | finish | join =>
    cases answer <;> simp only [runStep, hmain, reduceCtorEq, Option.some.injEq] at hstep
    subst hstep
    exact .quiet (by constructor <;> simp [hmain])
  | returned | raised => cases answer <;> simp only [runStep, hmain, reduceCtorEq] at hstep

/-- A step of the main thread. -/
theorem Inv.move (h : Inv s) (hmove : Move s s') : Inv s' := by
  cases hmove with
  | quiet hq =>
    have hpoint : s'.watchdog.point = s.watchdog.point := by
      rcases hq.watchdog with heq | ⟨hmain, heq⟩
      · rw [heq]
      · rw [heq, h.absent hmain]
        rfl
    have hlock : s'.media.mediaStopLock = s.media.mediaStopLock := by
      rcases hq.media with heq | heq <;> rw [heq]
      rfl
    refine ⟨h.outside hpoint hq.point hq.point' hlock fun call hsound => ?_, ?_, fun hstart => ?_, fun hstart => ?_, ?_, ?_,
      fun hstart => ?_, ?_⟩
    · rcases hq.media with heq | heq <;> rw [heq]
      · exact hsound
      · exact hsound.shutdown
    · exact fun hmain => absurd hmain hq.gone
    · have hfinished := h.finished (hq.under hstart)
      rcases hq.media with heq | heq <;> rw [heq] <;> exact hfinished
    · have hcount := h.unstarted (hq.before hstart)
      rcases hq.media with heq | heq <;> rw [heq] <;> exact hcount
    · have hcount := h.startedOnce
      rcases hq.media with heq | heq <;> rw [heq] <;> exact hcount
    · have hclosing := hq.closing h.closing
      rcases hq.media with heq | heq <;> rw [heq]
      · exact hclosing
      · cases hmain : s'.main <;> rw [hmain] at hclosing <;> exact hclosing
    · obtain ⟨hexit, hraising⟩ := hq.calm hstart
      rw [hexit, hraising]
      exact h.calm (hq.before hstart)
    · rcases hq.watchdog with heq | ⟨-, heq⟩
      · rw [heq]
        exact h.armed.imp id (.imp id hq.keepsShutdown)
      · exact .inr (.inl heq)
  | attempt hmain hs' =>
    subst hs'
    refine ⟨h.outside rfl (by rw [hmain]; rfl) (.inl rfl) rfl fun call hsound => { hsound with tried := fun _ => rfl }, ?_, ?_, ?_, ?_, ?_, ?_,
      h.armed⟩
    · simp
    · simp
    · exact fun _ => h.unstarted (by rw [hmain]; rfl)
    · exact h.startedOnce
    · trivial
    · exact fun _ => h.calm (by rw [hmain]; rfl)
  | arm hmain hs' =>
    subst hs'
    refine ⟨h.outside rfl (by rw [hmain]; rfl) (.inl rfl) rfl fun call hsound => { hsound with }, ?_, ?_, ?_, ?_, ?_, ?_, h.armed⟩
    · simp
    · simp
    · exact fun _ => h.unstarted (by rw [hmain]; rfl)
    · exact h.startedOnce
    · trivial
    · exact fun _ => h.calm (by rw [hmain]; rfl)
  | effect hmain hs' =>
    subst hs'
    have hcount := h.unstarted (by rw [hmain]; rfl)
    refine ⟨h.outside rfl (by rw [hmain]; rfl) (.inl rfl) rfl fun call hsound => hsound.effect, ?_, ?_, ?_, ?_, ?_, ?_, h.armed⟩
    · simp
    · simp
    · simp
    · simp [hcount]
    · trivial
    · simp
  | failed hmain hs' =>
    subst hs'
    refine ⟨h.outside rfl (by rw [hmain]; rfl) (.inl rfl) rfl fun call hsound => { hsound with }, ?_, ?_, ?_, ?_, ?_, ?_, h.armed⟩
    · simp
    · simp
    · simp
    · exact h.startedOnce
    · trivial
    · simp
  | started main' hmain hmain' hs' =>
    subst hs'
    have hpoint : main'.point = none ∨ main'.point = some .enter := by rcases hmain' with rfl | rfl <;> simp
    refine ⟨h.outside rfl (by rw [hmain]; rfl) hpoint rfl fun call hsound => { hsound with }, ?_, ?_, ?_, ?_, ?_, ?_, h.armed⟩
    · rcases hmain' with rfl | rfl <;> simp
    · simp
    · rcases hmain' with rfl | rfl <;> simp
    · exact h.startedOnce
    · rcases hmain' with rfl | rfl <;> trivial
    · rcases hmain' with rfl | rfl <;> simp
  | stop inside after p outcome hinside hmain hstep =>
    have hpoint : ∀ q, (inside q).point = some q := by
      intro q
      rcases hinside with heq | heq | heq <;> obtain ⟨rfl, rfl⟩ := Prod.mk.inj heq <;> rfl
    have hafter : after.point = none := by
      rcases hinside with heq | heq | heq <;> obtain ⟨-, rfl⟩ := Prod.mk.inj heq <;> rfl
    have hunder : ∀ q, (inside q).startUnderWay = false := by
      intro q
      rcases hinside with heq | heq | heq <;> obtain ⟨rfl, rfl⟩ := Prod.mk.inj heq <;> rfl
    obtain ⟨hheld, hcount, hfinished, hend⟩ := h.stopOnMain (hmain ▸ hpoint p) hpoint hafter (hmain ▸ hunder p) hstep
    have honce := h.startedOnce
    refine ⟨hheld, ?_, fun _ => hfinished, ?_, by rwa [hcount], ?_, ?_, ?_⟩
    · rcases hinside with heq | heq | heq <;> obtain ⟨rfl, rfl⟩ := Prod.mk.inj heq <;>
        rcases hend with ⟨q, hq⟩ | ⟨hq, -⟩ <;> simp [hq]
    · rcases hinside with heq | heq | heq <;> obtain ⟨rfl, rfl⟩ := Prod.mk.inj heq <;>
        rcases hend with ⟨q, hq⟩ | ⟨hq, -⟩ <;> simp [hq]
    · rcases hinside with heq | heq | heq <;> obtain ⟨rfl, rfl⟩ := Prod.mk.inj heq <;>
        rcases hend with ⟨q, hq⟩ | ⟨hq, hanswer⟩ <;> simp [hq]
      simpa using hanswer
    · rcases hinside with heq | heq | heq <;> obtain ⟨rfl, rfl⟩ := Prod.mk.inj heq <;>
        rcases hend with ⟨q, hq⟩ | ⟨hq, -⟩ <;> simp [hq]
    · obtain ⟨⟨m', p'⟩, hcall, rfl⟩ := Option.map_eq_some_iff.mp hstep
      rw [(stopMediaOnce_frame hcall).1]
      exact h.armed

theorem watchdogStep_cases (hstep : watchdogStep s outcome = some s') :
    (s.watchdog = .waiting ∧ (s' = s ∨ s.media.shutdownEvent = true ∧ s' = { s with watchdog := .stopping .enter })) ∨
      ∃ p m' p', s.watchdog = .stopping p ∧ stopMediaOnce .watchdog outcome s.media p = some (m', p') ∧
        s' = { s with media := m', watchdog := p'.elim .ended .stopping } := by
  unfold watchdogStep at hstep
  split at hstep
  · rename_i hwaiting
    split at hstep
    · rename_i hshutdown
      exact .inl ⟨hwaiting, .inr ⟨hshutdown, (Option.some.inj hstep).symm⟩⟩
    · exact .inl ⟨hwaiting, .inl (Option.some.inj hstep).symm⟩
  · rename_i p hstopping
    obtain ⟨⟨m', p'⟩, hcall, rfl⟩ := Option.map_eq_some_iff.mp hstep
    exact .inr ⟨p, m', p', hstopping, hcall, rfl⟩
  · cases hstep

/-- The watchdog leaves its loop. -/
theorem Inv.leaveLoop (h : Inv s) (hwaiting : s.watchdog = .waiting) (hset : s.media.shutdownEvent = true) :
    Inv { s with watchdog := .stopping .enter } := by
  refine ⟨h.held.outside (fun t => ?_) rfl fun call hsound => hsound, fun hmain => ?_, h.finished, h.unstarted,
    h.startedOnce, h.closing, h.calm, .inr (.inr hset)⟩
  · cases t with
    | main => exact .inl rfl
    | watchdog => exact .inr ⟨by simp [State.point, hwaiting], rfl⟩
  · have habsent := h.absent hmain
    rw [hwaiting] at habsent
    cases habsent

theorem Inv.shutdown (h : Inv s) : Inv { s with media := s.media.shutdown } := by
  have hclosing := h.closing
  refine ⟨h.held.outside (fun t => .inl rfl) rfl fun call hsound => hsound.shutdown, h.absent, h.finished, h.unstarted,
    h.startedOnce, ?_, h.calm, .inr (.inr rfl)⟩
  cases hmain : s.main <;> rw [hmain] at hclosing <;> exact hclosing

/-- A step of either thread, or the signal. -/
theorem Inv.step (h : Inv s) (hstep : step hooks s a = some s') : Inv s' := by
  cases a with
  | signal =>
    obtain rfl := Option.some.inj hstep
    exact h.shutdown
  | expire =>
    simp only [MediaStop.step, Option.ite_none_right_eq_some, Option.some.injEq] at hstep
    obtain ⟨hwaiting, rfl⟩ := hstep
    exact h.shutdown.leaveLoop hwaiting rfl
  | watchdog outcome =>
    rcases watchdogStep_cases hstep with ⟨hwaiting, rfl | ⟨hset, rfl⟩⟩ | ⟨p, m', p', hstopping, hcall, rfl⟩
    · exact h
    · exact h.leaveLoop hwaiting hset
    · exact h.stopOnWatchdog (by rw [hstopping]; rfl) hcall
  | main answer => exact h.move (runStep_move hstep)

theorem run_cons_eq_some {actions : List Action} (hrun : run hooks s (a :: actions) = some s') :
    ∃ s₁, step hooks s a = some s₁ ∧ run hooks s₁ actions = some s' := Option.bind_eq_some_iff.mp hrun

theorem Inv.run {actions : List Action} (h : Inv s) (hrun : run hooks s actions = some s') : Inv s' := by
  induction actions generalizing s with
  | nil =>
    obtain rfl := Option.some.inj hrun
    exact h
  | cons a actions ih =>
    obtain ⟨s₁, hstep, hrest⟩ := run_cons_eq_some hrun
    exact ih (h.step hstep) hrest

/-! ### Sample runs -/

namespace Sample

def lifecycle : Hooks := ⟨true, true⟩

/-- The main thread comes to its start. -/
def toStart : List Action := List.replicate 6 (.main .next)

/-- The Session ends by itself: the stack starts, and the main thread stops it. -/
def orderly : List Action :=
  toStart ++ [.main .takesEffect, .main (.starts .ok), .main .next, .main .next, .main (.beats .stops), .main .next] ++
    List.replicate 6 (.main (.stops .ok)) ++ [.main .next] ++ List.replicate 5 (.main (.stops .ok)) ++
    List.replicate 4 (.main .next)

/-- The deadline passes while the start is called, and the watchdog calls the stop. -/
def expired : List Action := toStart ++ [.expire] ++ List.replicate 3 (.watchdog .ok)

/-- The state after a run. -/
def after (actions : List Action) : State := (run lifecycle .initial actions).getD .initial

end Sample

/-! ### What a run does to the media stack -/

theorem Inv.notBoth (h : Inv s) : ¬(s.InStop .main ∧ s.InStop .watchdog) := by
  have hpast : ∀ t, s.InStop t → ∃ p, s.point t = some p ∧ p ≠ .enter := by
    rintro t (hcalling | ⟨o, heffected⟩)
    · exact ⟨_, hcalling, by simp⟩
    · exact ⟨_, heffected, by simp⟩
  rintro ⟨hmain, hwatchdog⟩
  obtain ⟨p, hp, hne⟩ := hpast _ hmain
  obtain ⟨q, hq, hne'⟩ := hpast _ hwatchdog
  cases h.held.exclusive hp hne hq hne'

/-- Where `run` returns 0, a stop has succeeded. -/
theorem Inv.stoppedOnce (h : Inv s) (hreturned : s.main = .returned) (hzero : s.exitCode = 0) :
    ∃ after, StoppedOnce s.media.effects after := by
  have hclosing := h.closing
  rw [hreturned] at hclosing
  exact h.held.sound.stopped (.inl (hclosing.resolve_left fun hne => hne hzero))

theorem StoppedOnce.short {effects after : List Effect} (h : StoppedOnce effects after) (honce : effects.count .start ≤ 1) :
    after = [] ∨ after = [.start] := by
  obtain ⟨⟨before, rfl, -⟩, hstarts⟩ := h
  have hcount : after.count .start = after.length := List.count_eq_length.mpr fun e he => (hstarts e he).symm
  rw [List.count_append, hcount] at honce
  match after, hstarts with
  | [], _ => exact .inl rfl
  | [e], hstarts => exact .inr (by rw [hstarts e List.mem_cons_self])
  | e :: e' :: rest, _ =>
    rw [List.length_cons, List.length_cons] at honce
    omega

/-- **The agent returns 0 only after it has stopped the media stack.** At every moment of every run, whatever the two threads,
the signals, the deadline, the supervisor and the hooks do: the threads are not both in `supervisor.stop`, at most one stop
has succeeded and at most one start taken effect. When `run` returns 0, a stop has succeeded, no other stop has been called
since, and at most a start came after it. -/
theorem returns_zero_stopped {actions : List Action} (hrun : run hooks .initial actions = some s) :
    ¬(s.InStop .main ∧ s.InStop .watchdog) ∧ s.media.effects.count (.stop .ok) ≤ 1 ∧ s.media.effects.count .start ≤ 1 ∧
      (s.main = .returned → s.exitCode = 0 →
        ∃ after before, s.media.effects = after ++ .stop .ok :: before ∧ .stop .ok ∉ before ∧
          (after = [] ∨ after = [.start])) := by
  have hinv := inv_initial.run hrun
  have hsound := hinv.held.sound
  refine ⟨hinv.notBoth, ?_, hinv.startedOnce, fun hreturned hzero => ?_⟩
  · by_cases hstopped : Stopped s.media (s.media.mediaStopLock.bind s.point)
    · obtain ⟨after, ⟨before, heffects, hbefore⟩, hafter⟩ := hsound.stopped hstopped
      have hnot : .stop .ok ∉ after := fun hmem => by cases hafter _ hmem
      have hcount : s.media.effects.count (.stop .ok) = 0 + (0 + 1) := by
        rw [heffects, List.count_append, List.count_cons_self, List.count_eq_zero_of_not_mem hbefore,
          List.count_eq_zero_of_not_mem hnot]
      exact Nat.le_of_eq hcount
    · rw [List.count_eq_zero_of_not_mem (hsound.unstopped hstopped)]
      exact Nat.zero_le 1
  · obtain ⟨after, honce⟩ := hinv.stoppedOnce hreturned hzero
    have hshort := honce.short hinv.startedOnce
    obtain ⟨⟨before, heffects, hbefore⟩, -⟩ := honce
    exact ⟨after, before, heffects, hbefore, hshort⟩

theorem returns_zero_stopped_orderly :
    (Sample.after Sample.orderly).main = .returned ∧ (Sample.after Sample.orderly).exitCode = 0 ∧
      ∃ after before, (Sample.after Sample.orderly).media.effects = after ++ .stop .ok :: before ∧
        .stop .ok ∉ before ∧ (after = [] ∨ after = [.start]) :=
  ⟨by decide, by decide, (@returns_zero_stopped Sample.lifecycle _ Sample.orderly (by decide)).2.2.2 (by decide) (by decide)⟩

/-! ### The stack stays stopped -/

theorem stopMediaOnce_effects (hstep : stopMediaOnce t outcome m p = some (m', p')) :
    m'.effects = m.effects ∨ p = .calling ∧ m'.effects = .stop outcome :: m.effects := by
  cases p with
  | effected o => cases o <;> obtain ⟨rfl, rfl⟩ := Prod.mk.inj (Option.some.inj hstep) <;> exact .inl rfl
  | stored o => cases o <;> obtain ⟨rfl, rfl⟩ := Prod.mk.inj (Option.some.inj hstep) <;> exact .inl rfl
  | enter =>
    obtain ⟨-, rfl, -⟩ := stopMediaOnce_enter hstep
    exact .inl rfl
  | readFinished =>
    simp only [stopMediaOnce] at hstep
    split at hstep <;> obtain ⟨rfl, rfl⟩ := Prod.mk.inj (Option.some.inj hstep) <;> exact .inl rfl
  | checkOnce =>
    simp only [stopMediaOnce] at hstep
    split at hstep <;> obtain ⟨rfl, rfl⟩ := Prod.mk.inj (Option.some.inj hstep) <;> exact .inl rfl
  | calling =>
    obtain ⟨rfl, rfl⟩ := Prod.mk.inj (Option.some.inj hstep)
    exact .inr ⟨rfl, rfl⟩
  | _ =>
    obtain ⟨rfl, rfl⟩ := Prod.mk.inj (Option.some.inj hstep)
    exact .inl rfl

/-- What holds in a run without early stops: a stop that succeeded is the last effect. -/
structure InOrder (s : State) : Prop where
  checked : s.main.beforeCheck = true → .stop .ok ∈ s.media.effects → s.media.shutdownEvent = true
  pending : s.main.startPending = true → .stop .ok ∉ s.media.effects
  last : .stop .ok ∈ s.media.effects → s.media.effects.head? = some (.stop .ok)

theorem inOrder_initial : InOrder .initial where
  checked := by simp [State.initial, Media.initial]
  pending := by simp [State.initial, Media.initial]
  last := by simp [State.initial, Media.initial]

/-- A stop that is being called is the first to succeed, if it does. -/
theorem Inv.unstopped (h : Inv s) (hpoint : s.point t = some .calling) : .stop .ok ∉ s.media.effects := by
  have hlock := (h.held.holder t).mpr ⟨_, hpoint, by simp⟩
  have hsound := h.held.sound
  rw [hlock, Option.bind_some, hpoint] at hsound
  exact hsound.unstopped (by simp [Stopped, hsound.unanswered (.inl rfl)])

theorem InOrder.move (h : InOrder s) (hinv : Inv s) (hmove : Move s s') : InOrder s' := by
  cases hmove with
  | quiet hq =>
    refine ⟨fun hcheck => ?_, fun hpending => ?_, ?_⟩
    · rw [hq.effects]
      exact fun hmem => hq.keepsShutdown (h.checked (hq.check hcheck) hmem)
    · obtain ⟨hmain, hclear⟩ := hq.pending hpending
      rw [hq.effects]
      intro hmem
      have hset := h.checked (by rw [hmain]; rfl) hmem
      rw [hclear] at hset
      cases hset
    · rw [hq.effects]
      exact h.last
  | attempt hmain hs' =>
    subst hs'
    exact ⟨by simp, fun _ => h.pending (by rw [hmain]; rfl), h.last⟩
  | arm hmain hs' =>
    subst hs'
    exact ⟨by simp, fun _ => h.pending (by rw [hmain]; rfl), h.last⟩
  | effect hmain hs' =>
    subst hs'
    have hnot : .stop .ok ∉ s.media.effects := h.pending (by rw [hmain]; rfl)
    exact ⟨by simp, by simp, by simp [hnot]⟩
  | failed hmain hs' =>
    subst hs'
    exact ⟨by simp, by simp, h.last⟩
  | started main' hmain hmain' hs' =>
    subst hs'
    refine ⟨?_, ?_, h.last⟩ <;> rcases hmain' with rfl | rfl <;> simp
  | stop inside after p outcome hinside hmain hstep =>
    obtain ⟨⟨m', p'⟩, hcall, rfl⟩ := Option.map_eq_some_iff.mp hstep
    have hpoint : s.point .main = some p := by
      rcases hinside with heq | heq | heq <;> obtain ⟨rfl, rfl⟩ := Prod.mk.inj heq <;> simp [State.point, hmain]
    refine ⟨?_, ?_, ?_⟩
    · rcases hinside with heq | heq | heq <;> obtain ⟨rfl, rfl⟩ := Prod.mk.inj heq <;> cases p' <;> simp
    · rcases hinside with heq | heq | heq <;> obtain ⟨rfl, rfl⟩ := Prod.mk.inj heq <;> cases p' <;> simp
    · rcases stopMediaOnce_effects hcall with hsame | ⟨rfl, hnew⟩
      · rw [hsame]
        exact h.last
      · have hnot := hinv.unstopped hpoint
        simp [hnew, hnot, eq_comm]

/-- A step that is no early stop. -/
theorem InOrder.step (h : InOrder s) (hinv : Inv s) (hearly : ¬Early s a) (hstep : step hooks s a = some s') :
    InOrder s' := by
  cases a with
  | signal =>
    obtain rfl := Option.some.inj hstep
    exact ⟨fun _ _ => rfl, h.pending, h.last⟩
  | expire =>
    simp only [MediaStop.step, Option.ite_none_right_eq_some, Option.some.injEq] at hstep
    obtain ⟨-, rfl⟩ := hstep
    exact ⟨fun _ _ => rfl, h.pending, h.last⟩
  | watchdog outcome =>
    rcases watchdogStep_cases hstep with ⟨-, rfl | ⟨-, rfl⟩⟩ | ⟨p, m', p', hstopping, hcall, rfl⟩
    · exact h
    · exact ⟨h.checked, h.pending, h.last⟩
    · have hset : s.media.shutdownEvent = true := by simpa [hstopping] using hinv.armed
      rw [← (stopMediaOnce_frame hcall).1] at hset
      refine ⟨fun _ _ => hset, fun hpending => ?_, ?_⟩
      · rcases stopMediaOnce_effects hcall with hsame | ⟨rfl, hnew⟩
        · rw [hsame]
          exact h.pending hpending
        · have hother : outcome ≠ .ok := by
            rintro rfl
            exact hearly ⟨rfl, hstopping, hpending⟩
          simpa [hnew, hother.symm] using h.pending hpending
      · rcases stopMediaOnce_effects hcall with hsame | ⟨rfl, hnew⟩
        · rw [hsame]
          exact h.last
        · have hnot := hinv.unstopped (t := .watchdog) (by rw [State.point, hstopping]; rfl)
          simp [hnew, hnot, eq_comm]
  | main answer => exact h.move hinv (runStep_move hstep)

theorem InOrder.run {actions : List Action} (h : InOrder s) (hinv : Inv s) (hpunctual : Punctual hooks s actions)
    (hrun : run hooks s actions = some s') : InOrder s' := by
  induction actions generalizing s with
  | nil =>
    obtain rfl := Option.some.inj hrun
    exact h
  | cons a actions ih =>
    obtain ⟨s₁, hstep, hrest⟩ := run_cons_eq_some hrun
    exact ih (h.step hinv hpunctual.1 hstep) (hinv.step hstep) (hpunctual.2 s₁ hstep) hrest

/-- **A run without early stops leaves the media stack stopped.** If no successful stop of the watchdog takes effect while
the main thread has passed its last check of the shutdown event and its start has not taken effect, then a run that returns 0
ends with a successful stop as its last effect on the media stack, whatever else happens. -/
theorem media_stays_stopped {actions : List Action} (hpunctual : Punctual hooks .initial actions)
    (hrun : run hooks .initial actions = some s) (hreturned : s.main = .returned) (hzero : s.exitCode = 0) :
    s.media.effects.head? = some (.stop .ok) := by
  refine (inOrder_initial.run inv_initial hpunctual hrun).last ?_
  obtain ⟨after, ⟨before, heffects, -⟩, -⟩ := (inv_initial.run hrun).stoppedOnce hreturned hzero
  rw [heffects]
  exact List.mem_append_right _ List.mem_cons_self

theorem media_stays_stopped_orderly :
    Punctual Sample.lifecycle .initial Sample.orderly ∧
      (Sample.after Sample.orderly).media.effects.head? = some (.stop .ok) :=
  ⟨by decide, @media_stays_stopped Sample.lifecycle _ Sample.orderly (by decide) (by decide) (by decide) (by decide)⟩

theorem beforeStart_of_startPending {main : Main} (h : main.startPending = true) : main.beforeStart = true := by
  cases main with
  | starting effective => cases effective <;> simp_all
  | _ => simp_all

/-- What the main thread does after an early stop: from its place before the start, through a start that takes effect, to
the end of `run`. -/
def start : Main → List Action
  | .attempt => [.main .next, .main .next]
  | .arm => [.main .next]
  | _ => []

def finishRun : List Action :=
  [.main .takesEffect, .main (.starts .ok), .main .next] ++ List.replicate 3 (.main (.stops .ok)) ++
    [.main .next, .main .next] ++ List.replicate 3 (.main (.stops .ok)) ++ [.main .next] ++
    List.replicate 3 (.main (.stops .ok)) ++ List.replicate 4 (.main .next)

/-- **An early stop can always be undone.** Wherever a run has come when a successful stop takes effect early, it can go on so
that the start takes effect after the stop and `run` returns 0. -/
theorem early_stop_undone {actions : List Action} (hrun : run hooks .initial actions = some s) (hearly : Early s a)
    (hcleanup : hooks.postMediaStop = true) :
    ∃ rest s', run hooks s (a :: rest) = some s' ∧ s'.main = .returned ∧ s'.exitCode = 0 ∧
      s'.media.effects.head? = some .start := by
  have hinv := inv_initial.run hrun
  obtain ⟨rfl, hwatchdog, hpending⟩ := hearly
  have hpoint : s.point .watchdog = some .calling := by rw [State.point, hwatchdog]; rfl
  have hlock := (hinv.held.holder .watchdog).mpr ⟨_, hpoint, by simp⟩
  have hsound := hinv.held.sound
  rw [hlock, Option.bind_some, hpoint] at hsound
  have hattempted : s.media.mediaStopAttempted = true := hsound.attempted.mpr (.inr (.inl rfl))
  have hnone : s.media.mediaStopResult = none := hsound.unanswered (.inl rfl)
  have hset : s.media.shutdownEvent = true := by simpa [hwatchdog] using hinv.armed
  have hbefore := beforeStart_of_startPending hpending
  obtain ⟨hexit, hraising⟩ := hinv.calm hbefore
  obtain ⟨⟨shutdown, tried, started, finished, requested, attempted, result, error, lock, effects⟩, main, watchdog, exitCode,
    auth, raising⟩ := s
  simp only at hwatchdog hpending hlock hattempted hnone hset hexit hraising
  subst hwatchdog hlock hattempted hnone hset hexit hraising
  obtain ⟨preMediaStart, postMediaStop⟩ := hooks
  simp only at hcleanup
  subst hcleanup
  refine ⟨List.replicate 2 (.watchdog .ok) ++ start main ++ finishRun, ?_⟩
  cases main with
  | attempt => cases requested <;> exact ⟨_, rfl, rfl, rfl, rfl⟩
  | arm => cases requested <;> exact ⟨_, rfl, rfl, rfl, rfl⟩
  | starting effective =>
    cases effective with
    | true => cases hpending
    | false => cases requested <;> exact ⟨_, rfl, rfl, rfl, rfl⟩
  | _ => cases hpending

theorem early_stop_undone_expired :
    Early (Sample.after Sample.expired) (.watchdog .ok) ∧
      ∃ rest s', run Sample.lifecycle (Sample.after Sample.expired) (.watchdog .ok :: rest) = some s' ∧
        s'.main = .returned ∧ s'.exitCode = 0 ∧ s'.media.effects.head? = some .start :=
  ⟨by decide, @early_stop_undone Sample.lifecycle _ _ Sample.expired (by decide) (by decide) rfl⟩

end IRLight.MediaStop
