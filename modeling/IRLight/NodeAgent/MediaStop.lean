import Mathlib.Data.Nat.Notation

/-! The stop of the media stack by the Node agent: `NodeAgent.run` on the main thread, `_deadline_watchdog` on its own
    thread, and `_stop_media_once`, which both of them call. A step is one access of a thread to what the threads share, one
    effect on the media stack, or one answer of the supervisor or of a hook. -/

namespace IRLight.MediaStop

/-! ### What the threads share -/

inductive Thread where
  | main
  | watchdog
deriving DecidableEq, Repr

/-- How a call of the supervisor ends: with an `ok` result, with a result that is not `ok`, or with an exception. -/
inductive Outcome where
  | ok
  | failed
  | raised
deriving DecidableEq, Repr

/-- An effect on the media stack. -/
inductive Effect where
  | start
  | stop (outcome : Outcome)
deriving DecidableEq, Repr

/-- The attributes of the agent that both threads use, and the effects on the media stack, the latest first.
`mediaStopResult` holds the `ok` flag of the result, `mediaStopError` whether there is one. -/
structure Media where
  shutdownEvent : Bool
  mediaStartAttempted : Bool
  mediaStarted : Bool
  mediaStartFinished : Bool
  mediaStopRequested : Bool
  mediaStopAttempted : Bool
  mediaStopResult : Option Bool
  mediaStopError : Bool
  mediaStopLock : Option Thread
  effects : List Effect
deriving DecidableEq, Repr

def Media.initial : Media where
  shutdownEvent := false
  mediaStartAttempted := false
  mediaStarted := false
  mediaStartFinished := false
  mediaStopRequested := false
  mediaStopAttempted := false
  mediaStopResult := none
  mediaStopError := false
  mediaStopLock := none
  effects := []

namespace Media

def shutdown (m : Media) : Media := { m with shutdownEvent := true }

def release (m : Media) : Media := { m with mediaStopLock := none }

end Media

/-! ### `_stop_media_once` -/

/-- Where a thread is in `_stop_media_once`. It has the lock at every point but `enter`. -/
inductive StopPoint where
  | enter
  | readStarted
  | readAttempted
  | readFinished
  | checkOnce
  | calling
  | effected (outcome : Outcome)
  | stored (outcome : Outcome)
deriving DecidableEq, Repr

/-- One step of `_stop_media_once`, which ends where there is no next point. `outcome` is what a call of `supervisor.stop`
that takes effect now will answer. -/
def stopMediaOnce (me : Thread) (outcome : Outcome) (m : Media) : StopPoint → Option (Media × Option StopPoint)
  | .enter =>
    if m.mediaStopLock = none then
      some ({ m with mediaStopLock := some me, mediaStopRequested := true }, some .readStarted)
    else none
  | .readStarted => some (m, some (if m.mediaStarted then .checkOnce else .readAttempted))
  | .readAttempted => some (m, some (if m.mediaStartAttempted then .readFinished else .checkOnce))
  | .readFinished => if m.mediaStartFinished then some (m, some .checkOnce) else some (m.release, none)
  | .checkOnce =>
    if m.mediaStopAttempted then some (m.release, none)
    else some ({ m with mediaStopAttempted := true }, some .calling)
  | .calling => some ({ m with effects := .stop outcome :: m.effects }, some (.effected outcome))
  | .effected .ok => some ({ m with mediaStopResult := some true }, some (.stored .ok))
  | .effected .failed => some ({ m with mediaStopResult := some false }, some (.stored .failed))
  | .effected .raised => some ({ m with mediaStopError := true }, some (.stored .raised))
  | .stored .ok => some ({ m with mediaStarted := false, mediaStopError := false, mediaStopLock := none }, none)
  | .stored .failed => some (m.release, none)
  | .stored .raised => some ({ m with mediaStopAttempted := false, mediaStopLock := none }, none)

/-! ### The threads -/

/-- `_deadline_watchdog`: before its thread starts, in its loop, in `_stop_media_once`, and after it. -/
inductive Watchdog where
  | absent
  | waiting
  | stopping (point : StopPoint)
  | ended
deriving DecidableEq, Repr

/-- Where the main thread is in `run`. -/
inductive Main where
  | prepare
  | firstCheck
  | preMediaStart
  | secondCheck
  | attempt
  | arm
  | starting (effective : Bool)
  | startFailed
  | startDone
  | stopAfterStart (point : StopPoint)
  | loop
  | heartbeat
  | finish
  | firstStop (point : StopPoint)
  | join
  | secondStop (point : StopPoint)
  | readError
  | readResult
  | postMediaStop
  | removeSecret
  | returned
  | raised
deriving DecidableEq, Repr

/-- Whether the lifecycle has a `pre_media_start` and a `post_media_stop`. -/
structure Hooks where
  preMediaStart : Bool
  postMediaStop : Bool
deriving DecidableEq, Repr

structure State where
  media : Media
  main : Main
  watchdog : Watchdog
  exitCode : ℕ
  mediaAuthStarted : Bool
  /-- An exception that leaves `run` after its `finally`. -/
  raising : Bool
deriving DecidableEq, Repr

def State.initial : State where
  media := .initial
  main := .prepare
  watchdog := .absent
  exitCode := 0
  mediaAuthStarted := false
  raising := false

/-- How a heartbeat ends: the Session goes on (or an error that the loop survives), it asks for a stop (`STOPPED`, or a 4xx
answer), the clock of the deadline fails, or another exception leaves the loop. -/
inductive Beat where
  | goesOn
  | stops
  | clockFails
  | raises
deriving DecidableEq, Repr

/-- What the main thread meets in a step. -/
inductive Answer where
  | next
  | refused
  | raises
  | takesEffect
  | starts (outcome : Outcome)
  | stops (outcome : Outcome)
  | beats (beat : Beat)
deriving DecidableEq, Repr

/-- The exception leaves the `try`. -/
@[simp] def State.unwind (s : State) : State := { s with raising := true, main := .finish }

/-- A step of `_stop_media_once` on the main thread, which goes on at `after`. -/
def State.stopOnMain (s : State) (outcome : Outcome) (point : StopPoint) (inside : StopPoint → Main) (after : Main) :
    Option State :=
  (stopMediaOnce .main outcome s.media point).map fun r => { s with media := r.1, main := r.2.elim after inside }

def runStep (hooks : Hooks) (s : State) (answer : Answer) : Option State :=
  match s.main, answer with
  -- everything before the watchdog: bootstrap, the deadline, the secret and the control state
  | .prepare, .next => some { s with watchdog := .waiting, main := .firstCheck }
  | .prepare, .refused => some { s with media := s.media.shutdown, exitCode := 1, main := .finish }
  | .prepare, .raises => some s.unwind
  | .firstCheck, .next =>
    some { s with main := if s.media.shutdownEvent || !hooks.preMediaStart then .secondCheck else .preMediaStart }
  | .preMediaStart, .next => some { s with mediaAuthStarted := true, main := .secondCheck }
  | .preMediaStart, .raises => some s.unwind
  | .secondCheck, .next => some { s with main := if s.media.shutdownEvent then .finish else .attempt }
  | .attempt, .next => some { s with media := { s.media with mediaStartAttempted := true }, main := .arm }
  | .arm, .next =>
    if s.media.mediaStopLock = none then
      some { s with media := { s.media with mediaStarted := true }, main := .starting false }
    else none
  | .starting false, .takesEffect =>
    some { s with media := { s.media with effects := .start :: s.media.effects }, main := .starting true }
  | .starting _, .starts .ok => some { s with main := .startDone }
  | .starting _, .starts _ => some { s with main := .startFailed }
  | .startFailed, .next =>
    some { s with media := { s.media with mediaStartFinished := true }, exitCode := 1, main := .finish }
  | .startDone, .next =>
    if s.media.mediaStopLock = none then
      some { s with
        media := { s.media with mediaStarted := true, mediaStartFinished := true }
        main := if s.media.mediaStopRequested || s.media.shutdownEvent then .stopAfterStart .enter else .loop }
    else none
  | .stopAfterStart point, .stops outcome => s.stopOnMain outcome point .stopAfterStart .loop
  | .loop, .next => some { s with main := if s.media.shutdownEvent then .finish else .heartbeat }
  | .heartbeat, .beats .goesOn => some { s with main := .loop }
  | .heartbeat, .beats .stops => some { s with media := s.media.shutdown, main := .finish }
  | .heartbeat, .beats .clockFails => some { s with media := s.media.shutdown, exitCode := 1, main := .finish }
  | .heartbeat, .beats .raises => some s.unwind
  | .finish, .next => some { s with media := s.media.shutdown, main := .firstStop .enter }
  | .firstStop point, .stops outcome => s.stopOnMain outcome point .firstStop .join
  -- the join has a timeout: it ends whether or not the watchdog has ended
  | .join, .next => some { s with main := .secondStop .enter }
  | .secondStop point, .stops outcome => s.stopOnMain outcome point .secondStop .readError
  | .readError, .next =>
    some (if s.media.mediaStopError then { s with exitCode := 1, main := .postMediaStop }
      else { s with main := .readResult })
  | .readResult, .next =>
    some { s with exitCode := if s.media.mediaStopResult = some false then 1 else s.exitCode, main := .postMediaStop }
  | .postMediaStop, .next =>
    some { s with
      exitCode := if !hooks.postMediaStop && s.mediaAuthStarted then 1 else s.exitCode
      main := .removeSecret }
  | .postMediaStop, .raises => if hooks.postMediaStop then some { s with exitCode := 1, main := .removeSecret } else none
  | .removeSecret, .next => some { s with main := if s.raising then .raised else .returned }
  | .removeSecret, .raises => some { s with main := .raised }
  | _, _ => none

inductive Action where
  /-- `handle_signal`. -/
  | signal
  /-- The watchdog finds the deadline passed, or its clock invalid. -/
  | expire
  | watchdog (outcome : Outcome)
  | main (answer : Answer)
deriving DecidableEq, Repr

def watchdogStep (s : State) (outcome : Outcome) : Option State :=
  match s.watchdog with
  | .waiting => if s.media.shutdownEvent then some { s with watchdog := .stopping .enter } else some s
  | .stopping point =>
    (stopMediaOnce .watchdog outcome s.media point).map fun r => { s with media := r.1, watchdog := r.2.elim .ended .stopping }
  | _ => none

def step (hooks : Hooks) (s : State) : Action → Option State
  | .signal => some { s with media := s.media.shutdown }
  | .expire =>
    if s.watchdog = .waiting then some { s with media := s.media.shutdown, watchdog := .stopping .enter } else none
  | .watchdog outcome => watchdogStep s outcome
  | .main answer => runStep hooks s answer

/-! ### Places -/

/-- The point of the main thread in `_stop_media_once`. -/
@[simp] def Main.point : Main → Option StopPoint
  | stopAfterStart point | firstStop point | secondStop point => some point
  | _ => none

@[simp] def Watchdog.point : Watchdog → Option StopPoint
  | stopping point => some point
  | _ => none

def State.point (s : State) : Thread → Option StopPoint
  | .main => s.main.point
  | .watchdog => s.watchdog.point

/-- The thread is in a call of `supervisor.stop`, or has not stored yet how the call ended. -/
def State.InStop (s : State) (t : Thread) : Prop :=
  s.point t = some .calling ∨ ∃ outcome, s.point t = some (.effected outcome)

/-- The main thread has passed its last check of the shutdown event, and the start may still take effect. -/
@[simp] def Main.startPending : Main → Bool
  | attempt | arm | starting false => true
  | _ => false

/-- A successful stop takes effect, and the start may still follow. -/
def Early (s : State) (a : Action) : Prop :=
  a = .watchdog .ok ∧ s.watchdog = .stopping .calling ∧ s.main.startPending = true

instance (s : State) (a : Action) : Decidable (Early s a) := inferInstanceAs (Decidable (_ ∧ _))

/-- A run of the two threads. -/
def run (hooks : Hooks) (s : State) : List Action → Option State
  | [] => some s
  | a :: actions => (step hooks s a).bind fun s' => run hooks s' actions

/-- No step of the run is `Early`. -/
def Punctual (hooks : Hooks) (s : State) : List Action → Prop
  | [] => True
  | a :: actions => ¬Early s a ∧ ∀ s' ∈ step hooks s a, Punctual hooks s' actions

instance (hooks : Hooks) : (s : State) → (actions : List Action) → Decidable (Punctual hooks s actions)
  | _, [] => inferInstanceAs (Decidable True)
  | s, a :: actions =>
    have : DecidablePred fun s' => Punctual hooks s' actions := fun s' => instDecidablePunctual hooks s' actions
    inferInstanceAs (Decidable (_ ∧ ∀ s' ∈ step hooks s a, Punctual hooks s' actions))

end IRLight.MediaStop
