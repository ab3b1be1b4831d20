import IRLight.Session.Record
import Mathlib.Order.Monotone.Defs

/-! # The continuity decision

`continuity/state.py`: from the times at which buffers arrive, whether the output shows the live source. -/

namespace IRLight.Continuity

inductive VideoSource where
  | live
  | standby
  deriving DecidableEq

inductive ActualAudio where
  | live
  | muted
  | silentFallback
  deriving DecidableEq

inductive SessionStatus where
  | holding
  | stabilizing
  | live
  deriving DecidableEq

structure Decision where
  sessionStatus : SessionStatus
  videoSource : VideoSource
  actualAudio : ActualAudio
  videoRecent : Bool
  audioRecent : Bool
  deriving DecidableEq

/-- `now - earlier`. The difference of two floats is rounded, which keeps its order. -/
structure Elapsed where
  between : ℚ → ℚ → ℚ
  monotone : ∀ earlier, Monotone fun now => between now earlier
  antitone : ∀ now, Antitone (between now)

/-- Differences that are not rounded. -/
def Elapsed.exact : Elapsed where
  between now earlier := now - earlier
  monotone _ _ _ h := sub_le_sub_right h _
  antitone _ _ _ h := sub_le_sub_left h _

structure ContinuityConfig where
  elapsed : Elapsed
  inputTimeout : ℚ
  stableWindow : ℚ
  inputTimeout_pos : 0 < inputTimeout
  stableWindow_nonneg : 0 ≤ stableWindow

/-- `__init__`. -/
def ContinuityConfig.new (elapsed : Elapsed) (inputTimeout stableWindow : PyFloat) : Except Exc ContinuityConfig :=
  match inputTimeout with
  | .finite timeout =>
    if htimeout : 0 < timeout then
      match stableWindow with
      | .finite window =>
        if hwindow : 0 ≤ window then .ok ⟨elapsed, timeout, window, htimeout, hwindow⟩
        else .error (.valueError "stable_window must be a finite non-negative number")
      | _ => .error (.valueError "stable_window must be a finite non-negative number")
    else .error (.valueError "input_timeout must be a finite positive number")
  | _ => .error (.valueError "input_timeout must be a finite positive number")

/-- `AudioMode(mode)`. -/
def audioModeOf (mode : String) : Except Exc AudioMode :=
  match mode with
  | "LIVE" => .ok .live
  | "MUTED" => .ok .muted
  | _ => .error (.valueError s!"'{mode}' is not a valid AudioMode")

/-- The status and the source that `decide` picks. -/
def chooseVideo (videoRecent stable : Bool) : SessionStatus × VideoSource :=
  if !videoRecent then (.holding, .standby)
  else if stable then (.live, .live)
  else (.stabilizing, .standby)

/-- The audio that `decide` picks. -/
def chooseAudio (desiredAudio : AudioMode) (videoSource : VideoSource) (audioRecent : Bool) : ActualAudio :=
  if desiredAudio = .muted then .muted
  else if videoSource = .live ∧ audioRecent then .live
  else .silentFallback

structure ContinuityState where
  desiredAudio : AudioMode
  lastVideoAt : Option ℚ
  lastAudioAt : Option ℚ
  videoStableSince : Option ℚ

namespace ContinuityState

def initial : ContinuityState := ⟨.live, none, none, none⟩

variable (config : ContinuityConfig) (s : ContinuityState)

def setAudioMode (mode : String) : Except Exc ContinuityState :=
  (audioModeOf mode).map fun mode => { s with desiredAudio := mode }

def observeVideo (now : ℚ) : ContinuityState :=
  { s with
    videoStableSince :=
      match s.lastVideoAt with
      | none => some now
      | some last => if config.inputTimeout < config.elapsed.between now last then some now else s.videoStableSince
    lastVideoAt := some now }

def observeAudio (now : ℚ) : ContinuityState := { s with lastAudioAt := some now }

/-- Whether a buffer arrived within the timeout. -/
def recent (now : ℚ) (lastAt : Option ℚ) : Bool :=
  lastAt.any fun last => config.elapsed.between now last ≤ config.inputTimeout

/-- Whether the video has been there for the stable window. -/
def stable (now : ℚ) (stableSince : Option ℚ) : Bool :=
  stableSince.any fun since => config.stableWindow ≤ config.elapsed.between now since

def decide (now : ℚ) : Decision × ContinuityState :=
  let videoRecent := recent config now s.lastVideoAt
  let audioRecent := recent config now s.lastAudioAt
  let video := chooseVideo videoRecent (stable config now s.videoStableSince)
  ({ sessionStatus := video.1
     videoSource := video.2
     actualAudio := chooseAudio s.desiredAudio video.2 audioRecent
     videoRecent := videoRecent
     audioRecent := audioRecent },
   { s with videoStableSince := if videoRecent then s.videoStableSince else none })

end ContinuityState

/-- A call of one of the public methods. -/
inductive Call where
  | observeVideo (now : ℚ)
  | observeAudio (now : ℚ)
  | setAudioMode (mode : String)
  | decide (now : ℚ)

/-- The state after a call. A mode that is not one raises, and changes nothing. -/
def Call.step (config : ContinuityConfig) (s : ContinuityState) : Call → ContinuityState
  | observeVideo now => s.observeVideo config now
  | observeAudio now => s.observeAudio now
  | setAudioMode mode => match s.setAudioMode mode with
    | .ok s => s
    | .error _ => s
  | decide now => (s.decide config now).2

/-- The state after some calls. -/
def ContinuityState.run (config : ContinuityConfig) (calls : List Call) : ContinuityState :=
  calls.foldl (Call.step config) .initial

end IRLight.Continuity
