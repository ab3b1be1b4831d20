import IRLight.Continuity.State
import IRLight.ControlPlane.ControlStore

/-! # The worker that follows the control command

`ControlStateReader` reads the control file without the lock of its writers, and keeps the last valid command. At every
tick the worker sets the audio mode of the command that it has, and decides what the output carries. -/

namespace IRLight.Continuity
open Persistence ControlStore

structure ControlCommandState where
  audioMode : AudioMode
  version : ℕ
  commandId : Option String
  deriving DecidableEq

/-- What a reader keeps of a command. -/
def ControlCommandState.of (c : ControlCommand) : ControlCommandState := ⟨c.audioMode, c.version, c.commandId⟩

structure ControlStateReader where
  lastValid : Option ControlCommandState
  deriving DecidableEq

namespace ControlStateReader

def new : ControlStateReader := ⟨none⟩

/-- The command of a reader that has seen none. -/
def startCommand : ControlCommandState := ⟨.muted, 0, none⟩

/-- `_fallback`. -/
def fallback (r : ControlStateReader) : ControlCommandState := r.lastValid.getD startCommand

section
variable (isUuid : String → Bool)

/-- `_validate`. -/
def validate (value : Json) : Except Exc ControlCommandState :=
  ((ControlField.commandOf isUuid value).mapError fun field => .valueError field.readerMessage).map .of

/-- `read`: the command and the error to report. `unread` is an I/O error. -/
def read (r : ControlStateReader) (file : Option ControlText) (unread : Bool) :
    (ControlCommandState × Option String) × ControlStateReader :=
  match file, unread with
  | none, _ => ((r.fallback, some "CONTROL_STATE_UNAVAILABLE"), r)
  | some _, true | some none, false => ((r.fallback, some "CONTROL_STATE_INVALID"), r)
  | some (some value), false =>
    match validate isUuid value with
    | .error _ => ((r.fallback, some "CONTROL_STATE_INVALID"), r)
    | .ok current => ((current, none), ⟨some current⟩)

end
end ControlStateReader

/-! ### The worker -/

structure Worker where
  reader : ControlStateReader
  model : ContinuityState

namespace Worker

def new : Worker := ⟨.new, .initial⟩

/-- What a tick reports. -/
structure Report where
  control : ControlCommandState
  controlError : Option String
  decision : Decision
  deriving DecidableEq

/-- `_reconcile`. -/
def reconcile (isUuid : String → Bool) (config : ContinuityConfig) (w : Worker) (file : Option ControlText) (unread : Bool)
    (now : ℚ) : Report × Worker :=
  let result := w.reader.read isUuid file unread
  let model := (Call.setAudioMode result.1.1.audioMode.str).step config w.model
  let decided := model.decide config now
  (⟨result.1.1, result.1.2, decided.1⟩, ⟨result.2, decided.2⟩)

end Worker

/-! ### The control file and the worker together -/

structure ControlSystem where
  disk : Disk ControlText
  worker : Worker

namespace ControlSystem

def initial : ControlSystem := ⟨.initial, .new⟩

/-- What happens to the file and to the worker. A process of the Control API that dies in a call is a fault of the call.
    A loss of power ends the worker. -/
inductive Action where
  | call (method : Method) (fault : Option Fault)
  | reconcile (now : ℚ) (unread : Bool)
  | observeVideo (now : ℚ)
  | observeAudio (now : ℚ)
  | restartWorker
  | loss (back : ℕ) (marker : Bool)
  | remove
  | garble
  deriving DecidableEq

section
variable (isUuid : String → Bool) (config : ContinuityConfig)

def step (s : ControlSystem) : Action → ControlSystem
  | .call method fault => { s with disk := (method.run isUuid s.disk fault).2 }
  | .reconcile now unread => { s with worker := (s.worker.reconcile isUuid config s.disk.file unread now).2 }
  | .observeVideo now => { s with worker := { s.worker with model := s.worker.model.observeVideo config now } }
  | .observeAudio now => { s with worker := { s.worker with model := s.worker.model.observeAudio now } }
  | .restartWorker => { s with worker := .new }
  | .loss back marker => ⟨s.disk.loss back marker, .new⟩
  | .remove => { s with disk := s.disk.disturb none }
  | .garble => { s with disk := s.disk.disturb (some none) }

def run (s : ControlSystem) (actions : List Action) : ControlSystem := actions.foldl (step isUuid config) s

/-- The state after some actions. -/
def after (actions : List Action) : ControlSystem := run isUuid config .initial actions

end
end ControlSystem
end IRLight.Continuity
