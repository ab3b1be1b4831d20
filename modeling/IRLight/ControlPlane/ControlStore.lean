import IRLight.Formats.CompactJson
import IRLight.Persistence.Disk
import IRLight.Session.Record

/-! # The audio control command

`ControlStore`: the command that the continuity worker follows, in a file of its own. Every update is a new version, and
the file remembers the idempotency key of the latest one. -/

namespace IRLight
open Persistence

/-- What the control file holds. -/
structure ControlCommand where
  audioMode : AudioMode
  version : ℕ
  commandId : Option String
  idempotencyKey : Option String
  updatedAt : Timestamp
  deriving DecidableEq

/-- What may be wrong with the contents of the file. -/
inductive ControlField where
  | shape
  | audioMode
  | version
  | commandId
  | idempotencyKey
  | updateTime
  deriving DecidableEq

namespace ControlField

/-! ### The checks of the store and of the reader -/

def audioModeField : Option Json → Except ControlField AudioMode
  | some (.str "LIVE") => .ok .live
  | some (.str "MUTED") => .ok .muted
  | _ => .error .audioMode

def versionField : Option Json → Except ControlField ℕ
  | some (.int (.ofNat n)) => .ok n
  | _ => .error .version

/-- `isUuid` tells which texts `uuid.UUID` accepts. -/
def commandIdField (isUuid : String → Bool) : Option Json → Except ControlField (Option String)
  | none | some .null => .ok none
  | some (.str text) => if isUuid text then .ok (some text) else .error .commandId
  | _ => .error .commandId

/-- The keys that a command may have. -/
def keyAccepted (key : String) : Bool := key ≠ "" && key.length ≤ 200

def idempotencyKeyField : Option Json → Except ControlField (Option String)
  | none | some .null => .ok none
  | some (.str key) => if keyAccepted key then .ok (some key) else .error .idempotencyKey
  | _ => .error .idempotencyKey

def timeOf : PyFloat → Except ControlField Timestamp
  | .finite q => if h : 0 ≤ q then .ok ⟨q, h⟩ else .error .updateTime
  | _ => .error .updateTime

def updateTimeField : Option Json → Except ControlField Timestamp
  | some (.int n) => if n.natAbs < floatOverflow then timeOf (.finite n) else .error .updateTime
  | some (.float x) => timeOf x
  | _ => .error .updateTime

/-- The command that a JSON value describes. -/
def commandOf (isUuid : String → Bool) (value : Json) : Except ControlField ControlCommand :=
  match value with
  | .obj _ => do
    return {
      audioMode := ← audioModeField (value.get? "audio_mode")
      version := ← versionField (value.get? "version")
      commandId := ← commandIdField isUuid (value.get? "command_id")
      idempotencyKey := ← idempotencyKeyField (value.get? "idempotency_key")
      updatedAt := ← updateTimeField (value.get? "updated_at") }
  | _ => .error .shape

/-- What the store says of it. -/
def storeMessage : ControlField → String
  | shape => "control state has invalid structure"
  | audioMode => "control state has invalid audio mode"
  | version => "control state has invalid version"
  | commandId => "control state has invalid command id"
  | idempotencyKey => "control state has invalid idempotency key"
  | updateTime => "control state has invalid update time"

/-- What the reader says of it. -/
def readerMessage : ControlField → String
  | shape => "invalid control structure"
  | audioMode => "invalid audio mode"
  | version => "invalid control version"
  | commandId => "invalid command id"
  | idempotencyKey => "invalid idempotency key"
  | updateTime => "invalid control update time"

end ControlField

/-- The dictionary of a command, with its keys in their order. -/
def ControlCommand.json (c : ControlCommand) : Json :=
  .obj [("audio_mode", .str c.audioMode.str), ("command_id", .ofOption .str c.commandId),
    ("idempotency_key", .ofOption .str c.idempotencyKey), ("updated_at", .float (.finite c.updatedAt)),
    ("version", .int c.version)]

/-- The text of the control file, as `load_json_authority` reads it: `none` where it is not acceptable. -/
abbrev ControlText := Option Json

namespace ControlStore

inductive ControlError where
  | valueError (message : String)
  | stateError (message : String)
  | idempotencyConflict (message : String)
  | versionConflict (current : ControlCommand)
  deriving DecidableEq

def unlocked : ControlError := .stateError "control state cannot be locked"
def unread : ControlError := .stateError "control state cannot be read"
def disappeared : ControlError := .stateError "control state disappeared after initialization"

/-- `_normalize_update_time` of a clock reading. -/
def normalizeUpdateTime (reading : PyFloat) : Except ControlError Timestamp :=
  (ControlField.timeOf reading).mapError fun field => .stateError field.storeMessage

section
variable (isUuid : String → Bool)

/-- `_validate_control`. -/
def validateControl (value : Json) : Except ControlError ControlCommand :=
  (ControlField.commandOf isUuid value).mapError fun field => .stateError field.storeMessage

/-- `_read`. -/
def read (file : Option ControlText) (initialized : Bool) : Except ControlError ControlCommand :=
  match file with
  | some none => .error unread
  | some (some value) => validateControl isUuid value
  | none => .error (if initialized then disappeared else .stateError "control state is not initialized")

/-- The text that `_write` writes. Python writes no integer with more than `maxStrDigits` digits. -/
def serialize (c : ControlCommand) : Except ControlError ControlText := do
  let validated ← validateControl isUuid c.json
  if (Scalar.int validated.version).dumpable then return some validated.json
  throw (.stateError "control state cannot be serialized")

/-- What a method does under the lock, with the command that it returns. -/
abbrev Body := Option ControlText → Bool → Except ControlError (Decision ControlText (Option ControlCommand))

/-- `ensure`. -/
def ensureBody (reading : PyFloat) : Body := fun file initialized =>
  match file with
  | some _ => do
    let _ ← read isUuid file initialized
    return .mark none
  | none =>
    if initialized then .error disappeared
    else do
      let updatedAt ← normalizeUpdateTime reading
      return .write (← serialize isUuid ⟨.live, 0, none, none, updatedAt⟩) none

/-- `get`. -/
def getBody : Body := fun file initialized => do
  return .answer (some (← read isUuid file initialized))

/-- `update`. -/
def updateBody (mode : AudioMode) (idempotencyKey : String) (expectedVersion : Option ℤ) (now : Timestamp)
    (commandId : String) : Body := fun file initialized => do
  let current ← read isUuid file initialized
  if current.idempotencyKey = some idempotencyKey then
    if current.audioMode ≠ mode then throw (.idempotencyConflict "idempotency key was already used for another mode")
    return .answer (some current)
  if expectedVersion.any (· ≠ (current.version : ℤ)) then throw (.versionConflict current)
  let next : ControlCommand := ⟨mode, current.version + 1, some commandId, some idempotencyKey, now⟩
  return .write (← serialize isUuid next) (some next)

end

/-- The arguments that `update` checks before it takes the lock. -/
def checkUpdate (mode idempotencyKey : String) (expectedVersion : Option ℤ) (reading : PyFloat) :
    Except ControlError (AudioMode × Timestamp) := do
  match (ControlField.audioModeField (some (.str mode))).toOption with
  | none => throw (.valueError "unsupported audio mode")
  | some mode =>
    if !ControlField.keyAccepted idempotencyKey then throw (.valueError "invalid idempotency key")
    if expectedVersion.any (· < 0) then throw (.valueError "invalid expected version")
    return (mode, ← normalizeUpdateTime reading)

/-- A call of a method. `reading` is what the clock shows, and `commandId` the text of a fresh UUID. -/
inductive Method where
  | ensure (reading : PyFloat)
  | get
  | update (mode idempotencyKey : String) (expectedVersion : Option ℤ) (reading : PyFloat) (commandId : String)
  deriving DecidableEq

/-- What a method checks before it takes the lock, and what it does under it. -/
def Method.body (isUuid : String → Bool) : Method → Except ControlError Body
  | .ensure reading => .ok (ensureBody isUuid reading)
  | .get => .ok (getBody isUuid)
  | .update mode idempotencyKey expectedVersion reading commandId =>
    (checkUpdate mode idempotencyKey expectedVersion reading).map fun checked =>
      updateBody isUuid checked.1 idempotencyKey expectedVersion checked.2 commandId

/-- The command that a call returns, if it returns one, and the disk that it leaves. -/
def Method.run (isUuid : String → Bool) (disk : Disk ControlText) (fault : Option Fault) (m : Method) :
    Except ControlError (Option ControlCommand) × Disk ControlText :=
  match m.body isUuid with
  | .error e => (.error e, disk)
  | .ok body => disk.perform fault unlocked unread body

end ControlStore
end IRLight
