import IRLight.Python

/-! # The end of an attempt's child

`attempt_supervisor.py`: the result that a child may report, and how its process is brought to an end. -/

namespace IRLight.Egress

/-- What the supervision of a child raises. -/
inductive ChildError where
  | valueError (message : String)
  | invalidAttemptResult (message : String)
  | invalidChildMessage (message : String)
  | typeError (message : String)
  | unpicklingError
  | attemptSupervisorError (message : String)
  deriving DecidableEq

structure ChildAttemptResult where
  reasonCode : String
  connectedOnce : Bool
  renderedBuffers : ℕ
  terminal : Bool
  errorDomain : Option String
  errorCode : Option ℤ
  deriving DecidableEq

/-! ### The result envelope -/

/-- `_REASON_RE`. -/
def isReason (text : String) : Bool :=
  match text.toList with
  | [] => false
  | c :: rest => c.isUpper && rest.length ≤ 99 && rest.all fun c => c.isUpper || c.isDigit || c = '_'

/-- `_ERROR_DOMAIN_RE`. -/
def isErrorDomain (text : String) : Bool :=
  1 ≤ text.length && text.length ≤ 100 && text.toList.all fun c => c.isAlphanum || c ∈ ['_', '.', '-']

def requiredResultKeys : List String := ["reason_code", "connected_once", "rendered_buffers", "terminal"]
def allowedResultKeys : List String := requiredResultKeys ++ ["error_domain", "error_code"]

/-- The fields are among the allowed ones, and the required ones are there. -/
def keysBetween (required allowed : List String) (fields : List (String × Json)) : Bool :=
  required.all (fun key => fields.any fun f => f.1 = key) && fields.all fun f => f.1 ∈ allowed

/-- A field that is an integer, and not negative. -/
def naturalField (fields : List (String × Json)) (key : String) (error : ChildError) : Except ChildError ℕ :=
  match fields.lookup key with
  | some (.int n) => if n < 0 then .error error else .ok n.toNat
  | _ => .error error

/-- `parse_child_attempt_result`. -/
def parseChildAttemptResult : Json → Except ChildError ChildAttemptResult
  | .obj fields => do
    if !keysBetween requiredResultKeys allowedResultKeys fields then
      throw (.invalidAttemptResult "child result fields are invalid")
    let reasonCode ←
      match fields.lookup "reason_code" with
      | some (.str text) =>
        if isReason text then pure text else throw (.invalidAttemptResult "child reason_code is invalid")
      | _ => throw (.invalidAttemptResult "child reason_code is invalid")
    let (connectedOnce, terminal) ←
      match fields.lookup "connected_once", fields.lookup "terminal" with
      | some (.bool connectedOnce), some (.bool terminal) => pure (connectedOnce, terminal)
      | _, _ => throw (.invalidAttemptResult "child boolean fields are invalid")
    let renderedBuffers ← naturalField fields "rendered_buffers" (.invalidAttemptResult "child rendered_buffers is invalid")
    let errorDomain ←
      match fields.lookup "error_domain" with
      | none | some .null => pure none
      | some (.str text) =>
        if isErrorDomain text then pure (some text) else throw (.invalidAttemptResult "child error_domain is invalid")
      | _ => throw (.invalidAttemptResult "child error_domain is invalid")
    let errorCode ←
      match fields.lookup "error_code" with
      | none | some .null => pure none
      | some (.int n) => pure (some n)
      | _ => throw (.invalidAttemptResult "child error_code is invalid")
    return ⟨reasonCode, connectedOnce, renderedBuffers, terminal, errorDomain, errorCode⟩
  | _ => .error (.invalidAttemptResult "child result must be an object")

/-! ### The process -/

/-- The child's process. Once it has exited it stays so. -/
inductive ChildProcess where
  | alive
  | exited (code : ℤ)
  deriving DecidableEq

namespace ChildProcess

def isAlive : ChildProcess → Bool
  | alive => true
  | exited _ => false

def exitcode : ChildProcess → Option ℤ
  | alive => none
  | exited code => some code

/-- Some time passes, in which the child exits with a code or does not. -/
def join : ChildProcess → Option ℤ → ChildProcess
  | alive, some code => exited code
  | p, _ => p

end ChildProcess

structure ChildReapResult where
  disposition : String
  exitCode : Option ℤ

/-- `_bounded_timeout`. -/
def boundedTimeout (value : PyFloat) (name : String) : Except ChildError Timestamp :=
  match value with
  | .finite q => if q < 0 then .error (.valueError s!"{name} must be a finite non-negative number") else .ok q.toNNRat
  | _ => .error (.valueError s!"{name} must be a finite non-negative number")

/-- What happens while a child is reaped: whether it exits while it is waited for, at first, after the termination and
    after the kill, and whether either signal found no process. -/
structure Reaping where
  natural : Option ℤ
  terminateLost : Bool
  terminated : Option ℤ
  killLost : Bool
  killed : Option ℤ

/-- `reap_child`, and the process after it. -/
def reapChild (naturalTimeout terminateTimeout killTimeout : PyFloat) (process : ChildProcess) (e : Reaping) :
    Except ChildError ChildReapResult × ChildProcess :=
  match boundedTimeout naturalTimeout "natural_timeout_seconds", boundedTimeout terminateTimeout "terminate_timeout_seconds",
    boundedTimeout killTimeout "kill_timeout_seconds" with
  | .error error, _, _ => (.error error, process)
  | .ok _, .error error, _ => (.error error, process)
  | .ok _, .ok _, .error error => (.error error, process)
  | .ok _, .ok _, .ok _ =>
    let process := process.join e.natural
    if !process.isAlive then (.ok ⟨"exited", process.exitcode⟩, process)
    else
      let process := process.join e.terminated
      if !process.isAlive then
        (.ok ⟨if e.terminateLost then "exited" else "terminated", process.exitcode⟩, process)
      else
        let process := process.join e.killed
        if process.isAlive then
          (.error (.attemptSupervisorError "attempt child remained alive after kill"), process)
        else
          let disposition := if !e.killLost then "killed" else if !e.terminateLost then "terminated" else "exited"
          (.ok ⟨disposition, process.exitcode⟩, process)

end IRLight.Egress
