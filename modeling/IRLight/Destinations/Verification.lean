import IRLight.Destinations.Catalog
import IRLight.Interleaving.Trace

/-! # Verifying destinations

The requests on destinations as programs. `verify_destination` reads the destination, probes it outside the lock, and
records the result in a second transaction. -/

namespace IRLight.Destinations
open Interleaving

/-- A transaction on the catalog, or a probe. -/
inductive CatalogOp where
  | create (userId type displayName serverUrl secretRef : String)
  | get (id : Uuid) (userId : String)
  | update (id : Uuid) (userId : String) (changes : DestinationUpdate)
  | delete (id : Uuid) (userId : String)
  | probe (url : String)
  | recordVerified (id : Uuid) (userId url : String) (result : ProbeResult)
  | recordFailure (id : Uuid) (userId expectedUrl reason : String)

abbrev CatalogOp.Res : CatalogOp → Type
  | .create _ _ _ _ _ | .get _ _ | .update _ _ _ | .recordVerified _ _ _ _ => Destination
  | .delete _ _ | .recordFailure _ _ _ _ => Unit
  | .probe _ => ProbeResult

/-- What the environment supplies to a call: the clock, an I/O error, and what a probe finds. -/
structure CatalogInput where
  clock : PyFloat
  fault : Option CommitFault
  probe : Except CatalogExc ProbeResult

/-- The catalog's files, and how many calls were made: identifiers are drawn from it and never repeat. -/
structure CatalogWorld where
  files : CatalogFiles
  serial : ℕ

namespace CatalogWorld

def initial : CatalogWorld := ⟨⟨none, false⟩, 0⟩

/-- The destination that is stored under an identifier. -/
def destination? (w : CatalogWorld) (id : Uuid) : Option Destination := w.files.file.bind fun catalog => catalog.lookup id

variable (lib : UrlLib)

def transact {α : Type} (w : CatalogWorld) (x : CatalogInput)
    (body : Catalog → Except CatalogExc (α × Option Catalog)) : Except CatalogExc α × CatalogWorld :=
  let (result, files) := w.files.transact lib x.fault body
  (result, { w with files := files })

/-- One call by task `i`. -/
def exec : Exec CatalogOp CatalogOp.Res CatalogExc CatalogInput CatalogWorld := fun i o x w =>
  let fresh : Uuid := ⟨i, w.serial⟩
  let w := { w with serial := w.serial + 1 }
  match o with
  | .create user type displayName serverUrl secretRef =>
    w.transact lib x fun c => createDestination c fresh user x.clock type displayName serverUrl secretRef
  | .get id user => w.transact lib x fun c => getDestination c id user
  | .update id user changes => w.transact lib x fun c => updateDestination c id user x.clock changes
  | .delete id user => w.transact lib x fun c => deleteDestination c id user
  | .probe _ => (x.probe, w)
  | .recordVerified id user url result => w.transact lib x fun c => recordVerified c id user x.clock url result
  | .recordFailure id user expectedUrl reason =>
    w.transact lib x fun c => recordVerificationFailure c id user x.clock expectedUrl reason

end CatalogWorld

abbrev CatalogProg := Prog CatalogOp CatalogOp.Res CatalogExc

/-- One call. -/
abbrev CatalogOp.call (o : CatalogOp) : CatalogProg o.Res := Prog.op o

section
variable (lib : UrlLib)

/-- The failure is recorded, and `verify_destination` raises it. -/
def verificationFailed {α : Type} (id : Uuid) (userId url reason : String) : CatalogProg α := do
  let _ ← (CatalogOp.recordFailure id userId url reason).call
  throw (.catalogVerifyFailed reason)

/-- `except DestinationProbeError` and `except Exception`. -/
def probeFailed {α : Type} (id : Uuid) (userId url : String) : CatalogExc → CatalogProg α
  | .destinationProbeError message => verificationFailed id userId url message
  | _ => verificationFailed id userId url "destination verification failed"

/-- What `verify_destination` does with the result of its probe. -/
def recordProbe (id : Uuid) (userId url destinationType : String) (result : ProbeResult) : CatalogProg Destination :=
  if lib.lower result.protocol ≠ destinationType then
    verificationFailed id userId url "destination probe protocol does not match destination type"
  else (CatalogOp.recordVerified id userId url result).call

def verifyDestination (id : Uuid) (userId : String) : CatalogProg Destination := do
  let item ← (CatalogOp.get id userId).call
  let url := item.serverUrl
  let destinationType := lib.lower item.type
  match lib.urlsplit url with
  | none => throw (.valueError "Invalid URL")
  | some parsed =>
    if lib.lower parsed.scheme ≠ destinationType then
      verificationFailed id userId url "destination type does not match server URL scheme"
    else
      let result ← (CatalogOp.probe url).call.tryExcept (probeFailed id userId url)
      recordProbe lib id userId url destinationType result

/-- A request on the destinations. -/
inductive CatalogRequest where
  | create (userId type displayName serverUrl secretRef : String)
  | get (id : Uuid) (userId : String)
  | update (id : Uuid) (userId : String) (changes : DestinationUpdate)
  | delete (id : Uuid) (userId : String)
  | verify (id : Uuid) (userId : String)

/-- What a request is answered. -/
inductive CatalogResponse where
  | destination (destination : Destination)
  | deleted

def CatalogRequest.program : CatalogRequest → CatalogProg CatalogResponse
  | .create user type displayName serverUrl secretRef => do
    ofExcept (validateDestinationServerUrl lib serverUrl)
    .destination <$> (CatalogOp.create user type displayName serverUrl secretRef).call
  | .get id user => .destination <$> (CatalogOp.get id user).call
  | .update id user changes => do
    match changes.serverUrl with
    | some serverUrl => ofExcept (validateDestinationServerUrl lib serverUrl)
    | none => pure ()
    .destination <$> (CatalogOp.update id user changes).call
  | .delete id user => (fun () => .deleted) <$> (CatalogOp.delete id user).call
  | .verify id user => .destination <$> verifyDestination lib id user

/-- The requests on the catalog at one moment of a run. -/
abbrev CatalogRun := Pool CatalogWorld CatalogRequest CatalogOp CatalogOp.Res CatalogExc CatalogResponse CatalogInput

/-- Any requests, interleaved in any way, may reach this moment. -/
abbrev CatalogRun.Reaches (c : CatalogRun) : Prop :=
  Reachable (CatalogWorld.exec lib) (CatalogRequest.program lib) (fun _ _ => True) .initial c

abbrev CatalogHistory := List (Event CatalogOp CatalogOp.Res CatalogExc CatalogInput)

end
end IRLight.Destinations
