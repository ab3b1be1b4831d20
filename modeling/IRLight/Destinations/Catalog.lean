import IRLight.Destinations.UrlSafety
import IRLight.Session.Record
import Mathlib.Data.List.AList

/-! # The destinations of the catalog

`catalog_store.py`: the catalog file, the transactions on its destinations, and what each of them does to a record. -/

namespace IRLight.Destinations

inductive VerificationStatus where
  | unverified
  | verified
  | failed
  deriving DecidableEq

/-- What a probe reports, and what is kept of it as `verification_transport`. -/
structure ProbeResult where
  protocol : String
  peerIp : String
  peerPort : ℕ
  elapsedMs : ℚ
  deriving DecidableEq

structure Destination where
  id : Uuid
  userId : String
  type : String
  displayName : String
  serverUrl : String
  secretRef : String
  enabled : Bool
  verificationStatus : VerificationStatus
  lastVerifiedAt : Option Timestamp
  lastVerificationError : Option String
  verificationTransport : Option ProbeResult
  createdAt : Timestamp
  updatedAt : Timestamp
  deriving DecidableEq

inductive CatalogExc where
  | catalogStateError (message : String)
  | catalogValidationError (message : String)
  | catalogNotFound (id : Uuid)
  | catalogVerifyFailed (reason : String)
  | destinationProbeError (message : String)
  | valueError (message : String)
  deriving DecidableEq

/-- The arguments of `update_destination` that may be given. -/
structure DestinationUpdate where
  displayName : Option String := none
  serverUrl : Option String := none
  secretRef : Option String := none
  enabled : Option Bool := none

namespace Destination

/-- `create_destination`'s record. -/
def created (id : Uuid) (userId type displayName serverUrl secretRef : String) (now : Timestamp) : Destination :=
  { id := id
    userId := userId
    type := type
    displayName := displayName
    serverUrl := serverUrl
    secretRef := secretRef
    enabled := true
    verificationStatus := .unverified
    lastVerifiedAt := none
    lastVerificationError := none
    verificationTransport := none
    createdAt := now
    updatedAt := now }

/-- A new URL makes the destination unverified. -/
def moved (d : Destination) (serverUrl : String) : Destination :=
  if serverUrl ≠ d.serverUrl then
    { d with
      serverUrl := serverUrl
      verificationStatus := .unverified
      lastVerifiedAt := none
      lastVerificationError := none
      verificationTransport := none }
  else d

def updated (d : Destination) (changes : DestinationUpdate) (now : Timestamp) : Destination :=
  let d := match changes.serverUrl with
    | some serverUrl => d.moved serverUrl
    | none => d
  { d with
    displayName := changes.displayName.getD d.displayName
    secretRef := changes.secretRef.getD d.secretRef
    enabled := changes.enabled.getD d.enabled
    updatedAt := now }

/-- The successful result of `verify_destination`. -/
def verified (d : Destination) (result : ProbeResult) (now : Timestamp) : Destination :=
  { d with
    verificationStatus := .verified
    lastVerifiedAt := some now
    lastVerificationError := none
    verificationTransport := some result
    updatedAt := now }

/-- The result that `_record_verification_failure` writes. -/
def failed (d : Destination) (reason : String) (now : Timestamp) : Destination :=
  { d with
    verificationStatus := .failed
    lastVerificationError := some (clip 200 reason)
    verificationTransport := none
    updatedAt := now }

end Destination

/-! ### The file -/

abbrev Catalog := AList fun _ : Uuid => Destination

/-- The catalog file and its initialization marker. -/
structure CatalogFiles where
  file : Option Catalog
  initialized : Bool

/-- Where a transaction meets an I/O error: before it writes anything, after it set the marker, or after it replaced
    the file. -/
inductive CommitFault where
  | refused
  | marked
  | replaced
  deriving DecidableEq

/-- `_validated_catalog_now`. -/
def validatedCatalogNow (reading : PyFloat) : Except CatalogExc Timestamp :=
  match reading with
  | .finite q => if h : 0 ≤ q then .ok ⟨q, h⟩ else .error (.catalogStateError "catalog clock has invalid now")
  | _ => .error (.catalogStateError "catalog clock has invalid now")

section
variable (lib : UrlLib)

/-- `_validate_destination_server_url`. -/
def validateDestinationServerUrl (serverUrl : String) : Except CatalogExc Unit :=
  match lib.validateDestinationUrlSecretSafety serverUrl with
  | .ok () => .ok ()
  | .error message => .error (.catalogValidationError message)

/-- `_require_catalog_string`. -/
def requireCatalogString (value field : String) : Except CatalogExc Unit :=
  if value = "" then .error (.catalogStateError s!"catalog destination record has invalid {field}") else .ok ()

/-- What `_validate_catalog_authority` requires of the record under a key. -/
def validateDestination (key : Uuid) (d : Destination) : Except CatalogExc Unit := do
  requireCatalogString d.userId "user_id"
  if d.id ≠ key then .error (.catalogStateError "catalog destination record id does not match its key")
  requireCatalogString d.type "type"
  requireCatalogString d.displayName "display_name"
  requireCatalogString d.serverUrl "server_url"
  requireCatalogString d.secretRef "secret_ref"
  match validateDestinationServerUrl lib d.serverUrl with
  | .ok () => .ok ()
  | .error _ => .error (.catalogStateError "catalog contains a destination URL with embedded credential material")

/-- `_validate_catalog_authority`. -/
def validateCatalogAuthority (catalog : Catalog) : Except CatalogExc Unit :=
  catalog.entries.forM fun entry => validateDestination lib entry.1 entry.2

/-- `_get_owned`. -/
def getOwned (catalog : Catalog) (id : Uuid) (userId : String) : Except CatalogExc Destination :=
  match catalog.lookup id with
  | some d => if d.userId = userId then .ok d else .error (.catalogNotFound id)
  | none => .error (.catalogNotFound id)

namespace CatalogFiles

/-- `_load`. -/
def load (files : CatalogFiles) : Except CatalogExc Catalog :=
  match files.file with
  | some catalog => (validateCatalogAuthority lib catalog).map fun () => catalog
  | none =>
    if files.initialized then .error (.catalogStateError "catalog state disappeared after initialization") else .ok ∅

/-- `_save`, which may fail before or after its effect. -/
def save (files : CatalogFiles) (catalog : Catalog) (fault : Option CommitFault) :
    Except CatalogExc Unit × CatalogFiles :=
  match validateCatalogAuthority lib catalog with
  | .error e => (.error e, files)
  | .ok () =>
    match fault with
    | none => (.ok (), ⟨some catalog, true⟩)
    | some .refused => (.error (.catalogStateError "catalog state cannot be locked"), files)
    | some .marked => (.error (.catalogStateError "catalog state cannot be locked"), ⟨files.file, true⟩)
    | some .replaced => (.error (.catalogStateError "catalog state cannot be locked"), ⟨some catalog, true⟩)

/-- A transaction under the catalog's lock. The body gives its result and the catalog to save, if any. -/
def transact {α : Type} (files : CatalogFiles) (fault : Option CommitFault)
    (body : Catalog → Except CatalogExc (α × Option Catalog)) : Except CatalogExc α × CatalogFiles :=
  if fault = some .refused then (.error (.catalogStateError "catalog state cannot be locked"), files)
  else
    match files.load lib >>= body with
    | .error e => (.error e, files)
    | .ok (result, none) => (.ok result, files)
    | .ok (result, some catalog) =>
      let (saved, files) := files.save lib catalog fault
      (saved.map fun () => result, files)

end CatalogFiles
end

/-! ### Transactions -/

section
variable (catalog : Catalog) (id : Uuid) (userId : String) (reading : PyFloat)

def createDestination (type displayName serverUrl secretRef : String) :
    Except CatalogExc (Destination × Option Catalog) := do
  let now ← validatedCatalogNow reading
  let item := Destination.created id userId type displayName serverUrl secretRef now
  return (item, some (catalog.insert id item))

def getDestination : Except CatalogExc (Destination × Option Catalog) := do
  let item ← getOwned catalog id userId
  return (item, none)

def updateDestination (changes : DestinationUpdate) : Except CatalogExc (Destination × Option Catalog) := do
  let item ← getOwned catalog id userId
  let now ← validatedCatalogNow reading
  let item := item.updated changes now
  return (item, some (catalog.insert id item))

def deleteDestination : Except CatalogExc (Unit × Option Catalog) := do
  let _ ← getOwned catalog id userId
  return ((), some (catalog.erase id))

/-- The last transaction of `verify_destination`. -/
def recordVerified (url : String) (result : ProbeResult) : Except CatalogExc (Destination × Option Catalog) := do
  let current ← getOwned catalog id userId
  if current.serverUrl ≠ url then .error (.catalogVerifyFailed "destination changed during verification")
  else
    let now ← validatedCatalogNow reading
    let item := current.verified result now
    return (item, some (catalog.insert id item))

/-- `_record_verification_failure`. -/
def recordVerificationFailure (expectedUrl reason : String) : Except CatalogExc (Unit × Option Catalog) := do
  let item ← getOwned catalog id userId
  if item.serverUrl ≠ expectedUrl then return ((), none)
  else
    let now ← validatedCatalogNow reading
    return ((), some (catalog.insert id (item.failed reason now)))

end
end IRLight.Destinations
