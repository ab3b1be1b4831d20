import IRLight.Assets.Processing
import IRLight.Assets.UploadIntent
import IRLight.Destinations.Catalog

/-! # The assets of the catalog

`catalog_store.py`: the upload and the processing of an asset. A call reads the catalog file under the catalog's lock,
changes the record of its asset, and writes the file. -/

namespace IRLight.Assets
open Destinations (UrlLib CommitFault)

inductive ProcessingStatus where
  | pending
  | uploading
  | processing
  | ready
  | failed
  deriving DecidableEq

/-- The record of an asset, with the fields that the calls read or write. -/
structure Asset where
  id : String
  userId : String
  sourceObjectKey : String
  processingStatus : ProcessingStatus
  contentType : Option String
  maxBytes : Option ℤ
  uploadedSizeBytes : Option ℤ
  uploadedSha256 : Option String
  processedSha256 : Option String
  processedWidth : Option ℤ
  processedHeight : Option ℤ
  failureReason : Option String
  createdAt : Timestamp
  updatedAt : Timestamp

inductive AssetExc where
  /-- What the catalog's functions raise for destinations and assets alike. -/
  | catalog (e : Destinations.CatalogExc)
  /-- `CatalogNotFound`, of an asset. -/
  | catalogNotFound (id : String)

def AssetExc.stateError (message : String) : AssetExc := .catalog (.catalogStateError message)
def AssetExc.validationError (message : String) : AssetExc := .catalog (.catalogValidationError message)

/-- `raise CatalogValidationError(str(exc)) from exc`. -/
def ofIntent {α : Type} : Except AssetUploadIntentError α → Except AssetExc α
  | .ok a => .ok a
  | .error e => .error (.validationError e.message)

def ofCatalog {α : Type} : Except Destinations.CatalogExc α → Except AssetExc α
  | .ok a => .ok a
  | .error e => .error (.catalog e)

structure Catalog where
  destinations : Destinations.Catalog
  assets : AList fun _ : String => Asset

/-- `_default_catalog`. -/
def Catalog.default : Catalog := ⟨∅, ∅⟩

/-- The catalog file and its initialization marker. -/
structure CatalogFiles where
  file : Option Catalog
  initialized : Bool

/-! ### What a stored record must look like -/

/-- A check of a field of an asset record. -/
def requireField (ok : Bool) (field : String) : Except AssetExc Unit :=
  if ok then .ok () else .error (.stateError s!"catalog asset record has invalid {field}")

def within (minimum maximum : ℤ) (value : Option ℤ) : Bool := value.all fun n => minimum ≤ n && n ≤ maximum

def isSha256 (value : String) : Bool := value.length = sha256HexLength && value.toList.all (· ∈ hexDigits)

/-- What `_validate_catalog_authority` requires of the asset under a key. -/
def validateAsset (key : String) (a : Asset) : Except AssetExc Unit := do
  if key = "" then .error (.stateError "catalog state has an invalid asset record")
  requireField (a.id ≠ "") "id"
  requireField (a.userId ≠ "") "user_id"
  if a.id ≠ key then .error (.stateError "catalog asset record id does not match its key")
  requireField (a.sourceObjectKey ≠ "") "source_object_key"
  requireField (within 1 maxUploadBytes a.maxBytes) "max_bytes"
  requireField (within 1 maxUploadBytes a.uploadedSizeBytes) "uploaded_size_bytes"
  requireField (a.uploadedSha256.all isSha256) "uploaded_sha256"
  requireField (a.processedSha256.all isSha256) "processed_sha256"
  requireField (within 1 maxImageDimension a.processedWidth) "processed_width"
  requireField (within 1 maxImageDimension a.processedHeight) "processed_height"

section
variable (lib : UrlLib)

/-- `_validate_catalog_authority`. -/
def validateCatalogAuthority (catalog : Catalog) : Except AssetExc Unit := do
  ofCatalog (Destinations.validateCatalogAuthority lib catalog.destinations)
  catalog.assets.entries.forM fun entry => validateAsset entry.1 entry.2

/-- `_get_owned`. -/
def getOwned (catalog : Catalog) (id userId : String) : Except AssetExc Asset :=
  match catalog.assets.lookup id with
  | some a => if a.userId = userId then .ok a else .error (.catalogNotFound id)
  | none => .error (.catalogNotFound id)

/-! ### Transactions -/

namespace CatalogFiles

/-- `_load`. -/
def load (files : CatalogFiles) : Except AssetExc Catalog :=
  match files.file with
  | some catalog => (validateCatalogAuthority lib catalog).map fun () => catalog
  | none =>
    if files.initialized then .error (.stateError "catalog state disappeared after initialization") else .ok .default

/-- `_save`, which may fail before or after its effect. -/
def save (files : CatalogFiles) (catalog : Catalog) (fault : Option CommitFault) : Except AssetExc Unit × CatalogFiles :=
  match validateCatalogAuthority lib catalog with
  | .error e => (.error e, files)
  | .ok () =>
    match fault with
    | none => (.ok (), ⟨some catalog, true⟩)
    | some .refused => (.error (.stateError "catalog state cannot be locked"), files)
    | some .marked => (.error (.stateError "catalog state cannot be locked"), ⟨files.file, true⟩)
    | some .replaced => (.error (.stateError "catalog state cannot be locked"), ⟨some catalog, true⟩)

/-- A transaction under the catalog's lock. The body gives the asset and the catalog to save. -/
def transact (files : CatalogFiles) (fault : Option CommitFault) (body : Catalog → Except AssetExc (Asset × Catalog)) :
    Except AssetExc Asset × CatalogFiles :=
  if fault = some .refused then (.error (.stateError "catalog state cannot be locked"), files)
  else
    match files.load lib >>= body with
    | .error e => (.error e, files)
    | .ok (asset, catalog) =>
      let (saved, files) := files.save lib catalog fault
      (saved.map fun () => asset, files)

end CatalogFiles
end

namespace Asset

/-- The record of `create_asset_upload_intent`. -/
def issued (id userId key normalizedType : String) (now : Timestamp) : Asset :=
  { id := id
    userId := userId
    sourceObjectKey := key
    processingStatus := .uploading
    contentType := some normalizedType
    maxBytes := some maxUploadBytes
    uploadedSizeBytes := none
    uploadedSha256 := none
    processedSha256 := none
    processedWidth := none
    processedHeight := none
    failureReason := none
    createdAt := now
    updatedAt := now }

/-- The record that `complete_asset_upload` writes. -/
def uploaded (a : Asset) (completion : Completion) (now : Timestamp) : Asset :=
  { a with
    processingStatus := .processing
    uploadedSizeBytes := some completion.sizeBytes
    uploadedSha256 := some completion.sha256
    updatedAt := now }

/-- The record that `complete_asset_processing` writes for a failure. -/
def failed (a : Asset) (failureReason : String) (now : Timestamp) : Asset :=
  { a with
    processingStatus := .failed
    failureReason := some (clip 500 (strip failureReason))
    updatedAt := now }

end Asset

def Catalog.put (catalog : Catalog) (id : String) (a : Asset) : Catalog := { catalog with assets := catalog.assets.insert id a }

def refuseIf (bad : Prop) [Decidable bad] (message : String) : Except AssetExc Unit :=
  if bad then .error (.validationError message) else .ok ()

section
variable (catalog : Catalog) (reading : PyFloat)

/-- `create_asset_upload_intent` under the lock. -/
def createAssetUploadIntent (newId userId normalizedType : String) : Except AssetExc (Asset × Catalog) := do
  let now ← ofCatalog (Destinations.validatedCatalogNow reading)
  let key ← ofIntent (sourceObjectKey (.str userId) (.str newId))
  let item := Asset.issued newId userId key normalizedType now
  return (item, catalog.put newId item)

/-- `complete_asset_upload` under the lock. -/
def completeAssetUpload (assetId userId normalizedType : String) (objectKey sizeBytes sha256 : Json) :
    Except AssetExc (Asset × Catalog) := do
  let asset ← getOwned catalog assetId userId
  refuseIf (asset.processingStatus ≠ .uploading) "asset is not awaiting an upload"
  refuseIf (asset.contentType ≠ some normalizedType) "upload completion content type does not match the issued intent"
  let completion ← ofIntent
    (validateUploadCompletion (.str userId) (.str assetId) (.str normalizedType) objectKey sizeBytes sha256)
  refuseIf (isOwnerBoundSourceObjectKey (.str userId) (.str assetId) (.str asset.sourceObjectKey) = false)
    "stored asset object key is not bound to this owner and asset"
  let now ← ofCatalog (Destinations.validatedCatalogNow reading)
  let asset := asset.uploaded completion now
  return (asset, catalog.put assetId asset)

/-- The metadata of a processed asset, as the caller gives it. -/
structure Processed where
  sha256 : Json
  width : Json
  height : Json
  variants : Json
  failureReason : Json

/-- A dimension that is given is a positive integer within the limit. -/
def requireDimension (value : Json) (message : String) : Except AssetExc Unit :=
  match value with
  | .null => .ok ()
  | .int n => refuseIf (n < 1 ∨ maxImageDimension < n) message
  | _ => .error (.validationError message)

/-- The failure reason, if one is given. -/
def requireFailureReason : Json → Except AssetExc (Option String)
  | .null => .ok none
  | .str reason =>
    if strip reason = "" then .error (.validationError "failure reason must be a non-empty string") else .ok (some reason)
  | _ => .error (.validationError "failure reason must be a non-empty string")

def requireProcessedSha256 : Json → Except AssetExc Unit
  | .null => .ok ()
  | .str sha256 => refuseIf (isSha256 sha256 = false) "processed sha256 must be 64 lowercase hex characters"
  | _ => .error (.validationError "processed sha256 must be 64 lowercase hex characters")

/-- What `complete_asset_processing` checks before it takes the lock. -/
def requireProcessed (p : Processed) : Except AssetExc (Option String) := do
  let failureReason ← requireFailureReason p.failureReason
  requireProcessedSha256 p.sha256
  requireDimension p.width "processed width is invalid"
  requireDimension p.height "processed height is invalid"
  return failureReason

/-- The reason that `complete_asset_processing` must have to go on. What follows its last error is never reached. -/
def requireFailure : Option String → Except AssetExc String
  | some failureReason => .ok failureReason
  | none => .error (.validationError ("processing completion cannot promote an asset to READY from this public API; " ++
      "a verified processing result is required"))

/-- `complete_asset_processing` under the lock. -/
def completeAssetProcessing (assetId userId : String) (failureReason : Option String) :
    Except AssetExc (Asset × Catalog) := do
  let asset ← getOwned catalog assetId userId
  refuseIf (asset.processingStatus ≠ .processing) "asset is not processing"
  let now ← ofCatalog (Destinations.validatedCatalogNow reading)
  let failureReason ← requireFailure failureReason
  let asset := asset.failed failureReason now
  return (asset, catalog.put assetId asset)

end

/-! ### Calls -/

/-- A call of the store. The id of a new asset is what `uuid.uuid4` gives. -/
inductive Call where
  | createAssetUploadIntent (newId userId : String) (contentType : Json)
  | completeAssetUpload (assetId userId : String) (contentType objectKey sizeBytes sha256 : Json)
  | completeAssetProcessing (assetId userId : String) (processed : Processed)

/-- A call with the clock that it reads and the I/O error that it meets. -/
structure Request where
  call : Call
  reading : PyFloat
  fault : Option CommitFault

section
variable (lib : UrlLib)

/-- What is checked before the lock is taken may end the call. -/
def CatalogFiles.checked {α : Type} (files : CatalogFiles) (check : Except AssetExc α)
    (rest : α → Except AssetExc Asset × CatalogFiles) : Except AssetExc Asset × CatalogFiles :=
  match check with
  | .error e => (.error e, files)
  | .ok a => rest a

def Request.run (r : Request) (files : CatalogFiles) : Except AssetExc Asset × CatalogFiles :=
  match r.call with
  | .createAssetUploadIntent newId userId contentType =>
    files.checked (ofIntent (normalizeImageContentType contentType)) fun normalizedType =>
      files.transact lib r.fault fun catalog => Assets.createAssetUploadIntent catalog r.reading newId userId normalizedType
  | .completeAssetUpload assetId userId contentType objectKey sizeBytes sha256 =>
    files.checked (ofIntent (normalizeImageContentType contentType)) fun normalizedType =>
      files.transact lib r.fault fun catalog =>
        Assets.completeAssetUpload catalog r.reading assetId userId normalizedType objectKey sizeBytes sha256
  | .completeAssetProcessing assetId userId processed =>
    files.checked (requireProcessed processed) fun failureReason =>
      files.transact lib r.fault fun catalog => Assets.completeAssetProcessing catalog r.reading assetId userId failureReason

/-- The files after a run of requests. -/
def runRequests (files : CatalogFiles) (requests : List Request) : CatalogFiles :=
  requests.foldl (fun files r => (r.run lib files).2) files

end
end IRLight.Assets
