import IRLight.Assets.Catalog
import IRLight.Collections.Splits

/-! # The life of an uploaded asset

Runs of calls on the asset catalog, by any users and with I/O errors at any commit. -/

namespace IRLight.Assets
open Destinations (UrlLib CommitFault)

/-- What the file says. -/
def CatalogFiles.catalog (files : CatalogFiles) : Catalog := files.file.getD .default

def CatalogFiles.asset (files : CatalogFiles) (id : String) : Option Asset := files.catalog.assets.lookup id

/-! ### What a call does -/

/-- What a call writes when it is accepted. -/
inductive Applied (catalog : Catalog) : Call → Asset → Catalog → Prop
  | issued {newId userId type key : String} {contentType : Json} {now : Timestamp}
      (htype : normalizeImageContentType contentType = .ok type)
      (hkey : sourceObjectKey (.str userId) (.str newId) = .ok key) :
      Applied catalog (.createAssetUploadIntent newId userId contentType) (.issued newId userId key type now)
        (catalog.put newId (.issued newId userId key type now))
  | uploaded {assetId type : String} {contentType sizeBytes sha256 : Json} {a : Asset} {completion : Completion} {now : Timestamp}
      (hget : catalog.assets.lookup assetId = some a) (hstatus : a.processingStatus = .uploading)
      (htype : normalizeImageContentType contentType = .ok type) (hissued : a.contentType = some type)
      (hkey : sourceObjectKey (.str a.userId) (.str assetId) = .ok a.sourceObjectKey) :
      Applied catalog (.completeAssetUpload assetId a.userId contentType (.str a.sourceObjectKey) sizeBytes sha256)
        (a.uploaded completion now) (catalog.put assetId (a.uploaded completion now))
  | failed {assetId reason : String} {processed : Processed} {a : Asset} {now : Timestamp}
      (hget : catalog.assets.lookup assetId = some a) (hstatus : a.processingStatus = .processing)
      (hreason : processed.failureReason = .str reason) :
      Applied catalog (.completeAssetProcessing assetId a.userId processed) (a.failed reason now)
        (catalog.put assetId (a.failed reason now))

/-- What a request does to the files. It raises, or it has written what its call writes. After the file has been replaced
it may still raise. -/
inductive Ran (r : Request) (files : CatalogFiles) : Except AssetExc Asset → CatalogFiles → Prop
  | raised {e : AssetExc} {files' : CatalogFiles} (hfile : files'.file = files.file) : Ran r files (.error e) files'
  | wrote {result : Except AssetExc Asset} {files' : CatalogFiles} {a : Asset} {catalog : Catalog}
      (happlied : Applied files.catalog r.call a catalog) (hfile : files'.file = some catalog)
      (hresult : result = .ok a ∨ r.fault = some .replaced) : Ran r files result files'

section
variable {lib : UrlLib} {files : CatalogFiles} {catalog : Catalog} {r : Request} {fault : Option CommitFault}

theorem load_eq_ok (h : files.load lib = .ok catalog) : catalog = files.catalog := by
  unfold CatalogFiles.load at h
  unfold CatalogFiles.catalog
  split at h
  · rename_i stored hstored
    rw [hstored]
    cases hvalid : validateCatalogAuthority lib stored with
    | error e =>
      rw [hvalid] at h
      cases h
    | ok u =>
      rw [hvalid] at h
      exact (Except.ok.inj h).symm
  · rename_i hnone
    rw [hnone]
    split at h
    · cases h
    · exact (Except.ok.inj h).symm

/-- A transaction. -/
theorem transact_ran {body : Catalog → Except AssetExc (Asset × Catalog)}
    (hbody : ∀ a catalog, body files.catalog = .ok (a, catalog) → Applied files.catalog r.call a catalog) :
    Ran r files (files.transact lib r.fault body).1 (files.transact lib r.fault body).2 := by
  unfold CatalogFiles.transact
  split
  · exact .raised rfl
  cases hok : files.load lib >>= body with
  | error e => exact .raised rfl
  | ok written =>
    obtain ⟨loaded, hload, hrun⟩ := bind_eq_ok.mp hok
    obtain rfl := load_eq_ok hload
    have happlied := hbody written.1 written.2 hrun
    change Ran r files ((files.save lib written.2 r.fault).1.map fun () => written.1) (files.save lib written.2 r.fault).2
    unfold CatalogFiles.save
    split
    · exact .raised rfl
    · split
      · exact .wrote happlied rfl (.inl rfl)
      · exact .raised rfl
      · exact .raised rfl
      · rename_i hfault
        exact .wrote happlied rfl (.inr hfault)

theorem checked_ran {α : Type} {check : Except AssetExc α} {rest : α → Except AssetExc Asset × CatalogFiles}
    (h : ∀ a, check = .ok a → Ran r files (rest a).1 (rest a).2) :
    Ran r files (files.checked check rest).1 (files.checked check rest).2 := by
  unfold CatalogFiles.checked
  split
  · exact .raised rfl
  · exact h _ rfl

theorem ofIntent_eq_ok {α : Type} {x : Except AssetUploadIntentError α} {a : α} : ofIntent x = .ok a ↔ x = .ok a := by
  cases x with
  | ok b => exact ⟨fun h => congrArg Except.ok (Except.ok.inj h), fun h => congrArg Except.ok (Except.ok.inj h)⟩
  | error e => exact ⟨fun h => (by cases h), fun h => (by cases h)⟩

theorem getOwned_eq_ok {id userId : String} {a : Asset} (h : getOwned catalog id userId = .ok a) :
    catalog.assets.lookup id = some a ∧ a.userId = userId := by
  unfold getOwned at h
  split at h
  · rename_i stored hstored
    split at h
    · rename_i howner
      obtain rfl := Except.ok.inj h
      exact ⟨hstored, howner⟩
    · cases h
  · cases h

theorem requireBoundKey_eq_ok {objectKey : Json} {key : String} (h : requireBoundKey objectKey key = .ok ()) :
    objectKey = .str key := by
  unfold requireBoundKey at h
  split at h
  · split at h
    · rename_i hsame
      exact congrArg Json.str hsame
    · cases h
  · cases h

theorem validateUploadCompletion_eq_ok {userId assetId contentType objectKey sizeBytes sha256 : Json} {completion : Completion}
    (h : validateUploadCompletion userId assetId contentType objectKey sizeBytes sha256 = .ok completion) :
    ∃ key, sourceObjectKey userId assetId = .ok key ∧ objectKey = .str key := by
  obtain ⟨type, -, hrest⟩ := bind_eq_ok.mp h
  obtain ⟨key, hkey, hrest⟩ := bind_eq_ok.mp hrest
  obtain ⟨_, hbound, -⟩ := bind_eq_ok.mp hrest
  exact ⟨key, hkey, requireBoundKey_eq_ok hbound⟩

theorem isOwnerBound_key {userId assetId : Json} {key expected : String} (hkey : sourceObjectKey userId assetId = .ok expected)
    (h : ¬isOwnerBoundSourceObjectKey userId assetId (.str key) = false) : key = expected := by
  have hbound : isOwnerBoundSourceObjectKey userId assetId (.str key) = (decide (key ≠ "") && decide (key = expected)) := by
    simp only [isOwnerBoundSourceObjectKey, hkey]
  rw [hbound, Bool.not_eq_false, Bool.and_eq_true] at h
  exact of_decide_eq_true h.2

theorem refuseIf_eq_ok {bad : Prop} [Decidable bad] {message : String} (h : refuseIf bad message = .ok ()) : ¬bad := by
  intro hbad
  rw [refuseIf, if_pos hbad] at h
  cases h

theorem requireProcessed_eq_ok {p : Processed} {reason : String} (h : requireProcessed p = .ok (some reason)) :
    p.failureReason = .str reason := by
  obtain ⟨given, hreason, hrest⟩ := bind_eq_ok.mp h
  obtain ⟨_, -, hrest⟩ := bind_eq_ok.mp hrest
  obtain ⟨_, -, hrest⟩ := bind_eq_ok.mp hrest
  obtain ⟨_, -, hrest⟩ := bind_eq_ok.mp hrest
  obtain rfl := pure_eq_ok.mp hrest
  unfold requireFailureReason at hreason
  split at hreason
  · cases hreason
  · rename_i text hgiven
    split at hreason
    · cases hreason
    · rw [hgiven, Option.some.inj (Except.ok.inj hreason)]
  · cases hreason

theorem requireFailure_eq_ok {given : Option String} {reason : String} (h : requireFailure given = .ok reason) :
    given = some reason := by
  cases given with
  | none => cases h
  | some text => exact congrArg some (Except.ok.inj h)

theorem run_ran (r : Request) (files : CatalogFiles) : Ran r files (r.run lib files).1 (r.run lib files).2 := by
  unfold Request.run
  cases hcall : r.call with
  | createAssetUploadIntent newId userId contentType =>
    refine checked_ran fun type htype => transact_ran fun a catalog hbody => ?_
    obtain ⟨now, -, hrest⟩ := bind_eq_ok.mp hbody
    obtain ⟨key, hkey, hrest⟩ := bind_eq_ok.mp hrest
    obtain ⟨rfl, rfl⟩ := Prod.mk.inj (Except.ok.inj hrest)
    rw [hcall]
    exact .issued (ofIntent_eq_ok.mp htype) (ofIntent_eq_ok.mp hkey)
  | completeAssetUpload assetId userId contentType objectKey sizeBytes sha256 =>
    refine checked_ran fun type htype => transact_ran fun a catalog hbody => ?_
    obtain ⟨stored, howned, hrest⟩ := bind_eq_ok.mp hbody
    obtain ⟨_, hstatus, hrest⟩ := bind_eq_ok.mp hrest
    obtain ⟨_, hissued, hrest⟩ := bind_eq_ok.mp hrest
    obtain ⟨completion, hcompletion, hrest⟩ := bind_eq_ok.mp hrest
    obtain ⟨_, hbound, hrest⟩ := bind_eq_ok.mp hrest
    obtain ⟨now, -, hrest⟩ := bind_eq_ok.mp hrest
    obtain ⟨rfl, rfl⟩ := Prod.mk.inj (pure_eq_ok.mp hrest)
    obtain ⟨hget, rfl⟩ := getOwned_eq_ok howned
    obtain ⟨key, hkey, rfl⟩ := validateUploadCompletion_eq_ok (ofIntent_eq_ok.mp hcompletion)
    obtain rfl := isOwnerBound_key hkey (refuseIf_eq_ok hbound)
    rw [hcall]
    exact .uploaded hget (not_not.mp (refuseIf_eq_ok hstatus)) (ofIntent_eq_ok.mp htype)
      (not_not.mp (refuseIf_eq_ok hissued)) hkey
  | completeAssetProcessing assetId userId processed =>
    refine checked_ran fun reason hreason => transact_ran fun a catalog hbody => ?_
    obtain ⟨stored, howned, hrest⟩ := bind_eq_ok.mp hbody
    obtain ⟨_, hstatus, hrest⟩ := bind_eq_ok.mp hrest
    obtain ⟨now, -, hrest⟩ := bind_eq_ok.mp hrest
    obtain ⟨text, hfailure, hrest⟩ := bind_eq_ok.mp hrest
    obtain ⟨rfl, rfl⟩ := Prod.mk.inj (pure_eq_ok.mp hrest)
    obtain ⟨hget, rfl⟩ := getOwned_eq_ok howned
    obtain rfl := requireFailure_eq_ok hfailure
    rw [hcall]
    exact .failed hget (not_not.mp (refuseIf_eq_ok hstatus)) (requireProcessed_eq_ok hreason)

end

/-! ### The life of an asset -/

/-- What an asset is issued with stays. -/
structure Asset.SameIntent (a a' : Asset) : Prop where
  userId : a.userId = a'.userId
  sourceObjectKey : a.sourceObjectKey = a'.sourceObjectKey
  contentType : a.contentType = a'.contentType

namespace Request
variable (r : Request) (id : String) (a : Asset)

/-- The request issues the asset: its key is derived from its owner and its id, and its type is the normalized one. -/
def Issues : Prop := ∃ contentType type, r.call = .createAssetUploadIntent id a.userId contentType ∧
  normalizeImageContentType contentType = .ok type ∧ a.contentType = some type ∧
  sourceObjectKey (.str a.userId) (.str id) = .ok a.sourceObjectKey

/-- The owner completes the upload, with the key and the type of the asset. -/
def CompletesUpload : Prop := ∃ contentType type sizeBytes sha256,
  r.call = .completeAssetUpload id a.userId contentType (.str a.sourceObjectKey) sizeBytes sha256 ∧
  normalizeImageContentType contentType = .ok type ∧ a.contentType = some type

/-- The owner gives a failure reason. -/
def FailsProcessing : Prop := ∃ processed reason,
  r.call = .completeAssetProcessing id a.userId processed ∧ processed.failureReason = .str reason

end Request

/-- What a request makes of the asset with the id. -/
inductive Moved (r : Request) (id : String) : Option Asset → Option Asset → Prop
  | kept {x : Option Asset} : Moved r id x x
  | issued {a : Asset} (h : r.Issues id a) (hto : a.processingStatus = .uploading) : Moved r id none (some a)
  | uploaded {a a' : Asset} (h : r.CompletesUpload id a) (hsame : a.SameIntent a') (hfrom : a.processingStatus = .uploading)
      (hto : a'.processingStatus = .processing) : Moved r id (some a) (some a')
  | failed {a a' : Asset} (h : r.FailsProcessing id a) (hsame : a.SameIntent a') (hfrom : a.processingStatus = .processing)
      (hto : a'.processingStatus = .failed) : Moved r id (some a) (some a')

/-- The asset that a completion is about, and the statuses that it must not have afterwards. -/
def Call.completes : Call → Option (String × List ProcessingStatus)
  | .createAssetUploadIntent _ _ _ => none
  | .completeAssetUpload assetId _ _ _ _ _ => some (assetId, [.uploading])
  | .completeAssetProcessing assetId _ _ => some (assetId, [.uploading, .processing])

/-- `uuid.uuid4` gives no id twice. -/
def FreshIds (lib : UrlLib) (files : CatalogFiles) (requests : List Request) : Prop :=
  ∀ before r after, requests = before ++ r :: after → ∀ newId userId contentType,
    r.call = .createAssetUploadIntent newId userId contentType → (runRequests lib files before).asset newId = none

/-- How a request is carried out after a run of requests. -/
structure Orderly (lib : UrlLib) (files : CatalogFiles) (before : List Request) (r : Request) : Prop where
  moved : ∀ id, Moved r id ((runRequests lib files before).asset id) ((r.run lib (runRequests lib files before)).2.asset id)
  /-- The owner, the key and the type of an asset are those that it was issued with. -/
  asIssued : ∀ id a, (runRequests lib files before).asset id = some a →
    (∃ a₀, files.asset id = some a₀ ∧ a₀.SameIntent a) ∨ ∃ c ∈ before, c.Issues id a
  neverReady : ∀ id a, (r.run lib (runRequests lib files before)).2.asset id = some a → a.processingStatus = .ready →
    (runRequests lib files before).asset id = some a
  rejected : ∀ e, (r.run lib (runRequests lib files before)).1 = .error e → r.fault ≠ some .replaced →
    (r.run lib (runRequests lib files before)).2.file = (runRequests lib files before).file
  replayed : ∀ earlier c later k, before = earlier ++ c :: later → c.call.completes = some k → r.call.completes = some k →
    (∃ a, (c.run lib (runRequests lib files earlier)).1 = .ok a) →
      (r.run lib (runRequests lib files before)).2.file = (runRequests lib files before).file

section
variable {lib : UrlLib} {files files' : CatalogFiles} {catalog catalog' : Catalog} {r : Request} {id : String} {a : Asset}

theorem lookup_put {key : String} : (catalog.put key a).assets.lookup id = if id = key then some a else catalog.assets.lookup id := by
  split
  · rename_i h
    rw [h]
    exact AList.lookup_insert _
  · rename_i h
    exact AList.lookup_insert_ne h

theorem asset_of_file (h : files'.file = files.file) (id : String) : files'.asset id = files.asset id := by
  rw [CatalogFiles.asset, CatalogFiles.catalog, h]
  rfl

theorem asset_of_written (h : files'.file = some catalog) (id : String) : files'.asset id = catalog.assets.lookup id := by
  rw [CatalogFiles.asset, CatalogFiles.catalog, h]
  rfl

/-- What an accepted call makes of an asset. -/
theorem Applied.moved (h : Applied catalog r.call a catalog')
    (hfresh : ∀ newId userId contentType, r.call = .createAssetUploadIntent newId userId contentType →
      catalog.assets.lookup newId = none) (id : String) :
    Moved r id (catalog.assets.lookup id) (catalog'.assets.lookup id) := by
  cases hcall : r.call with
  | createAssetUploadIntent newId userId contentType =>
    have hnone := hfresh _ _ _ hcall
    rw [hcall] at h
    cases h with
    | issued htype hkey =>
      rw [lookup_put]
      split
      · rename_i hid
        rw [hid, hnone]
        exact .issued ⟨_, _, hcall, htype, rfl, hkey⟩ rfl
      · exact .kept
  | completeAssetUpload assetId userId contentType objectKey sizeBytes sha256 =>
    rw [hcall] at h
    cases h with
    | uploaded hget hstatus htype hissued hkey =>
      rw [lookup_put]
      split
      · rename_i hid
        rw [hid, hget]
        exact .uploaded ⟨_, _, _, _, hcall, htype, hissued⟩ ⟨rfl, rfl, rfl⟩ hstatus rfl
      · exact .kept
  | completeAssetProcessing assetId userId processed =>
    rw [hcall] at h
    cases h with
    | failed hget hstatus hreason =>
      rw [lookup_put]
      split
      · rename_i hid
        rw [hid, hget]
        exact .failed ⟨_, _, hcall, hreason⟩ ⟨rfl, rfl, rfl⟩ hstatus rfl
      · exact .kept

/-- A completion is accepted once. -/
theorem Applied.completes {call : Call} {awaited : List ProcessingStatus} (h : Applied catalog call a catalog')
    (hcall : call.completes = some (id, awaited)) :
    (∃ b, catalog.assets.lookup id = some b ∧ b.processingStatus ∈ awaited) ∧
      ∃ b, catalog'.assets.lookup id = some b ∧ b.processingStatus ∉ awaited := by
  cases h with
  | issued htype hkey => cases hcall
  | @uploaded assetId type contentType sizeBytes sha256 b completion now hget hstatus htype hissued hkey =>
    obtain ⟨rfl, rfl⟩ := Prod.mk.inj (Option.some.inj hcall)
    have hto : ProcessingStatus.processing ∉ [ProcessingStatus.uploading] := by decide
    exact ⟨⟨b, hget, hstatus ▸ List.mem_cons_self⟩, _, AList.lookup_insert _, hto⟩
  | @failed assetId reason processed b now hget hstatus hreason =>
    obtain ⟨rfl, rfl⟩ := Prod.mk.inj (Option.some.inj hcall)
    have hto : ProcessingStatus.failed ∉ [ProcessingStatus.uploading, ProcessingStatus.processing] := by decide
    exact ⟨⟨b, hget, hstatus ▸ List.mem_cons_of_mem _ List.mem_cons_self⟩, _, AList.lookup_insert _, hto⟩

theorem Call.awaited_spec {call : Call} {awaited : List ProcessingStatus} (h : call.completes = some (id, awaited)) :
    ProcessingStatus.uploading ∈ awaited ∧ ProcessingStatus.failed ∉ awaited := by
  cases call with
  | createAssetUploadIntent newId userId contentType => cases h
  | completeAssetUpload assetId userId contentType objectKey sizeBytes sha256 =>
    obtain ⟨-, rfl⟩ := Prod.mk.inj (Option.some.inj h)
    decide
  | completeAssetProcessing assetId userId processed =>
    obtain ⟨-, rfl⟩ := Prod.mk.inj (Option.some.inj h)
    decide

/-! ### Runs -/

theorem run_moved (hfresh : ∀ newId userId contentType, r.call = .createAssetUploadIntent newId userId contentType →
      files.asset newId = none) (id : String) : Moved r id (files.asset id) ((r.run lib files).2.asset id) := by
  have hran : Ran r files (r.run lib files).1 (r.run lib files).2 := run_ran r files
  generalize (r.run lib files).1 = result, (r.run lib files).2 = files' at hran
  cases hran with
  | raised hfile =>
    rw [asset_of_file hfile]
    exact .kept
  | wrote happlied hfile hresult =>
    rw [asset_of_written hfile]
    exact happlied.moved hfresh id

variable {before after requests : List Request}

theorem runRequests_append : runRequests lib files (before ++ after) = runRequests lib (runRequests lib files before) after :=
  List.foldl_append

theorem runRequests_concat : runRequests lib files (before ++ [r]) = (r.run lib (runRequests lib files before)).2 :=
  runRequests_append

theorem FreshIds.left (h : FreshIds lib files (before ++ after)) : FreshIds lib files before := by
  intro seen r later hsplit
  exact h seen r (later ++ after) (by rw [hsplit, List.append_assoc, List.cons_append])

theorem FreshIds.right (h : FreshIds lib files (before ++ after)) : FreshIds lib (runRequests lib files before) after := by
  intro seen r later hsplit
  rw [← runRequests_append]
  exact h (before ++ seen) r later (by rw [hsplit, List.append_assoc])

theorem FreshIds.moved (h : FreshIds lib files (before ++ [r])) (id : String) :
    Moved r id ((runRequests lib files before).asset id) ((runRequests lib files (before ++ [r])).asset id) := by
  rw [runRequests_concat]
  exact run_moved (h before r [] rfl) id

theorem Asset.SameIntent.refl (a : Asset) : a.SameIntent a := ⟨rfl, rfl, rfl⟩

theorem Asset.SameIntent.trans {b c : Asset} (h : a.SameIntent b) (h' : b.SameIntent c) : a.SameIntent c :=
  ⟨h.userId.trans h'.userId, h.sourceObjectKey.trans h'.sourceObjectKey, h.contentType.trans h'.contentType⟩

theorem Request.Issues.same {b : Asset} (h : r.Issues id a) (hsame : a.SameIntent b) : r.Issues id b := by
  obtain ⟨contentType, type, hcall, htype, hissued, hkey⟩ := h
  exact ⟨contentType, type, hsame.userId ▸ hcall, htype, hsame.contentType ▸ hissued,
    hsame.userId ▸ hsame.sourceObjectKey ▸ hkey⟩

/-- An asset that a request leaves has been there with the same intent, or the request has issued it. -/
theorem Moved.origin {x : Option Asset} (h : Moved r id x (some a)) : (∃ b, x = some b ∧ b.SameIntent a) ∨ r.Issues id a := by
  cases h with
  | kept => exact .inl ⟨a, rfl, .refl a⟩
  | issued hissues hto => exact .inr hissues
  | uploaded hcompletes hsame hfrom hto => exact .inl ⟨_, rfl, hsame⟩
  | failed hfails hsame hfrom hto => exact .inl ⟨_, rfl, hsame⟩

theorem origin_runRequests (hfresh : FreshIds lib files requests) (hget : (runRequests lib files requests).asset id = some a) :
    (∃ a₀, files.asset id = some a₀ ∧ a₀.SameIntent a) ∨ ∃ c ∈ requests, c.Issues id a := by
  induction requests using List.reverseRecOn generalizing a with
  | nil => exact .inl ⟨a, hget, .refl a⟩
  | append_singleton before r ih =>
    have hmoved := hfresh.moved id
    rw [hget] at hmoved
    rcases hmoved.origin with ⟨b, hb, hsame⟩ | hissues
    · rcases ih hfresh.left hb with ⟨a₀, ha₀, hfirst⟩ | ⟨c, hc, hissues⟩
      · exact .inl ⟨a₀, ha₀, hfirst.trans hsame⟩
      · exact .inr ⟨c, List.mem_append_left _ hc, hissues.same hsame⟩
    · exact .inr ⟨r, List.mem_append_right _ List.mem_cons_self, hissues⟩

/-- A status that an asset has left does not come back. -/
theorem settled_runRequests {awaited : List ProcessingStatus} {b : Asset} (hawaited : .uploading ∈ awaited)
    (hfailed : .failed ∉ awaited) (hfresh : FreshIds lib files requests) (hget : files.asset id = some b)
    (hsettled : b.processingStatus ∉ awaited) :
    ∃ b', (runRequests lib files requests).asset id = some b' ∧ b'.processingStatus ∉ awaited := by
  induction requests using List.reverseRecOn with
  | nil => exact ⟨b, hget, hsettled⟩
  | append_singleton before r ih =>
    obtain ⟨b', hget', hsettled'⟩ := ih hfresh.left
    have hmoved := hfresh.moved id
    rw [hget'] at hmoved
    cases hmoved' : (runRequests lib files (before ++ [r])).asset id with
    | none =>
      rw [hmoved'] at hmoved
      cases hmoved
    | some b'' =>
      rw [hmoved'] at hmoved
      refine ⟨b'', rfl, ?_⟩
      cases hmoved with
      | kept => exact hsettled'
      | uploaded h hsame hfrom hto => exact absurd (hfrom ▸ hawaited) hsettled'
      | failed h hsame hfrom hto => exact hto ▸ hfailed

theorem orderly (hfresh : FreshIds lib files (before ++ r :: after)) : Orderly lib files before r := by
  have hlast : ∀ newId userId contentType, r.call = .createAssetUploadIntent newId userId contentType →
      (runRequests lib files before).asset newId = none := hfresh before r after rfl
  have hran : Ran r (runRequests lib files before) (r.run lib (runRequests lib files before)).1
      (r.run lib (runRequests lib files before)).2 := run_ran r _
  have hmoved : ∀ id, Moved r id ((runRequests lib files before).asset id)
      ((r.run lib (runRequests lib files before)).2.asset id) := run_moved hlast
  refine ⟨hmoved, fun id a hget => origin_runRequests hfresh.left hget, fun id a hget hready => ?_, ?_, ?_⟩
  · have hmoved := hmoved id
    rw [hget] at hmoved
    generalize (runRequests lib files before).asset id = x at hmoved
    cases hmoved with
    | kept => rfl
    | issued h hto => cases hto.symm.trans hready
    | uploaded h hsame hfrom hto => cases hto.symm.trans hready
    | failed h hsame hfrom hto => cases hto.symm.trans hready
  · intro e hraised hfault
    generalize (r.run lib (runRequests lib files before)).1 = result, (r.run lib (runRequests lib files before)).2 = files'
      at hran hraised ⊢
    cases hran with
    | raised hfile => exact hfile
    | wrote happlied hfile hresult =>
      rcases hresult with hok | hreplaced
      · cases hok.symm.trans hraised
      · exact absurd hreplaced hfault
  · rintro earlier c later ⟨id, awaited⟩ hsplit hc hr ⟨a, haccepted⟩
    obtain ⟨hawaited, hfailed⟩ := Call.awaited_spec hc
    have hsettled : ∃ b, (runRequests lib files (earlier ++ [c])).asset id = some b ∧ b.processingStatus ∉ awaited := by
      have hcran : Ran c (runRequests lib files earlier) (c.run lib (runRequests lib files earlier)).1
          (runRequests lib files (earlier ++ [c])) := by
        rw [runRequests_concat]
        exact run_ran c _
      rw [haccepted] at hcran
      cases hcran with
      | wrote happlied hfile hresult =>
        obtain ⟨b, hget, hleft⟩ := (happlied.completes hc).2
        exact ⟨b, (asset_of_written hfile id).trans hget, hleft⟩
    have hbefore : FreshIds lib files ((earlier ++ [c]) ++ later) := by
      rw [List.append_assoc]
      exact hsplit ▸ hfresh.left
    obtain ⟨b, hget, hleft⟩ := hsettled
    obtain ⟨b', hget', hleft'⟩ := settled_runRequests hawaited hfailed hbefore.right hget hleft
    have hhere : (runRequests lib files before).asset id = some b' := by
      rw [hsplit, List.append_cons, runRequests_append]
      exact hget'
    generalize (r.run lib (runRequests lib files before)).1 = result, (r.run lib (runRequests lib files before)).2 = files'
      at hran ⊢
    cases hran with
    | raised hfile => exact hfile
    | wrote happlied hfile hresult =>
      obtain ⟨b'', hget'', hin⟩ := (happlied.completes hr).1
      obtain rfl := Option.some.inj (hget''.symm.trans hhere)
      exact absurd hin hleft'

end

/-- **Keys and lives of assets.** A key tells its owner, its asset and its kind, and lies in no other owner's namespace. In
every run of calls an asset is issued, uploaded by its owner with the key and the type that it was issued with, and failed by
its owner; no call makes it ready. A call that is rejected leaves the catalog as it was, and so does a completion of an asset
for which such a completion was accepted before. -/
theorem asset_lifecycle (lib : UrlLib) (files : CatalogFiles) (requests : List Request) (hfresh : FreshIds lib files requests) :
    (∀ owner asset kind owner' asset' kind' key, objectKey owner asset kind = .ok key → objectKey owner' asset' kind' = .ok key →
      owner = owner' ∧ asset = asset' ∧ kind = kind') ∧
    (∀ owner asset kind key owner', objectKey owner asset kind = .ok key → Segment owner' →
      ((ownerNamespace owner').toList <+: key.toList ↔ owner' = owner)) ∧
    ∀ before r after, requests = before ++ r :: after → Orderly lib files before r := by
  refine ⟨fun _ _ _ _ _ _ _ => objectKey_injective, fun _ _ _ _ _ h => objectKey_namespace h, fun before r after hsplit => ?_⟩
  exact orderly (hsplit ▸ hfresh)

/-! ### Sample -/

namespace Sample

def lib : UrlLib := ⟨fun _ => none, fun _ => [], id, id, id⟩

def noFile : CatalogFiles := ⟨none, false⟩

def intent : Request := ⟨.createAssetUploadIntent "a1" "u1" (.str "image/png"), .finite 1, none⟩

/-- The same call once more. -/
def intentAgain : Request := ⟨.createAssetUploadIntent "a2" "u1" (.str "image/png"), .finite 2, none⟩

/-- The file has been replaced when the call meets an I/O error. -/
def intentLost : Request := { intent with fault := some .replaced }

def upload : Request :=
  ⟨.completeAssetUpload "a1" "u1" (.str "image/png; charset=binary") (.str "users/u1/assets/a1/source") (.int 1000)
    (.str (String.ofList (List.replicate 64 'a'))), .finite 2, none⟩

theorem freshIds : FreshIds lib noFile [intent, upload] := by
  have hnil : ∀ before r after, ([] : List Request) = before ++ r :: after → ∀ newId userId contentType,
      r.call = .createAssetUploadIntent newId userId contentType → (runRequests lib noFile before).asset newId = none := by
    intro before r after hsplit
    cases before <;> cases hsplit
  have hintent : FreshIds lib noFile [intent] := Splits.forall_concat.mpr ⟨hnil, fun _ _ _ _ => rfl⟩
  refine Splits.forall_concat.mpr ⟨hintent, fun newId userId contentType hcall => ?_⟩
  cases hcall

theorem file_ne {files files' : CatalogFiles} {id : String} (h : (files.asset id).isSome ≠ (files'.asset id).isSome) :
    files.file ≠ files'.file := by
  intro hfile
  exact h (congrArg Option.isSome (asset_of_file hfile id))

end Sample

open Sample in
/-- The upload of the asset is completed. -/
theorem asset_lifecycle_upload : Orderly lib noFile [intent] upload ∧
    (upload.run lib (runRequests lib noFile [intent])).1.isOk := by
  refine ⟨?_, by decide +kernel⟩
  exact (asset_lifecycle lib noFile [intent, upload] freshIds).2.2 [intent] upload [] rfl

open Sample in
/-- An upload intent that is accepted twice makes two assets, and a call that raises after the file has been replaced has
changed it. -/
theorem intent_replayed :
    ((∃ newId newId' userId contentType, intent.call = .createAssetUploadIntent newId userId contentType ∧
        intentAgain.call = .createAssetUploadIntent newId' userId contentType) ∧ (intent.run lib noFile).1.isOk ∧
      (intentAgain.run lib (runRequests lib noFile [intent])).2.file ≠ (runRequests lib noFile [intent]).file) ∧
    (intentLost.run lib noFile).1.isOk = false ∧ (intentLost.run lib noFile).2.file ≠ noFile.file := by
  refine ⟨⟨⟨_, _, _, _, rfl, rfl⟩, by decide +kernel, ?_⟩, by decide +kernel, ?_⟩
  · exact @file_ne _ _ "a2" (by decide +kernel)
  · exact @file_ne _ _ "a1" (by decide +kernel)

end IRLight.Assets
