import IRLight.Python
import Mathlib.Data.List.Basic
import Mathlib.Data.String.Basic

/-! # Object keys of uploaded assets

`asset_upload_intent.py`: the keys under which the source of an asset and its variants are stored, and the checks of an
upload's completion. -/

namespace IRLight.Assets

structure AssetUploadIntentError where
  message : String
  deriving DecidableEq

def supportedImageContentTypes : List String := ["image/jpeg", "image/png", "image/webp"]
def supportedVariantProfiles : List String := ["720p30", "1080p30"]
def maxUploadBytes : ℤ := 32 * 1024 * 1024
def maxSegmentLength : ℕ := 200
def maxContentTypeLength : ℕ := 200
def sha256HexLength : ℕ := 64
def hexDigits : List Char := "0123456789abcdef".toList

/-- The loop of `_require_segment` over the characters. -/
def requireCharacters (field : String) : List Char → Except AssetUploadIntentError Unit
  | [] => .ok ()
  | char :: rest =>
    if ¬(0x21 ≤ char.toNat ∧ char.toNat ≤ 0x7E) then .error ⟨s!"{field} contains a disallowed character"⟩
    else if char = '/' ∨ char = '\\' then .error ⟨s!"{field} contains a path separator"⟩
    else requireCharacters field rest

/-- `_require_segment`. -/
def requireSegment (value : Json) (field : String) : Except AssetUploadIntentError String :=
  match value with
  | .str value =>
    if value = "" then .error ⟨s!"{field} must be a non-empty string"⟩
    else if maxSegmentLength < value.length then .error ⟨s!"{field} is too long"⟩
    else if value = "." ∨ value = ".." ∨ value.toList.head? = some '.' ∨ value.toList.getLast? = some '.' then
      .error ⟨s!"{field} is not a valid path segment"⟩
    else (requireCharacters field value.toList).map fun () => value
  | _ => .error ⟨s!"{field} must be a non-empty string"⟩

/-- `content_type.split(";", 1)[0].strip().lower()`. No character outside ASCII is a letter of a supported type when it is
lowered. -/
def baseType (contentType : String) : String :=
  String.ofList ((strip (String.ofList (contentType.toList.takeWhile (· ≠ ';')))).toList.map Char.toLower)

def normalizeImageContentType (contentType : Json) : Except AssetUploadIntentError String :=
  match contentType with
  | .str contentType =>
    if contentType = "" then .error ⟨"content type must be a non-empty string"⟩
    else if maxContentTypeLength < contentType.length then .error ⟨"content type is too long"⟩
    else if baseType contentType ∉ supportedImageContentTypes then .error ⟨"unsupported standby asset content type"⟩
    else .ok (baseType contentType)
  | _ => .error ⟨"content type must be a non-empty string"⟩

def normalizeVariantProfile (profile : Json) : Except AssetUploadIntentError String :=
  match profile with
  | .str profile =>
    if profile ∈ supportedVariantProfiles then .ok profile else .error ⟨"unsupported standby variant profile"⟩
  | _ => .error ⟨"unsupported standby variant profile"⟩

def sourceObjectKey (userId assetId : Json) : Except AssetUploadIntentError String := do
  let owner ← requireSegment userId "user id"
  let asset ← requireSegment assetId "asset id"
  return "users/" ++ owner ++ "/assets/" ++ asset ++ "/source"

def variantObjectKey (userId assetId profile : Json) : Except AssetUploadIntentError String := do
  let owner ← requireSegment userId "user id"
  let asset ← requireSegment assetId "asset id"
  let normalized ← normalizeVariantProfile profile
  return "users/" ++ owner ++ "/assets/" ++ asset ++ "/variants/" ++ normalized ++ ".mp4"

def isOwnerBoundSourceObjectKey (userId assetId objectKey : Json) : Bool :=
  match objectKey, sourceObjectKey userId assetId with
  | .str objectKey, .ok expected => objectKey ≠ "" && objectKey = expected
  | _, _ => false

/-- `_validated_sha256`. -/
def validatedSha256 (value : Json) (field : String) : Except AssetUploadIntentError String :=
  match value with
  | .str value =>
    if value.length ≠ sha256HexLength ∨ value.toList.any (· ∉ hexDigits) then
      .error ⟨s!"{field} must be 64 lowercase hex characters"⟩
    else .ok value
  | _ => .error ⟨s!"{field} must be 64 lowercase hex characters"⟩

/-- `_validated_size_bytes`. -/
def validatedSizeBytes (value : Json) : Except AssetUploadIntentError ℤ :=
  match value with
  | .int value =>
    if value ≤ 0 ∨ maxUploadBytes < value then .error ⟨"uploaded object size is outside the allowed range"⟩ else .ok value
  | _ => .error ⟨"uploaded object size must be an integer"⟩

/-- A normalized completion record. -/
structure Completion where
  objectKey : String
  contentType : String
  sizeBytes : ℤ
  sha256 : String

/-- The key of the object must be the one that is expected. -/
def requireBoundKey (objectKey : Json) (expectedKey : String) : Except AssetUploadIntentError Unit :=
  match objectKey with
  | .str objectKey =>
    if objectKey = expectedKey then .ok () else .error ⟨"uploaded object key is not bound to this owner and asset"⟩
  | _ => .error ⟨"uploaded object key is not bound to this owner and asset"⟩

def validateUploadCompletion (userId assetId contentType objectKey sizeBytes sha256 : Json) :
    Except AssetUploadIntentError Completion := do
  let normalizedType ← normalizeImageContentType contentType
  let expectedKey ← sourceObjectKey userId assetId
  requireBoundKey objectKey expectedKey
  let sizeBytes ← validatedSizeBytes sizeBytes
  let sha256 ← validatedSha256 sha256 "sha256"
  return ⟨expectedKey, normalizedType, sizeBytes, sha256⟩

/-! ### Keys -/

/-- What is stored of an asset. -/
inductive ObjectKind where
  | source
  | variant (profile : String)
  deriving DecidableEq

/-- The key for the kind. -/
def objectKey (userId assetId : String) : ObjectKind → Except AssetUploadIntentError String
  | .source => sourceObjectKey (.str userId) (.str assetId)
  | .variant profile => variantObjectKey (.str userId) (.str assetId) (.str profile)

/-- Every key of the owner starts with this. -/
def ownerNamespace (userId : String) : String := "users/" ++ userId ++ "/"

/-- A path segment has no slash. -/
def Segment (value : String) : Prop := '/' ∉ value.toList

section
variable {field value owner owner' asset asset' profile profile' key : String} {kind kind' : ObjectKind}

theorem notMem_of_requireCharacters {chars : List Char} (h : requireCharacters field chars = .ok ()) : '/' ∉ chars := by
  induction chars with
  | nil => exact List.not_mem_nil
  | cons char rest ih =>
    rw [requireCharacters] at h
    split at h
    · cases h
    · split at h
      · cases h
      · rename_i hchar
        intro hmem
        rcases List.mem_cons.mp hmem with heq | hrest
        · exact hchar (.inl heq.symm)
        · exact ih h hrest

theorem segment_of_requireSegment (h : requireSegment (.str value) field = .ok asset) : asset = value ∧ Segment value := by
  rw [requireSegment] at h
  split at h
  · cases h
  split at h
  · cases h
  split at h
  · cases h
  cases hchars : requireCharacters field value.toList with
  | error e =>
    rw [hchars] at h
    cases h
  | ok u =>
    rw [hchars] at h
    exact ⟨(Except.ok.inj h).symm, notMem_of_requireCharacters hchars⟩

theorem profile_of_normalize (h : normalizeVariantProfile (.str value) = .ok profile) : profile = value := by
  rw [normalizeVariantProfile] at h
  split at h
  · exact (Except.ok.inj h).symm
  · cases h

/-- The last part of a key. -/
def ObjectKind.name : ObjectKind → String
  | .source => "source"
  | .variant profile => "variants/" ++ profile ++ ".mp4"

/-- A key is made of the owner, the asset and the kind. -/
theorem objectKey_spec (h : objectKey owner asset kind = .ok key) : Segment owner ∧ Segment asset ∧
    key = ownerNamespace owner ++ ("assets/" ++ asset ++ "/" ++ kind.name) := by
  have hassets : "/assets/" = "/" ++ "assets/" := rfl
  cases kind with
  | source =>
    obtain ⟨owner', howner, hrest⟩ := bind_eq_ok.mp h
    obtain ⟨asset', hasset, hkey⟩ := bind_eq_ok.mp hrest
    obtain ⟨rfl, howner⟩ := segment_of_requireSegment howner
    obtain ⟨rfl, hasset⟩ := segment_of_requireSegment hasset
    refine ⟨howner, hasset, ?_⟩
    have hname : "/source" = "/" ++ ObjectKind.source.name := rfl
    rw [← pure_eq_ok.mp hkey, ownerNamespace, hassets, hname]
    simp only [String.append_assoc]
  | variant profile =>
    obtain ⟨owner', howner, hrest⟩ := bind_eq_ok.mp h
    obtain ⟨asset', hasset, hrest⟩ := bind_eq_ok.mp hrest
    obtain ⟨profile', hprofile, hkey⟩ := bind_eq_ok.mp hrest
    obtain ⟨rfl, howner⟩ := segment_of_requireSegment howner
    obtain ⟨rfl, hasset⟩ := segment_of_requireSegment hasset
    obtain rfl := profile_of_normalize hprofile
    refine ⟨howner, hasset, ?_⟩
    have hvariants : "/variants/" = "/" ++ "variants/" := rfl
    rw [← pure_eq_ok.mp hkey, ownerNamespace, ObjectKind.name, hassets, hvariants]
    simp only [String.append_assoc]

/-- The first slash ends the first segment. -/
theorem segment_unique {a b rest rest' : String} (ha : Segment a) (hb : Segment b) (h : a ++ "/" ++ rest = b ++ "/" ++ rest') :
    a = b ∧ rest = rest' := by
  have hchars : ∀ {l l' m m' : List Char}, '/' ∉ l → '/' ∉ l' → l ++ '/' :: m = l' ++ '/' :: m' → l = l' ∧ m = m' := by
    intro l
    induction l with
    | nil =>
      intro l' m m' _ hl' heq
      cases l' with
      | nil => exact ⟨rfl, (List.cons.inj heq).2⟩
      | cons c l' => exact absurd ((List.cons.inj heq).1 ▸ List.mem_cons_self) hl'
    | cons c l ih =>
      intro l' m m' hl hl' heq
      cases l' with
      | nil => exact absurd ((List.cons.inj heq).1 ▸ List.mem_cons_self) hl
      | cons c' l' =>
        obtain ⟨hc, heq⟩ := List.cons.inj heq
        obtain ⟨hrest, hm⟩ := ih (List.not_mem_of_not_mem_cons hl) (List.not_mem_of_not_mem_cons hl') heq
        exact ⟨congrArg₂ List.cons hc hrest, hm⟩
  have hlist := congrArg String.toList h
  simp only [String.toList_append, List.append_assoc] at hlist
  obtain ⟨hab, hrest⟩ := hchars ha hb hlist
  exact ⟨String.toList_inj.mp hab, String.toList_inj.mp hrest⟩

theorem append_left_cancel {a b c : String} (h : a ++ b = a ++ c) : b = c := by
  have hlist := congrArg String.toList h
  rw [String.toList_append, String.toList_append] at hlist
  exact String.toList_inj.mp (List.append_cancel_left hlist)

theorem append_right_cancel {a b c : String} (h : a ++ c = b ++ c) : a = b := by
  have hlist := congrArg String.toList h
  rw [String.toList_append, String.toList_append] at hlist
  exact String.toList_inj.mp (List.append_cancel_right hlist)

/-- What follows a namespace tells whose it is. -/
theorem ownerNamespace_unique {rest rest' : String} (howner : Segment owner) (howner' : Segment owner')
    (h : ownerNamespace owner ++ rest = ownerNamespace owner' ++ rest') : owner = owner' ∧ rest = rest' := by
  rw [ownerNamespace, ownerNamespace] at h
  simp only [String.append_assoc] at h
  refine segment_unique howner howner' ?_
  simp only [String.append_assoc]
  exact append_left_cancel h

theorem ObjectKind.name_inj (h : kind.name = kind'.name) : kind = kind' := by
  have hfirst : ∀ p : String, ObjectKind.source.name ≠ (ObjectKind.variant p).name := by
    intro p heq
    have hlist := congrArg String.toList heq
    rw [ObjectKind.name, ObjectKind.name, String.append_assoc, String.toList_append] at hlist
    cases hlist
  cases kind with
  | source =>
    cases kind' with
    | source => rfl
    | variant profile => exact absurd h (hfirst profile)
  | variant profile =>
    cases kind' with
    | source => exact absurd h.symm (hfirst profile)
    | variant profile' => exact congrArg ObjectKind.variant (append_left_cancel (append_right_cancel h))

/-- **A key tells the owner, the asset and the kind.** -/
theorem objectKey_injective (h : objectKey owner asset kind = .ok key) (h' : objectKey owner' asset' kind' = .ok key) :
    owner = owner' ∧ asset = asset' ∧ kind = kind' := by
  obtain ⟨howner, hasset, rfl⟩ := objectKey_spec h
  obtain ⟨howner', hasset', hkey⟩ := objectKey_spec h'
  obtain ⟨rfl, hrest⟩ := ownerNamespace_unique howner howner' hkey
  simp only [String.append_assoc] at hrest
  have hrest := append_left_cancel hrest
  rw [← String.append_assoc, ← String.append_assoc] at hrest
  obtain ⟨rfl, hname⟩ := segment_unique hasset hasset' hrest
  exact ⟨rfl, rfl, ObjectKind.name_inj hname⟩

/-- A key lies in the namespace of its owner and in that of no other. -/
theorem objectKey_namespace (h : objectKey owner asset kind = .ok key) (howner' : Segment owner') :
    (ownerNamespace owner').toList <+: key.toList ↔ owner' = owner := by
  obtain ⟨howner, -, rfl⟩ := objectKey_spec h
  constructor
  · rintro ⟨rest, hrest⟩
    have hkey : ownerNamespace owner' ++ String.ofList rest = ownerNamespace owner ++ ("assets/" ++ asset ++ "/" ++ kind.name) := by
      refine String.toList_inj.mp ?_
      rw [String.toList_append, String.toList_ofList]
      exact hrest
    exact (ownerNamespace_unique howner' howner hkey).1
  · rintro rfl
    rw [String.toList_append]
    exact List.prefix_append _ _

end

end IRLight.Assets
