import IRLight.Collections.Dict
import IRLight.Python
import Mathlib.Data.Prod.Lex
import Mathlib.Data.String.Basic

/-! # Sessions and the resources of the provider

`provider_state_reconcile_cli.py` compares what the Sessions refer to with what the provider lists, from both sides, and
reports what does not agree. -/

namespace IRLight.Reconcile

/-- A resource that the provider lists, as far as it is compared. -/
structure Resource where
  kind : String
  providerId : String
  sessionId : Option String
  userId : Option String

/-- What is compared of a Session. A field that is absent is null. -/
structure SessionRefs where
  userId : String
  providerVolumeId : Json
  providerServerId : Json

/-- The validated Sessions under their ids. -/
structure SessionMap where
  sessions : Dict String SessionRefs
  sessionIds : ∀ item ∈ sessions.items, item.1 ≠ ""
  userIds : ∀ item ∈ sessions.items, item.2.userId ≠ ""

/-- The keys of `_RESOURCE_FIELDS`. -/
def resourceKinds : List String := ["volume", "server"]

/-- `session.get(_RESOURCE_FIELDS[kind])`. -/
def SessionRefs.reference (session : SessionRefs) (kind : String) : Json :=
  if kind = "volume" then session.providerVolumeId else session.providerServerId

/-- The value is the string. -/
def isStr (value : Json) (s : String) : Bool :=
  match value with
  | .str t => t = s
  | _ => false

theorem isStr_iff {value : Json} {s : String} : isStr value s = true ↔ value = .str s := by
  cases value with
  | str t => exact ⟨fun h => congrArg Json.str (of_decide_eq_true h), fun h => decide_eq_true (Json.str.inj h)⟩
  | null => exact iff_of_false Bool.false_ne_true (by intro h; cases h)
  | bool b => exact iff_of_false Bool.false_ne_true (by intro h; cases h)
  | int n => exact iff_of_false Bool.false_ne_true (by intro h; cases h)
  | float x => exact iff_of_false Bool.false_ne_true (by intro h; cases h)
  | arr items => exact iff_of_false Bool.false_ne_true (by intro h; cases h)
  | obj fields => exact iff_of_false Bool.false_ne_true (by intro h; cases h)

/-- The reason codes. -/
inductive Reason where
  | providerResourceKindUnknown
  | providerResourceIdInvalid
  | providerResourceDuplicate
  | stateProviderReferenceInvalid
  | stateProviderResourceMissing
  | providerSessionOwnershipMismatch
  | providerUserOwnershipMismatch
  | providerSessionMetadataMissing
  | providerResourceSessionMissing
  | providerResourceNotReferencedBySession
  | providerUserMetadataMissing
  deriving DecidableEq

def Reason.str : Reason → String
  | providerResourceKindUnknown => "PROVIDER_RESOURCE_KIND_UNKNOWN"
  | providerResourceIdInvalid => "PROVIDER_RESOURCE_ID_INVALID"
  | providerResourceDuplicate => "PROVIDER_RESOURCE_DUPLICATE"
  | stateProviderReferenceInvalid => "STATE_PROVIDER_REFERENCE_INVALID"
  | stateProviderResourceMissing => "STATE_PROVIDER_RESOURCE_MISSING"
  | providerSessionOwnershipMismatch => "PROVIDER_SESSION_OWNERSHIP_MISMATCH"
  | providerUserOwnershipMismatch => "PROVIDER_USER_OWNERSHIP_MISMATCH"
  | providerSessionMetadataMissing => "PROVIDER_SESSION_METADATA_MISSING"
  | providerResourceSessionMissing => "PROVIDER_RESOURCE_SESSION_MISSING"
  | providerResourceNotReferencedBySession => "PROVIDER_RESOURCE_NOT_REFERENCED_BY_SESSION"
  | providerUserMetadataMissing => "PROVIDER_USER_METADATA_MISSING"

/-- `_finding`. What is `none` is left out. -/
structure Finding where
  reasonCode : Reason
  sessionId : Option String
  resourceKind : Option String
  providerId : Option String
  deriving DecidableEq

namespace Finding

/-- Findings are sorted by the Session, the kind, the resource and the reason. -/
def key (f : Finding) : String ×ₗ String ×ₗ String ×ₗ String :=
  toLex (f.sessionId.getD "", toLex (f.resourceKind.getD "", toLex (f.providerId.getD "", f.reasonCode.str)))

end Finding

/-- The user of a resource is not the user of the Session. -/
def userMismatch (sessionId kind providerId : String) : Finding :=
  ⟨.providerUserOwnershipMismatch, some sessionId, some kind, some providerId⟩

def Resource.key (r : Resource) : String × String := (r.kind, r.providerId)

/-! ### The three passes -/

/-- The findings so far, and the resources that a Session may refer to. -/
structure Collected where
  findings : List Finding
  byKey : Dict (String × String) Resource

/-- The first pass, for one resource. -/
def collect (c : Collected) (r : Resource) : Collected :=
  if r.kind ∉ resourceKinds then
    { c with findings := c.findings ++ [⟨.providerResourceKindUnknown, r.sessionId, some r.kind, some r.providerId⟩] }
  else if r.providerId = "" then
    { c with findings := c.findings ++ [⟨.providerResourceIdInvalid, r.sessionId, some r.kind, none⟩] }
  else if (c.byKey.get? r.key).isSome then
    { c with findings := c.findings ++ [⟨.providerResourceDuplicate, r.sessionId, some r.kind, some r.providerId⟩] }
  else { c with byKey := c.byKey.set r.key r }

/-- The second pass, for one reference of a Session. -/
def checkReference (byKey : Dict (String × String) Resource) (sessionId : String) (session : SessionRefs) (kind : String) :
    List Finding :=
  match session.reference kind with
  | .null => []
  | .str providerId =>
    if providerId = "" then [⟨.stateProviderReferenceInvalid, some sessionId, some kind, none⟩]
    else
      match byKey.get? (kind, providerId) with
      | none => [⟨.stateProviderResourceMissing, some sessionId, some kind, some providerId⟩]
      | some resource =>
        (if resource.sessionId ≠ some sessionId then
          [⟨.providerSessionOwnershipMismatch, some sessionId, some kind, some providerId⟩] else []) ++
        if resource.userId ≠ some session.userId then [userMismatch sessionId kind providerId] else []
  | _ => [⟨.stateProviderReferenceInvalid, some sessionId, some kind, none⟩]

/-- The user of a resource that is tagged with the Session. A mismatch that is among the findings is not added again. -/
def checkUser (findings : List Finding) (sessionId : String) (session : SessionRefs) (r : Resource) : List Finding :=
  match r.userId.filter (· ≠ "") with
  | none => [⟨.providerUserMetadataMissing, some sessionId, some r.kind, some r.providerId⟩]
  | some userId =>
    if userId ≠ session.userId then
      if userMismatch sessionId r.kind r.providerId ∈ findings then [] else [userMismatch sessionId r.kind r.providerId]
    else []

/-- The third pass, for one resource and the findings so far. -/
def inspect (sessions : Dict String SessionRefs) (findings : List Finding) (r : Resource) : List Finding :=
  if r.kind ∉ resourceKinds then []
  else if r.providerId = "" then []
  else
    match r.sessionId.filter (· ≠ "") with
    | none => [⟨.providerSessionMetadataMissing, none, some r.kind, some r.providerId⟩]
    | some sessionId =>
      match sessions.get? sessionId with
      | none => [⟨.providerResourceSessionMissing, some sessionId, some r.kind, some r.providerId⟩]
      | some session =>
        (if !isStr (session.reference r.kind) r.providerId then
          [⟨.providerResourceNotReferencedBySession, some sessionId, some r.kind, some r.providerId⟩] else []) ++
        checkUser findings sessionId session r

/-- The second pass. -/
def checkReferences (byKey : Dict (String × String) Resource) (sessions : Dict String SessionRefs) : List Finding :=
  sessions.items.flatMap fun item => resourceKinds.flatMap fun kind => checkReference byKey item.1 item.2 kind

/-- The findings of all passes, as they are found. -/
def allFindings (sessions : Dict String SessionRefs) (resources : List Resource) : List Finding :=
  let collected := resources.foldl collect ⟨[], Dict.empty⟩
  resources.foldl (fun findings r => findings ++ inspect sessions findings r)
    (collected.findings ++ checkReferences collected.byKey sessions)

/-! ### The report -/

inductive ReportStatus where
  | matches
  | reviewRequired
  deriving DecidableEq

/-- The report. The number of findings is the length of their list. -/
structure Report where
  status : ReportStatus
  sessions : ℕ
  managedResources : ℕ
  findings : List Finding

/-- `reconcile_provider_resources`. -/
def reconcileProviderResources (sessions : Dict String SessionRefs) (resources : List Resource) : Report :=
  let findings := (allFindings sessions resources).mergeSort fun f g => f.key ≤ g.key
  { status := if findings = [] then .matches else .reviewRequired
    sessions := sessions.size
    managedResources := resources.length
    findings := findings }

end IRLight.Reconcile
