import IRLight.ControlPlane.Programs

/-! # Losing prepares

A prepare whose claim was refused goes through the handler that its winner would. The handler does harm
when the Session is being provisioned as it records its failure, or being stopped as it looks for a
cancellation. -/

namespace IRLight
open Interleaving Status Call

section
variable {α : Type} {i : ℕ} {p : Control α} {h : History} {w : World} {o : Op}

end

/-! ### Every run -/

/-- The call revokes credentials, or creates or deletes a provider resource. -/
def Op.touchesResources : Op → Bool
  | .revokeSession _ | .createVolume _ _ _ | .createServer _ _ _ _ _ | .deleteVolume _ | .deleteServer _ => true
  | _ => false

/-- The call binds a Session to a prepare request, before `prepare` of the workflow runs. -/
def Op.binds : Op → Bool
  | .store (.beginPrepare _ _ _ _ _ _) => true
  | _ => false

/-- The call changes no record, no credential and no resource, and does not try to. -/
structure Harmless (o : Op) (w w' : World) : Prop where
  untouched : o.touchesResources = false
  records : ∀ sid r, w.store.session? sid = some r → w'.store.session? sid = some r
  credentials : w'.credentials = w.credentials
  inventory : w'.inventory = w.inventory

end IRLight
