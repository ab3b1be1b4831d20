import IRLight.Collections.Dict
import IRLight.Persistence.Registers
import IRLight.Python
import Mathlib.Data.String.Basic

/-! # The secrets of destinations

`DestinationSecretStore`: the publish credentials of destinations, encrypted in one file. A secret belongs to a user and a
reference, and is found by a digest of the two. -/

namespace IRLight
open Persistence

/-- What the store takes from libraries: the digest, and `Fernet` with the master key. A token is made with a fresh `iv`. What
    cannot be decrypted is `none`, and what is not text then `some none`. -/
structure SecretLib where
  sha256 : String → String
  encrypt : String → String → String
  decrypt : String → Option (Option String)

/-- What `Fernet` promises. -/
structure SecretLib.Lawful (lib : SecretLib) : Prop where
  decrypts : ∀ iv value, lib.decrypt (lib.encrypt iv value) = some (some value)
  nonempty : ∀ iv value, lib.encrypt iv value ≠ ""

namespace SecretStore

inductive SecretError where
  | stateError (message : String)
  | notFound (secretRef : String)
  | valueError (message : String)
  deriving DecidableEq

structure SecretRecord where
  userId : String
  secretRef : String
  ciphertext : String
  createdAt : Timestamp
  updatedAt : Timestamp
  deriving DecidableEq

abbrev Secrets := Dict String SecretRecord

/-- `_finite_timestamp`. -/
def finiteTimestamp : PyFloat → Except SecretError Timestamp
  | .finite q =>
    if h : 0 ≤ q then .ok ⟨q, h⟩ else .error (.stateError "destination secret state has invalid timestamp")
  | _ => .error (.stateError "destination secret state has invalid timestamp")

/-- What `_key` takes the digest of. -/
def joined (userId secretRef : String) : String := userId ++ "\x00" ++ secretRef

section
variable (lib : SecretLib)

/-- `_key`. -/
def recordKey (userId secretRef : String) : String := lib.sha256 (joined userId secretRef)

/-- What `_load` asks of the record under a key. -/
def validateRecord (key : String) (record : SecretRecord) : Except SecretError Unit :=
  if record.userId = "" ∨ record.secretRef = "" ∨ record.ciphertext = "" then
    .error (.stateError "destination secret state has invalid record")
  else if key ≠ recordKey lib record.userId record.secretRef then
    .error (.stateError "destination secret state has mismatched record key")
  else .ok ()

/-- The file of the secrets. -/
def document : Document Secrets SecretError where
  initial := .empty
  validate secrets := secrets.items.forM fun i => validateRecord lib i.1 i.2
  unlocked := .stateError "destination secret state cannot be locked"
  unread := .stateError "destination secret state cannot be read"
  invalid := .stateError "destination secret state contains invalid JSON"
  disappeared := .stateError "destination secret state disappeared after initialization"

/-- The arguments of a `put` that has checked them. -/
structure Draft where
  userId : String
  secretRef : String
  value : String
  iv : String
  current : Timestamp
  user_ne : userId ≠ ""
  ref_ne : secretRef ≠ ""
  value_ne : value ≠ ""

/-- The part of `put` before the lock. -/
def draft (userId secretRef value iv : String) (now : PyFloat) : Except SecretError Draft :=
  if h : userId ≠ "" ∧ secretRef ≠ "" ∧ value ≠ "" then
    (finiteTimestamp now).map fun current => ⟨userId, secretRef, value, iv, current, h.1, h.2.1, h.2.2⟩
  else .error (.valueError "user_id, secret_ref and secret value are required")

/-- The calls under the lock. The constructor only loads the file. -/
inductive SecretCall where
  | load
  | put (draft : Draft)
  | resolve (userId secretRef : String)
  | configured (userId secretRef : String)
  | delete (userId secretRef : String)

inductive SecretAnswer where
  | loaded
  | stored (createdAt updatedAt : Timestamp)
  | value (value : String)
  | configured (b : Bool)
  | removed (b : Bool)
  deriving DecidableEq

/-- The record that a `put` stores. -/
def Draft.record (d : Draft) (existing : Option SecretRecord) : SecretRecord :=
  ⟨d.userId, d.secretRef, lib.encrypt d.iv d.value, (existing.map (·.createdAt)).getD d.current, d.current⟩

/-- The part of `resolve` after the lock. -/
def decrypted (ciphertext : String) : Except SecretError String :=
  match lib.decrypt ciphertext with
  | none => .error (.stateError "destination secret cannot be decrypted")
  | some none => .error (.stateError "destination secret is not valid UTF-8")
  | some (some value) => .ok value

/-- What a call does with the document. The file is written with sorted keys. -/
def body (q : SecretCall) (secrets : Secrets) : Except SecretError SecretAnswer × Option Secrets :=
  match q with
  | .load => (.ok .loaded, none)
  | .put d =>
    let key := recordKey lib d.userId d.secretRef
    let record := d.record lib (secrets.get? key)
    (.ok (.stored record.createdAt d.current), some ((secrets.set key record).sort fun i j => i.1 ≤ j.1))
  | .resolve userId secretRef =>
    match secrets.get? (recordKey lib userId secretRef) with
    | none => (.error (.notFound secretRef), none)
    | some record => ((decrypted lib record.ciphertext).map .value, none)
  | .configured userId secretRef => (.ok (.configured (secrets.get? (recordKey lib userId secretRef)).isSome), none)
  | .delete userId secretRef =>
    let key := recordKey lib userId secretRef
    if (secrets.get? key).isSome then (.ok (.removed true), some ((secrets.erase key).sort fun i j => i.1 ≤ j.1))
    else (.ok (.removed false), none)

/-- The answer says that the call has written. -/
def SecretAnswer.done : SecretAnswer → Bool
  | .stored _ _ | .removed true => true
  | _ => false

/-- The store as registers: one for each key, with the ciphertext. -/
def registers : Registers Secrets SecretError SecretCall SecretAnswer String (Option String) where
  document := document lib
  body := body lib
  done := SecretAnswer.done
  cell secrets key := (secrets.get? key).map (·.ciphertext)
  sets
    | .put d, key => if key = recordKey lib d.userId d.secretRef then some (some (lib.encrypt d.iv d.value)) else none
    | .delete userId secretRef, key => if key = recordKey lib userId secretRef then some none else none
    | _, _ => none

abbrev Action := Registers.Action SecretCall

/-- The file after some calls, and these calls. -/
def after (actions : List Action) : Registers.Store Secrets SecretCall := (registers lib).after actions

end
end SecretStore
end IRLight
