import Mathlib.Algebra.Field.Rat
import Mathlib.Data.NNRat.Defs
import Mathlib.Algebra.Order.Ring.Rat

/-! # Values of the source language

Clock readings, JSON payloads and exceptions of the Control API, as far as its code looks at them. -/

namespace IRLight

/-- A Python float. Finite floats are exact rationals. -/
inductive PyFloat where
  | finite (value : ℚ)
  | infinity (negative : Bool)
  | nan
  deriving DecidableEq

namespace PyFloat

/-- `math.isfinite`. -/
def isFinite : PyFloat → Bool
  | finite _ => true
  | _ => false

end PyFloat

/-- Integers from here on are too large for a float. -/
def floatOverflow : ℕ := 2 ^ 1024 - 2 ^ 970

/-- A timestamp that a state file may hold: a finite, non-negative number. -/
abbrev Timestamp := ℚ≥0

/-- A JSON value as Python holds it. An object keeps the order its keys were written in. -/
inductive Json where
  | null
  | bool (value : Bool)
  | int (value : ℤ)
  | float (value : PyFloat)
  | str (value : String)
  | arr (items : List Json)
  | obj (fields : List (String × Json))

namespace Json

mutual

/-- Whether `json.dump(..., allow_nan=False)` accepts the value. -/
def serializable : Json → Bool
  | float x => x.isFinite
  | arr items => serializableItems items
  | obj fields => serializableFields fields
  | _ => true

def serializableItems : List Json → Bool
  | [] => true
  | v :: items => v.serializable && serializableItems items

def serializableFields : List (String × Json) → Bool
  | [] => true
  | (_, v) :: fields => v.serializable && serializableFields fields

end

/-- A value or `None`. -/
def ofOption {α : Type} (f : α → Json) : Option α → Json
  | some a => f a
  | none => null

end Json

/-- The `detail` of an HTTP error: a text, or an object with a `code`. -/
inductive Detail where
  | text (message : String)
  | code (code : String)
  deriving DecidableEq

/-- An exception the modelled code raises or lets through, with its message. -/
inductive Exc where
  | keyError (key : String)
  | valueError (message : String)
  | runtimeError (message : String)
  | invalidTransition (message : String)
  | entitlementExceeded (message : String)
  | sessionStateError (message : String)
  | provisioningInProgress (message : String)
  | orphanCleanupInProgress (message : String)
  | mediaControlIdempotencyConflict (message : String)
  | mediaControlVersionConflict (version : ℕ) (desiredMode : String)
  | mediaControlNotRunning (message : String)
  | ingestCredentialError (message : String)
  | nodeStateError (message : String)
  | providerError (message : String)
  | httpException (statusCode : ℕ) (detail : Detail)
  deriving DecidableEq

namespace Exc

/-- `isinstance(exc, RuntimeError)`. -/
def isRuntimeError : Exc → Bool
  | keyError _ | valueError _ | providerError _ | httpException _ _ => false
  | _ => true

/-- The exception is an answer of the API. -/
def isHttp : Exc → Bool
  | httpException _ _ => true
  | _ => false

/-- `str(exc)`. -/
def str : Exc → String
  | keyError key => "'" ++ key ++ "'"
  | mediaControlVersionConflict _ _ => "media-control version conflict"
  | httpException code (.text m) => s!"{code}: {m}"
  | httpException code (.code m) => s!"{code}: {m}"
  | valueError m | runtimeError m | invalidTransition m | entitlementExceeded m | sessionStateError m
  | provisioningInProgress m | orphanCleanupInProgress m | mediaControlIdempotencyConflict m
  | mediaControlNotRunning m | ingestCredentialError m | nodeStateError m | providerError m => m

end Exc

/-- `if bad: raise exc`. -/
def raiseIf (bad : Prop) [Decidable bad] (exc : Exc) : Except Exc Unit := if bad then .error exc else .ok ()

@[simp] theorem raiseIf_eq_ok {bad : Prop} [Decidable bad] {exc : Exc} {u : Unit} :
    raiseIf bad exc = .ok u ↔ ¬bad := by
  unfold raiseIf
  split <;> simp_all

theorem bind_eq_ok {ε α β : Type} {x : Except ε α} {f : α → Except ε β} {b : β} :
    (x >>= f) = .ok b ↔ ∃ a, x = .ok a ∧ f a = .ok b := by
  cases x with
  | error e => exact ⟨(nomatch ·), fun ⟨_, h, _⟩ => nomatch h⟩
  | ok a => exact ⟨fun h => ⟨a, rfl, h⟩, fun ⟨_, h, hf⟩ => Except.ok.inj h ▸ hf⟩

theorem pure_eq_ok {ε α : Type} {a b : α} : (pure a : Except ε α) = .ok b ↔ a = b :=
  ⟨fun h => Except.ok.inj h, fun h => h ▸ rfl⟩

theorem map_eq_ok {α β : Type} {f : α → β} {x : Except Exc α} {b : β} :
    x.map f = .ok b ↔ ∃ a, x = .ok a ∧ f a = b := by
  cases x with
  | error e => exact ⟨(nomatch ·), fun ⟨_, h, _⟩ => nomatch h⟩
  | ok a => exact ⟨fun h => ⟨a, rfl, Except.ok.inj h⟩, fun ⟨_, h, hf⟩ => Except.ok.inj h ▸ congrArg _ hf⟩

theorem forM_eq_ok {α : Type} {l : List α} {f : α → Except Exc Unit} : l.forM f = .ok () ↔ ∀ a ∈ l, f a = .ok () := by
  induction l with
  | nil => exact ⟨fun _ _ ha => (List.not_mem_nil ha).elim, fun _ => rfl⟩
  | cons a l ih =>
    rw [List.forall_mem_cons]
    change (f a >>= fun _ => l.forM f) = .ok () ↔ _
    rw [bind_eq_ok]
    exact ⟨fun ⟨_, ha, hl⟩ => ⟨ha, ih.mp hl⟩, fun ⟨ha, hl⟩ => ⟨(), ha, ih.mpr hl⟩⟩

/-- Every exception that the computation raises is one of `φ`. -/
def Raises {α : Type} (φ : Exc → Prop) (x : Except Exc α) : Prop := ∀ e, x = .error e → φ e

namespace Raises
variable {α β : Type} {φ : Exc → Prop} {x : Except Exc α}

theorem ok (a : α) : Raises φ (.ok a : Except Exc α) := fun _ h => nomatch h

theorem error {e : Exc} (h : φ e) : Raises φ (.error e : Except Exc α) := fun _ he => Except.error.inj he ▸ h

theorem bind {f : α → Except Exc β} (hx : Raises φ x) (hf : ∀ a, x = .ok a → Raises φ (f a)) : Raises φ (x >>= f) := by
  cases x with
  | error e => exact error (hx e rfl)
  | ok a => exact hf a rfl

theorem map {f : α → β} (hx : Raises φ x) : Raises φ (x.map f) := by
  cases x with
  | error e => exact error (hx e rfl)
  | ok a => exact ok (f a)

theorem raiseIf {bad : Prop} [Decidable bad] {exc : Exc} (h : bad → φ exc) : Raises φ (IRLight.raiseIf bad exc) := by
  unfold IRLight.raiseIf
  split
  · exact error (h ‹_›)
  · exact ok ()

theorem forM {l : List β} {f : β → Except Exc Unit} (hf : ∀ b ∈ l, Raises φ (f b)) : Raises φ (l.forM f) := by
  induction l with
  | nil => exact ok ()
  | cons b l ih => exact bind (hf b List.mem_cons_self) fun _ _ => ih fun b' hb' => hf b' (List.mem_cons_of_mem b hb')

end Raises

/-- `text[:n]`. -/
def clip (n : ℕ) (text : String) : String := String.ofList (text.toList.take n)

/-- `character.isspace()`. -/
def isSpace (c : Char) : Bool :=
  let n := c.toNat
  (9 ≤ n && n ≤ 13) || (28 ≤ n && n ≤ 32) || (8192 ≤ n && n ≤ 8202) ||
    n ∈ [0x85, 0xa0, 0x1680, 0x2028, 0x2029, 0x202f, 0x205f, 0x3000]

/-- `text.strip()`. -/
def strip (text : String) : String :=
  String.ofList ((text.toList.dropWhile isSpace).reverse.dropWhile isSpace).reverse

/-- `items[-n:]`. The slice `items[-0:]` is the whole list. -/
def lastItems {α : Type} (n : ℕ) (items : List α) : List α := if n = 0 then items else items.drop (items.length - n)

theorem lastItems_sublist {α : Type} (n : ℕ) (items : List α) : (lastItems n items).Sublist items := by
  unfold lastItems
  split
  · exact .refl _
  · exact List.drop_sublist _ _

/-- A number that must be finite and not negative. -/
def requireTimestamp (value : PyFloat) (exc : Exc) : Except Exc Timestamp :=
  match value with
  | .finite q => if h : 0 ≤ q then .ok ⟨q, h⟩ else .error exc
  | _ => .error exc

theorem requireTimestamp_eq_ok {value : PyFloat} {exc : Exc} {t : Timestamp} :
    requireTimestamp value exc = .ok t ↔ value = .finite t := by
  unfold requireTimestamp
  split
  · rename_i q
    split
    · rename_i h
      refine ⟨fun e => by rw [← Except.ok.inj e]; rfl, fun e => ?_⟩
      obtain rfl := PyFloat.finite.inj e
      rfl
    · rename_i h
      refine ⟨(nomatch ·), fun e => ?_⟩
      obtain rfl := PyFloat.finite.inj e
      exact absurd t.2 h
  · rename_i h
    exact ⟨(nomatch ·), fun e => absurd e (h _)⟩

theorem Raises.requireTimestamp {φ : Exc → Prop} {value : PyFloat} {exc : Exc} (h : φ exc) :
    Raises φ (requireTimestamp value exc) := by
  unfold IRLight.requireTimestamp
  split
  · split
    · exact ok _
    · exact error h
  · exact error h

/-- `_validated_timestamp` of the Session store. -/
def validatedTimestamp (value : PyFloat) (error : String) : Except Exc Timestamp :=
  requireTimestamp value (.sessionStateError error)

/-- A clock reading, checked the way every writer of the Session store checks it. -/
def validatedNow (reading : PyFloat) (context : String) : Except Exc Timestamp :=
  validatedTimestamp reading s!"{context} is invalid"

end IRLight
