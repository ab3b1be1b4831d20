import Mathlib.Algebra.Order.Field.Rat
import Mathlib.Data.Int.Log
import Mathlib.Data.Rat.Floor

/-! # Floats and their texts

A float is 64 bits. Its text is the shortest decimal number that is rounded to it. -/

structure Double where
  bits : UInt64
  deriving DecidableEq

namespace Double

def negative (x : Double) : Bool := 2 ^ 63 ≤ x.bits.toNat

def exponentBits (x : Double) : ℕ := x.bits.toNat / 2 ^ 52 % 2 ^ 11

def fraction (x : Double) : ℕ := x.bits.toNat % 2 ^ 52

/-- `math.isfinite`. -/
def isFinite (x : Double) : Bool := x.exponentBits ≠ 2047

/-- A finite float is its mantissa times a power of two, up to the sign. -/
def mantissa (x : Double) : ℕ := if x.exponentBits = 0 then x.fraction else 2 ^ 52 + x.fraction

def exponent (x : Double) : ℤ := max 1 x.exponentBits - 1075

/-- A quarter of the last place. The bounds of a float are so many quarters. -/
def quarter (x : Double) : ℚ := 2 ^ (x.exponent - 2)

def magnitude (x : Double) : ℚ := 4 * x.mantissa * x.quarter

/-- Below a power of two the floats are twice as dense. -/
def lower (x : Double) : ℚ :=
  if x.fraction = 0 && 1 < x.exponentBits then (4 * x.mantissa - 1) * x.quarter else (4 * x.mantissa - 2) * x.quarter

def upper (x : Double) : ℚ := (4 * x.mantissa + 2) * x.quarter

/-- The decimal is rounded to the magnitude of the float: ties go to the even mantissa. -/
def rounds (x : Double) (d : ℚ) : Bool :=
  if x.mantissa % 2 = 0 then x.lower ≤ d && d ≤ x.upper else x.lower < d && d < x.upper

/-- The place of the first decimal digit: the magnitude is at least `10 ^ (place - 1)` and less than `10 ^ place`. -/
def place (x : Double) : ℤ := Int.log 10 x.magnitude + 1

/-- The nearest decimal with `n` digits that is rounded to the float, as a multiple of `10 ^ (place - n)`. -/
def nearest (x : Double) (n : ℕ) : Option ℕ :=
  let unit : ℚ := 10 ^ (x.place - n)
  let scaled := x.magnitude / unit
  let floor := ⌊scaled⌋.toNat
  let up := if 2 * (scaled - floor) = 1 then floor % 2 = 1 else 1 < 2 * (scaled - floor)
  let first := if up then floor + 1 else floor
  let second := if up then floor else floor + 1
  if x.rounds (first * unit) then some first else if x.rounds (second * unit) then some second else none

/-- The shortest digits, and the place of the decimal point in or around them. Seventeen digits always suffice. -/
def digits (x : Double) : List Char × ℤ :=
  if x.mantissa = 0 then (['0'], 1)
  else
    match (List.range 17).findSome? fun i => (x.nearest (i + 1)).map fun d => (d, i + 1) with
    | some (d, n) =>
      let all := Nat.toDigits 10 d
      ((all.reverse.dropWhile (· = '0')).reverse, x.place - n + all.length)
    | none => ([], 0)

/-- `float.__repr__`. -/
def repr (x : Double) : String :=
  let sign := if x.negative then ['-'] else []
  if !x.isFinite then String.ofList (if x.fraction ≠ 0 then "nan".toList else sign ++ "inf".toList)
  else
    let (digits, point) := x.digits
    let body :=
      if point ≤ -4 || 16 < point then
        let exponent := (point - 1).natAbs
        let shown := Nat.toDigits 10 exponent
        digits.take 1 ++ (if digits.length ≤ 1 then [] else '.' :: digits.drop 1) ++ ['e', if point - 1 < 0 then '-' else '+'] ++
          (if shown.length < 2 then '0' :: shown else shown)
      else if point ≤ 0 then ['0', '.'] ++ List.replicate point.natAbs '0' ++ digits
      else if digits.length ≤ point then digits ++ List.replicate (point - digits.length).toNat '0' ++ ['.', '0']
      else digits.take point.toNat ++ '.' :: digits.drop point.toNat
    String.ofList (sign ++ body)

end Double
