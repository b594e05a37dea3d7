/-!
Doubles as their sixty-four bits. A finite one is `significand * 2 ^ exponent` up to its sign, and the
magnitude field orders doubles of one sign as numbers, so comparing and rounding are integer arithmetic.
-/

set_option autoImplicit false

namespace Catalogue

structure Binary64 where
  bits : UInt64
deriving DecidableEq, Repr

namespace Binary64

/-- `2 ^ 63`, the place of the sign. -/
abbrev signSize : Nat := 9223372036854775808

/-- `2 ^ 52`, the number of magnitudes of one exponent. -/
abbrev fractionSize : Nat := 4503599627370496

/-- `2 ^ 1074`, the number of least doubles in one. -/
def unitSize : Nat := Nat.pow 2 1074

def magnitude (x : Binary64) : Nat := x.bits.toNat % signSize

def isNegative (x : Binary64) : Bool := decide (signSize ≤ x.bits.toNat)

/-- The magnitude of the infinities; the magnitudes above it are those of NaN. -/
def infinite : Nat := 2047 * fractionSize

def isNaN (x : Binary64) : Bool := decide (infinite < x.magnitude)

def isInfinite (x : Binary64) : Bool := x.magnitude == infinite

def isFinite (x : Binary64) : Bool := decide (x.magnitude < infinite)

def isZero (x : Binary64) : Bool := x.magnitude == 0

def ofMagnitude (negative : Bool) (m : Nat) : Binary64 :=
  ⟨UInt64.ofNat (if negative then signSize + m else m)⟩

def zero : Binary64 := ⟨0⟩

def infinity : Binary64 := ofMagnitude false infinite

def nan : Binary64 := ofMagnitude false (infinite + fractionSize / 2)

def negate (x : Binary64) : Binary64 := ofMagnitude (!x.isNegative) x.magnitude

def significand (x : Binary64) : Nat :=
  if x.magnitude < fractionSize then x.magnitude else x.magnitude % fractionSize + fractionSize

/-- The exponent above that of the least double, so that a finite double is
`significand * 2 ^ (scale - 1074)`. -/
def scale (x : Binary64) : Nat := x.magnitude / fractionSize - 1

def roundDiv (num den : Nat) : Nat :=
  let q := num / den
  let r := num % den
  if 2 * r < den then q
  else if den < 2 * r then q + 1
  else if q % 2 = 0 then q else q + 1

/-- The scale at which `num / den` has a significand of fifty-three bits, zero for smaller ratios. -/
def scaleOf (num den : Nat) : Nat :=
  let s := num.log2 + 1021 - den.log2
  if num * unitSize < Nat.pow 2 s * (2 * fractionSize) * den then s else s + 1

/-- The magnitude nearest to `num / den`, a tie to the even significand; past the greatest finite
magnitude it is `infinite`. A significand that rounds up to fifty-four bits carries into the scale. -/
def roundRatio (num den : Nat) : Nat :=
  if num = 0 then 0
  else
    let s := scaleOf num den
    min infinite (s * fractionSize + roundDiv (num * unitSize) (Nat.pow 2 s * den))

def ofRatio (negative : Bool) (num den : Nat) : Binary64 := ofMagnitude negative (roundRatio num den)

def ofNat (n : Nat) : Binary64 := ofRatio false n 1

def ofInt (n : Int) : Binary64 := ofRatio (decide (n < 0)) n.natAbs 1

def ratio (x : Binary64) : Nat × Nat := (x.significand * Nat.pow 2 x.scale, unitSize)

def mul (x y : Binary64) : Binary64 :=
  ofRatio false (x.ratio.1 * y.ratio.1) (x.ratio.2 * y.ratio.2)

def div (x y : Binary64) : Binary64 :=
  ofRatio false (x.ratio.1 * y.ratio.2) (x.ratio.2 * y.ratio.1)

def toInt? (x : Binary64) : Option Int :=
  let (num, den) := x.ratio
  if x.isFinite && num % den == 0 then
    some (if x.isNegative then -((num / den : Nat) : Int) else (num / den : Nat))
  else none

def numericEq (x y : Binary64) : Bool :=
  !x.isNaN && !y.isNaN && (x.bits == y.bits || (x.isZero && y.isZero))

/-- The place of a double in the total order: negative NaN, negative numbers, the zeros apart,
positive numbers, NaN. -/
def rank (x : Binary64) : Int :=
  if x.isNegative then -(x.magnitude : Int) - 1 else x.magnitude

end Binary64

end Catalogue
