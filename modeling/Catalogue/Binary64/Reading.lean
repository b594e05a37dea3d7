import Catalogue.Binary64.Basic
import Catalogue.Digits

set_option autoImplicit false

namespace Catalogue.Binary64

/-- The magnitude nearest to `0.d₁d₂… * 10 ^ place` for the digits `ds`, the first not zero. -/
def roundDigits (ds : List Char) (place : Int) : Nat :=
  if 400 < place then infinite
  else if place < -400 then 0
  else
    let exponent := place - ds.length
    if 0 ≤ exponent then roundRatio (Digits.value ds * Nat.pow 10 exponent.toNat) 1
    else roundRatio (Digits.value ds) (Nat.pow 10 exponent.natAbs)

def exponent? : List Char → Option Int
  | [] => some 0
  | c :: rest =>
    if c = 'e' ∨ c = 'E' then Digits.integer? rest else none

def number? (cs : List Char) : Option Nat :=
  let whole := cs.takeWhile Char.isDigit
  let rest := cs.dropWhile Char.isDigit
  let (fraction, rest) := match rest with
    | '.' :: more => (more.takeWhile Char.isDigit, more.dropWhile Char.isDigit)
    | more => ([], more)
  if whole.isEmpty && fraction.isEmpty then none
  else
    (exponent? rest).map fun e =>
      match (whole ++ fraction).dropWhile (· == '0') with
      | [] => 0
      | ds => roundDigits ds (e + ds.length - fraction.length)

def parse? (s : String) : Option Binary64 :=
  let (negative, cs) := Digits.signed s.toList
  let name := String.ofList (cs.map Char.toLower)
  if name = "inf" ∨ name = "infinity" then some (ofMagnitude negative infinite)
  else if name = "nan" then some (ofMagnitude negative nan.magnitude)
  else (number? cs).map (ofMagnitude negative)

end Catalogue.Binary64
