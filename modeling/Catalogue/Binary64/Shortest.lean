import Catalogue.Binary64.Basic

/-!
The shortest decimal that reads back as a given double, and the three ways it is written. All of it is
exact: a double is counted in units of `10 ^ -400`, fine enough for the grids of up to seventeen digits.
-/

set_option autoImplicit false

namespace Catalogue

structure Decimal where
  digits : Nat
  exponent : Int
deriving DecidableEq, Repr

namespace Decimal

def strip : Nat → Decimal → Decimal
  | 0, d => d
  | fuel + 1, d =>
    if d.digits % 10 = 0 ∧ d.digits ≠ 0 then strip fuel ⟨d.digits / 10, d.exponent + 1⟩ else d

def text (d : Decimal) : List Char := Nat.toDigits 10 d.digits

def leading (d : Decimal) : Int := d.text.length + d.exponent - 1

def positional (d : Decimal) : List Char :=
  let ds := d.text
  if 0 ≤ d.exponent then ds ++ List.replicate d.exponent.toNat '0'
  else
    let places := d.exponent.natAbs
    if ds.length ≤ places then '0' :: '.' :: List.replicate (places - ds.length) '0' ++ ds
    else ds.take (ds.length - places) ++ '.' :: ds.drop (ds.length - places)

def scientific (plus : Bool) (d : Decimal) : List Char :=
  let mantissa := match d.text with
    | [] => []
    | [c] => [c]
    | c :: rest => c :: '.' :: rest
  let x := d.leading
  let sign := if x < 0 then ['-'] else if plus then ['+'] else []
  mantissa ++ 'e' :: sign ++ Nat.toDigits 10 x.natAbs

end Decimal

namespace Binary64

/-- The reals that round to a positive finite double, counted in quarters of its last place: the
lower end, the double and the upper end. -/
def neighbourhood (x : Binary64) : Nat × Nat × Nat :=
  let m := x.significand
  (4 * m - (if m = fractionSize ∧ 0 < x.scale then 1 else 2), 4 * m, 4 * m + 2)

/-- The shortest decimal on the grid of `n` digits, if one of the two grid points around the double
reads back as it. `low`, `mid` and `high` are in units of `10 ^ -400 / unit`. -/
def onGrid? (closed : Bool) (low mid high unit size n : Nat) : Option Decimal :=
  let step := Nat.pow 10 (size - n)
  let c := mid / unit / step
  let fits (k : Nat) : Bool :=
    let p := k * step * unit
    if closed then decide (low ≤ p ∧ p ≤ high) else decide (low < p ∧ p < high)
  let answer (k : Nat) : Decimal := ⟨k, (size : Int) - n - 400⟩
  let below := mid - c * step * unit
  let above := (c + 1) * step * unit - mid
  if fits c && fits (c + 1) then
    some (answer (if below < above ∨ (below = above ∧ c % 2 = 0) then c else c + 1))
  else if fits c then some (answer c)
  else if fits (c + 1) then some (answer (c + 1))
  else none

def shortest (x : Binary64) : Decimal :=
  let (low, mid, high) := x.neighbourhood
  let factor := Nat.pow 2 x.scale * Nat.pow 10 400
  let unit := Nat.pow 2 1076
  let size := (Nat.toDigits 10 (mid * factor / unit)).length
  let closed := x.significand % 2 == 0
  let found := (List.range 17).findSome? fun n =>
    onGrid? closed (low * factor) (mid * factor) (high * factor) unit size (n + 1)
  (found.getD ⟨0, 0⟩).strip 20

/-- How doubles are written: which exponents of the leading digit need no exponent part, whether a
whole number keeps `.0`, and whether a positive exponent part has a sign. -/
structure Style where
  least : Int
  most : Int
  point : Bool
  plus : Bool

def Style.data : Style := ⟨-5, 15, true, true⟩

def Style.message : Style := ⟨-400, 400, false, false⟩

def Style.debug : Style := ⟨-4, 15, true, false⟩

def write (style : Style) (x : Binary64) : String :=
  if x.isNaN then "NaN"
  else
    let sign := if x.isNegative then ['-'] else []
    if x.isInfinite then String.ofList (sign ++ ['i', 'n', 'f'])
    else
      let d := if x.isZero then ⟨0, 0⟩ else x.shortest
      let body :=
        if style.least ≤ d.leading ∧ d.leading ≤ style.most then
          d.positional ++ (if style.point && decide (0 ≤ d.exponent) then ['.', '0'] else [])
        else d.scientific style.plus
      String.ofList (sign ++ body)

end Binary64

end Catalogue
