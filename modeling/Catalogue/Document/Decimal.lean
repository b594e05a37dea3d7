import Catalogue.Binary64.Shortest
import Catalogue.Digits

/-!
Decimal numbers of up to thirty-four digits, with their exponents as they were given: a text keeps its
trailing zeros. A text that cannot be kept to the last digit is refused.
-/

set_option autoImplicit false

namespace Catalogue

inductive StoredDecimal.Magnitude
  | finite (d : Decimal)
  | infinite
  | nan (signalling : Bool)
deriving DecidableEq, Repr

structure StoredDecimal where
  negative : Bool
  magnitude : StoredDecimal.Magnitude
deriving DecidableEq, Repr

namespace StoredDecimal

def mostDigits : Nat := 34

def leastExponent : Int := -6176

def mostExponent : Int := 6111

/-- A coefficient may repeat the plus sign. -/
def coefficient? (cs : List Char) : Option Nat :=
  let ds := match cs with
    | '+' :: rest => rest
    | rest => rest
  if ds ≠ [] ∧ ds.all Char.isDigit then some (Digits.value ds) else none

def exponent? (cs : List Char) : Option Int :=
  (Digits.integer? cs).filter fun n => decide (-32768 ≤ n ∧ n < 32768)

def cut (kept : Nat) (cs : List Char) : Option (List Char) :=
  if (cs.drop kept).all (· == '0') then some (cs.take kept) else none

/-- At most the greatest number of digits, the exponent growing with each zero that is dropped. -/
def fitDigits (cs : List Char) (e : Int) : Option (List Char × Int) :=
  if cs.length ≤ mostDigits then some (cs, e)
  else (cut mostDigits cs).map fun kept => (kept, e + (cs.length - mostDigits : Nat))

/-- An exponent that is too small drops zeros from the coefficient, one that is too large appends some. -/
def fitExponent (cs : List Char) (e : Int) : Option (List Char × Int) :=
  if cs = ['0'] then some (cs, max leastExponent (min mostExponent e))
  else if e < leastExponent then
    let excess := (leastExponent - e).toNat
    if cs.length < excess then none
    else (cut (cs.length - excess) cs).map fun kept => (kept, leastExponent)
  else if mostExponent < e then
    let excess := (e - mostExponent).toNat
    if mostDigits < cs.length + excess then none
    else some (cs ++ List.replicate excess '0', mostExponent)
  else some (cs, e)

def finite? (cs : List Char) : Option Magnitude := do
  let digits := cs.takeWhile (· != 'e')
  let e ← match cs.dropWhile (· != 'e') with
    | _ :: rest => exponent? rest
    | [] => some 0
  let whole := digits.takeWhile (· != '.')
  let fraction := (digits.dropWhile (· != '.')).drop 1
  let ds := match (whole ++ fraction).dropWhile (· == '0') with
    | [] => ['0']
    | ds => ds
  let (ds, e) ← fitDigits ds (e - fraction.length)
  let (ds, e) ← fitExponent ds e
  let n ← coefficient? ds
  some (.finite ⟨n, e⟩)

def parse? (s : String) : Option StoredDecimal :=
  let (negative, cs) := Digits.signed s.toList
  let cs := cs.map Char.toLower
  let name := String.ofList cs
  let magnitude :=
    if name = "nan" then some (.nan false)
    else if name = "snan" then some (.nan true)
    else if name = "infinity" ∨ name = "inf" then some .infinite
    else finite? cs
  magnitude.map (⟨negative, ·⟩)

/-- Without exponent as long as no zero has to be made up behind the digits and few in front of them. -/
def finiteText (d : Decimal) : List Char :=
  if d.exponent ≤ 0 ∧ -6 ≤ d.leading then d.positional
  else (d.scientific true).map Char.toUpper

def text (x : StoredDecimal) : String :=
  let magnitude := match x.magnitude with
    | .finite d => String.ofList (finiteText d)
    | .infinite => "Infinity"
    | .nan signalling => if signalling then "sNaN" else "NaN"
  if x.negative then "-" ++ magnitude else magnitude

end StoredDecimal

end Catalogue
