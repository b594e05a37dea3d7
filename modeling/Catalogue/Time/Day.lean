/-!
Calendar days, counted from the first of January 1970. Years are counted from March, so that the leap
day is the last of its year and the days before a month follow one linear rule.
-/

set_option autoImplicit false

namespace Catalogue

structure Day where
  year : Int
  month : Nat
  day : Nat
deriving DecidableEq, Repr

namespace Day

def isLeap (year : Int) : Bool := year % 4 == 0 && (year % 100 != 0 || year % 400 == 0)

def monthLength (year : Int) (month : Nat) : Nat :=
  if month = 2 then (if isLeap year then 29 else 28)
  else if month = 4 ∨ month = 6 ∨ month = 9 ∨ month = 11 then 30
  else 31

def Valid (d : Day) : Prop :=
  1 ≤ d.month ∧ d.month ≤ 12 ∧ 1 ≤ d.day ∧ d.day ≤ monthLength d.year d.month

instance (d : Day) : Decidable d.Valid := inferInstanceAs (Decidable (_ ∧ _))

def number (d : Day) : Int :=
  let y := if d.month ≤ 2 then d.year - 1 else d.year
  let m : Int := if d.month ≤ 2 then d.month + 9 else d.month - 3
  let ofYear := (153 * m + 2) / 5 + d.day - 1
  y / 400 * 146097 + (y % 400 * 365 + y % 400 / 4 - y % 400 / 100 + ofYear) - 719468

def ofNumber (n : Int) : Day :=
  let z := n + 719468
  let era := z / 146097
  let inEra := z % 146097
  let y := (inEra - inEra / 1460 + inEra / 36524 - inEra / 146096) / 365
  let ofYear := inEra - (365 * y + y / 4 - y / 100)
  let m := (5 * ofYear + 2) / 153
  let day := ofYear - (153 * m + 2) / 5 + 1
  let month := if m < 10 then m + 3 else m - 9
  ⟨y + era * 400 + (if month ≤ 2 then 1 else 0), month.toNat, day.toNat⟩

end Day

end Catalogue
