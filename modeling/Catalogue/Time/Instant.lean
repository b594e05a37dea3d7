import Catalogue.Time.Day

set_option autoImplicit false

namespace Catalogue

structure Instant where
  /-- Seconds since the epoch, rounded down. -/
  seconds : Int
  /-- Nanoseconds into the second; from `10 ^ 9` on they lie in a leap second after it. -/
  nanos : Nat
deriving DecidableEq, Repr

namespace Instant

def twoDigits (n : Nat) : List Char := [Nat.digitChar (n / 10 % 10), Nat.digitChar (n % 10)]

def padded (width n : Nat) : List Char :=
  let ds := Nat.toDigits 10 n
  List.replicate (width - ds.length) '0' ++ ds

def midnight (d : Day) : Instant := ⟨d.number * 86400, 0⟩

def ofMillis (ms : Int) : Instant := ⟨ms / 1000, (ms % 1000).toNat * 1000000⟩

def millis (t : Instant) : Int := t.seconds * 1000 + (t.nanos / 1000000 : Nat)

def nanoseconds (t : Instant) : Int := t.seconds * 1000000000 + t.nanos

def day (t : Instant) : Day := Day.ofNumber (t.seconds / 86400)

def secondOfDay (t : Instant) : Nat := (t.seconds % 86400).toNat

/-- Years from 0 to 9999 have four digits; others have a sign too. -/
def yearText (y : Int) : List Char :=
  if 0 ≤ y ∧ y ≤ 9999 then padded 4 y.toNat
  else (if y < 0 then '-' else '+') :: padded 4 y.natAbs

/-- No fraction, or three, six or nine digits, the fewest that are exact. -/
def fractionText (nanos : Nat) : List Char :=
  if nanos = 0 then []
  else if nanos % 1000000 = 0 then '.' :: padded 3 (nanos / 1000000)
  else if nanos % 1000 = 0 then '.' :: padded 6 (nanos / 1000)
  else '.' :: padded 9 nanos

def text (t : Instant) : List Char :=
  let d := t.day
  let s := t.secondOfDay
  let leap := if 1000000000 ≤ t.nanos then 1 else 0
  yearText d.year ++ '-' :: twoDigits d.month ++ '-' :: twoDigits d.day ++
    'T' :: twoDigits (s / 3600) ++ ':' :: twoDigits (s / 60 % 60) ++
    ':' :: twoDigits (s % 60 + leap) ++ fractionText (t.nanos - leap * 1000000000) ++ ['Z']

end Instant

end Catalogue
