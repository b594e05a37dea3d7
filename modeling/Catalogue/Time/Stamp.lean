import Catalogue.Time.Bound

/-!
Reading the date and time of a stored date. Its fields have the widths of an Internet date and time, any
one character may stand between date and time, and an offset has a plain sign. A leap second counts as
the last nanosecond before it, and only at the end of a month in universal time.
-/

set_option autoImplicit false

namespace Catalogue.Stamp

open Catalogue.Bound (number? char? fraction?)

def separator? : List Char → Option (List Char)
  | c :: rest => if c.toNat < 128 then some rest else none
  | [] => none

def offset? : List Char → Option (Int × List Char)
  | '−' :: _ => none
  | cs => Bound.offset? cs

def endsMonth (t : Instant) : Bool :=
  let d := t.day
  decide (t.secondOfDay = 86399 ∧ d.day = Day.monthLength d.year d.month ∧
    -9999 ≤ d.year ∧ d.year ≤ 9999)

def instant? (cs : List Char) : Option Instant := do
  let (year, cs) ← number? 4 4 cs
  let cs ← char? '-' cs
  let (month, cs) ← number? 2 2 cs
  let cs ← char? '-' cs
  let (day, cs) ← number? 2 2 cs
  let cs ← separator? cs
  let (hour, cs) ← number? 2 2 cs
  let cs ← char? ':' cs
  let (minute, cs) ← number? 2 2 cs
  let cs ← char? ':' cs
  let (second, cs) ← number? 2 2 cs
  let (nanos, cs) ← fraction? cs
  let (offset, cs) ← offset? cs
  let date : Day := ⟨year, month, day⟩
  if cs = [] ∧ date.Valid ∧ hour < 24 ∧ minute < 60 ∧ second ≤ 60 then
    let start := date.number * 86400 + hour * 3600 + minute * 60 - offset
    if second < 60 then some ⟨start + second, nanos⟩
    else
      let t : Instant := ⟨start + 59, 999999999⟩
      if endsMonth t then some t else none
  else none

/-- Milliseconds since the epoch, rounded towards it. -/
def millis? (cs : List Char) : Option Int :=
  (instant? cs).map fun t => t.nanoseconds.tdiv 1000000

end Catalogue.Stamp
