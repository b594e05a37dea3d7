import Catalogue.Digits
import Catalogue.Time.Instant
import Catalogue.Unicode.Alphanumeric

/-!
Reading the bound of a date range: an Internet date and time with its offset, or else a plain date, which
stands for its midnight. The date and time has fields of fixed width; the plain date is more liberal:
blanks before each number, short numbers, and a year of any length after a sign.
-/

set_option autoImplicit false

namespace Catalogue.Bound

def number? (least most : Nat) (cs : List Char) : Option (Nat × List Char) :=
  let ds := (cs.take most).takeWhile Char.isDigit
  if least ≤ ds.length then some (Digits.value ds, cs.drop ds.length) else none

def char? (c : Char) : List Char → Option (List Char)
  | d :: rest => if c = d then some rest else none
  | [] => none

/-! ### Date and time -/

def separator? : List Char → Option (List Char)
  | c :: rest => if c = 'T' ∨ c = 't' ∨ c = ' ' then some rest else none
  | [] => none

/-- A fraction of a second in nanoseconds; digits after the ninth do not count. -/
def fraction? : List Char → Option (Nat × List Char)
  | '.' :: cs =>
    let ds := cs.takeWhile Char.isDigit
    let kept := ds.take 9
    if ds.isEmpty then none
    else some (Digits.value kept * Nat.pow 10 (9 - kept.length), cs.drop ds.length)
  | cs => some (0, cs)

def offset? : List Char → Option (Int × List Char)
  | 'Z' :: rest | 'z' :: rest => some (0, rest)
  | c :: rest =>
    if c = '+' ∨ c = '-' ∨ c = '−' then do
      let (hours, rest) ← number? 2 2 rest
      let rest ← char? ':' rest
      let (minutes, rest) ← number? 2 2 rest
      if hours < 24 ∧ minutes < 60 then
        let s : Int := hours * 3600 + minutes * 60
        some (if c = '+' then s else -s, rest)
      else none
    else none
  | [] => none

/-- The date and time of a text. Second 60 is the leap second after second 59. -/
def dateTime? (cs : List Char) : Option Instant := do
  let (year, cs) ← number? 4 4 cs
  let cs ← char? '-' cs
  let (month, cs) ← number? 2 2 cs
  let cs ← char? '-' cs
  let (day, cs) ← number? 2 2 cs
  let cs ← separator? cs
  let (hour, cs) ← number? 2 2 cs
  let cs ← char? ':' cs
  let (minute, cs) ← number? 2 2 cs
  let cs ← char? ':' cs
  let (second, cs) ← number? 2 2 cs
  let (nanos, cs) ← fraction? cs
  let (offset, cs) ← offset? cs
  let date : Day := ⟨year, month, day⟩
  if cs = [] ∧ date.Valid ∧ hour < 24 ∧ minute < 60 ∧ second ≤ 60 then
    let leap := second / 60
    let s := date.number * 86400 + hour * 3600 + minute * 60 + (second - leap : Nat) - offset
    some ⟨s, nanos + leap * 1000000000⟩
  else none

/-! ### Plain dates -/

/-- A year of at most four digits, or of any number of digits after a sign. -/
def year? (cs : List Char) : Option (Int × List Char) :=
  match cs.dropWhile Unicode.isBlank with
  | '-' :: rest => (number? 1 rest.length rest).map fun (n, rest) => (-(n : Int), rest)
  | '+' :: rest => (number? 1 rest.length rest).map fun (n, rest) => ((n : Int), rest)
  | rest => (number? 1 4 rest).map fun (n, rest) => ((n : Int), rest)

def leastYear : Int := -262143

def mostYear : Int := 262142

def date? (cs : List Char) : Option Day := do
  let (year, cs) ← year? cs
  let cs ← char? '-' cs
  let (month, cs) ← number? 1 2 (cs.dropWhile Unicode.isBlank)
  let cs ← char? '-' cs
  let (day, cs) ← number? 1 2 (cs.dropWhile Unicode.isBlank)
  let date : Day := ⟨year, month, day⟩
  if cs = [] ∧ date.Valid ∧ leastYear ≤ year ∧ year ≤ mostYear then some date else none

def read (cs : List Char) : Option Instant :=
  dateTime? cs <|> (date? cs).map Instant.midnight

end Catalogue.Bound
