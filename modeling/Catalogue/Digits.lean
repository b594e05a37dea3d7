set_option autoImplicit false

namespace Catalogue.Digits

def value (ds : List Char) : Nat := ds.foldl (fun n c => n * 10 + (c.toNat - '0'.toNat)) 0

def hex? (c : Char) : Option Nat :=
  if c.isDigit then some (c.toNat - '0'.toNat)
  else if 'a' ≤ c ∧ c ≤ 'f' then some (c.toNat - 'a'.toNat + 10)
  else if 'A' ≤ c ∧ c ≤ 'F' then some (c.toNat - 'A'.toNat + 10)
  else none

def hexValue? (cs : List Char) : Option Nat :=
  (cs.mapM hex?).map fun ds => ds.foldl (fun n d => n * 16 + d) 0

/-- A leading sign, whether it is a minus, and the text behind it. -/
def signed : List Char → Bool × List Char
  | '-' :: rest => (true, rest)
  | '+' :: rest => (false, rest)
  | cs => (false, cs)

def integer? (cs : List Char) : Option Int :=
  let (negative, ds) := signed cs
  if ds.isEmpty || !ds.all Char.isDigit then none
  else some (if negative then -(value ds : Int) else value ds)

theorem value_nil : value [] = 0 := rfl

theorem value_append_singleton (ds : List Char) (c : Char) :
    value (ds ++ [c]) = value ds * 10 + (c.toNat - '0'.toNat) := by
  simp [value, List.foldl_append]

end Catalogue.Digits
