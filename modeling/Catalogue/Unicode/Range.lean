set_option autoImplicit false

namespace Catalogue.Unicode

def inRanges (ranges : List (Nat × Nat)) (n : Nat) : Bool :=
  ranges.any fun r => decide (r.1 ≤ n ∧ n ≤ r.2)

/-- The code points `first`, `first + stride`, … up to `last`, each mapped to itself plus `shift`. -/
structure ShiftedRange where
  first : Nat
  last : Nat
  stride : Nat
  shift : Int

namespace ShiftedRange

def contains (r : ShiftedRange) (n : Nat) : Bool :=
  decide (r.first ≤ n ∧ n ≤ r.last ∧ (n - r.first) % r.stride = 0)

end ShiftedRange

def shiftChar (ranges : List ShiftedRange) (c : Char) : Char :=
  match ranges.find? (·.contains c.toNat) with
  | some r => Char.ofNat ((c.toNat : Int) + r.shift).toNat
  | none => c

end Catalogue.Unicode
