import Catalogue.Unicode.Alphanumeric
import Catalogue.Unicode.CaseFold
import Catalogue.Unicode.Word

/-!
Sets of characters. Membership is found for a character together with all characters that differ from it
in case only: folding a set is then a matter of these few answers, at whatever depth of the set it stands.
-/

set_option autoImplicit false

namespace Catalogue

inductive CharSet
  | char (folded : Bool) (c : Char)
  | within (ranges : List (Nat × Nat))
  | complement (s : CharSet)
  | union (s t : CharSet)
  | inter (s t : CharSet)
  | diff (s t : CharSet)
  | symmDiff (s t : CharSet)
  | fold (s : CharSet)

namespace CharSet

/-- Which of `cs`, that differ in case only, are in the set. -/
def members : CharSet → List Char → List Bool
  | char folded c, cs => cs.map (Unicode.sameChar folded c)
  | within ranges, cs => cs.map fun c => Unicode.inRanges ranges c.toNat
  | complement s, cs => (s.members cs).map (!·)
  | union s t, cs => List.zipWith (· || ·) (s.members cs) (t.members cs)
  | inter s t, cs => List.zipWith (· && ·) (s.members cs) (t.members cs)
  | diff s t, cs => List.zipWith (fun a b => a && !b) (s.members cs) (t.members cs)
  | symmDiff s t, cs => List.zipWith (· != ·) (s.members cs) (t.members cs)
  | fold s, cs =>
    let found := (s.members cs).any id
    cs.map fun _ => found

def folds : CharSet → Bool
  | char _ _ | within _ => false
  | complement s => s.folds
  | union s t | inter s t | diff s t | symmDiff s t => s.folds || t.folds
  | fold _ => true

def contains (s : CharSet) (c : Char) : Bool :=
  match s with
  | char folded d => Unicode.sameChar folded d c
  | s => (s.members (if s.folds then c :: Unicode.foldVariants c else [c])).headD false

def all : CharSet := within [(0, 0x10FFFF)]

def empty : CharSet := within []

def ofChars (cs : List Char) : CharSet := within (cs.map fun c => (c.toNat, c.toNat))

def range (low high : Char) : CharSet := within [(low.toNat, high.toNat)]

/-- The number of ranges that the set is made of, as far as it can be told without its elements. -/
def pieces : CharSet → Nat
  | char folded _ => if folded then 2 else 1
  | within ranges => ranges.length
  | complement s => s.pieces + 1
  | union s t | inter s t | diff s t | symmDiff s t => s.pieces + t.pieces
  | fold s => 2 * s.pieces

def isBasic (s : CharSet) : Bool :=
  (List.range 128).all fun n => !s.contains (Char.ofNat (128 + n))

end CharSet

end Catalogue
