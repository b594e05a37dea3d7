import Catalogue.Document.Basic

/-!
Equality and order of stored values as queries see them. Numbers of all kinds are compared as doubles,
other values by kind and then by content where the kind has an order; what is missing counts as null.
-/

set_option autoImplicit false

namespace Catalogue

namespace Document

def segments : List Char → List (List Char)
  | [] => [[]]
  | c :: cs =>
    if c = '.' then [] :: segments cs
    else
      match segments cs with
      | s :: rest => (c :: s) :: rest
      | [] => [[c]]

def follow (d : Document) : List (List Char) → Option Value
  | [] => none
  | [s] => Fields.get? d (String.ofList s)
  | s :: rest => do
    let v ← Fields.get? d (String.ofList s)
    follow (← v.asDocument?) rest

def lookup (d : Document) (path : String) : Option Value := follow d (segments path.toList)

theorem segments_of_not_mem {cs : List Char} (h : '.' ∉ cs) : segments cs = [cs] := by
  induction cs with
  | nil => rfl
  | cons c cs ih =>
    simp only [List.mem_cons, not_or] at h
    simp [segments, Ne.symm h.1, ih h.2]

theorem lookup_of_not_mem (d : Document) {name : String} (h : '.' ∉ name.toList) :
    lookup d name = Fields.get? d name := by
  simp [lookup, segments_of_not_mem h, follow]

end Document

namespace Value

def rank : Value → Nat
  | null => 0
  | int32 _ | int64 _ | double _ => 1
  | string _ => 2
  | document _ => 3
  | array _ => 4
  | objectId _ => 5
  | boolean _ => 6
  | date _ => 7
  | _ => 8

def number? : Value → Option Binary64
  | int32 n => some (Binary64.ofInt n.toInt)
  | int64 n => some (Binary64.ofInt n.toInt)
  | double x => some x
  | _ => none

def equal (a b : Value) : Bool :=
  match a.number?, b.number? with
  | some x, some y => x.numericEq y
  | _, _ => same a b

def compareContent (a b : Value) : Ordering :=
  match a, b with
  | string s, string t => compare s t
  | boolean x, boolean y => compare x y
  | date x, date y => compare x.toInt y.toInt
  | objectId x, objectId y => compare x.number y.number
  | _, _ =>
    match a.number?, b.number? with
    | some x, some y => compare x.rank y.rank
    | _, _ => .eq

def compareOption (a b : Option Value) : Ordering :=
  let a := a.getD null
  let b := b.getD null
  (compare a.rank b.rank).then (compareContent a b)

end Value

namespace Document

/-- The order by the fields of `keys`, a field with direction minus one in reverse. -/
def compareBy : List (String × Value) → Document → Document → Ordering
  | [], _, _ => .eq
  | (path, direction) :: keys, a, b =>
    let o := Value.compareOption (lookup a path) (lookup b path)
    (if direction.toInt? = some (-1) then o.swap else o).then (compareBy keys a b)

end Document

end Catalogue
