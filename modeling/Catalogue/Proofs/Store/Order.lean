import Catalogue.Store.Order
import Catalogue.Proofs.Sorting

set_option autoImplicit false

namespace Catalogue

section Comparisons

variable {α β : Type} {cmp : α → α → Ordering}

theorem transCmp_comap [Std.TransCmp cmp] (f : β → α) : Std.TransCmp fun x y => cmp (f x) (f y) where
  eq_swap := Std.OrientedCmp.eq_swap
  isLE_trans := Std.TransCmp.isLE_trans

theorem transCmp_swap [Std.TransCmp cmp] : Std.TransCmp fun x y => (cmp x y).swap where
  eq_swap := congrArg Ordering.swap Std.OrientedCmp.eq_swap
  isLE_trans := by
    intro a b c hab hbc
    have hswap : ∀ x y, (cmp x y).swap = cmp y x := fun _ _ => Std.OrientedCmp.eq_swap.symm
    rw [hswap] at hab hbc ⊢
    exact Std.TransCmp.isLE_trans hbc hab

end Comparisons

namespace Value

def orderText : Value → String
  | string s => s
  | _ => ""

def orderFlag : Value → Bool
  | boolean b => b
  | _ => false

def orderNumber : Value → Int
  | date millis => millis.toInt
  | objectId id => id.number
  | v => (v.number?.map Binary64.rank).getD 0

def tupleOrder : Value → Value → Ordering :=
  compareLex (compareOn rank)
    (compareLex (compareOn orderText) (compareLex (compareOn orderFlag) (compareOn orderNumber)))

instance transCmp_tupleOrder : Std.TransCmp tupleOrder :=
  inferInstanceAs (Std.TransCmp (compareLex (compareOn rank)
    (compareLex (compareOn orderText) (compareLex (compareOn orderFlag) (compareOn orderNumber)))))

theorem compare_natCast (m n : Nat) : compare (m : Int) (n : Int) = compare m n := by
  simp only [compare, compareOfLessAndEq, Int.ofNat_lt, Int.ofNat_inj]

theorem compareContent_eq {a b : Value} (h : a.rank = b.rank) : compareContent a b =
    compareLex (compareOn orderText) (compareLex (compareOn orderFlag) (compareOn orderNumber)) a b := by
  cases a <;> cases b <;> first
    | (simp only [rank] at h; omega)
    | simp [compareContent, compareLex, compareOn, orderText, orderFlag, orderNumber, number?, compare_natCast]

theorem compareOption_eq (a b : Option Value) :
    compareOption a b = tupleOrder (a.getD null) (b.getD null) := by
  change (compare (a.getD null).rank (b.getD null).rank).then (compareContent (a.getD null) (b.getD null)) =
    (compare (a.getD null).rank (b.getD null).rank).then _
  by_cases h : (a.getD null).rank = (b.getD null).rank
  · rw [compareContent_eq h]
  · have hne : compare (a.getD null).rank (b.getD null).rank ≠ .eq := fun he =>
      h (Std.LawfulEqOrd.eq_of_compare he)
    generalize compare (a.getD null).rank (b.getD null).rank = o at hne
    cases o with
    | eq => exact absurd rfl hne
    | lt => rfl
    | gt => rfl

instance transCmp_compareOption : Std.TransCmp compareOption := by
  have heq : compareOption = fun a b => tupleOrder (a.getD null) (b.getD null) :=
    funext fun a => funext fun b => compareOption_eq a b
  rw [heq]
  exact transCmp_comap fun v : Option Value => v.getD null

end Value

namespace Document

def compareAt (path : String) (reverse : Bool) (a b : Document) : Ordering :=
  let o := Value.compareOption (lookup a path) (lookup b path)
  if reverse then o.swap else o

instance transCmp_compareAt (path : String) (reverse : Bool) : Std.TransCmp (compareAt path reverse) := by
  have h : Std.TransCmp fun a b : Document => Value.compareOption (lookup a path) (lookup b path) :=
    transCmp_comap fun d : Document => lookup d path
  cases reverse with
  | false => exact h
  | true => exact transCmp_swap

theorem compareBy_cons (path : String) (direction : Value) (keys : List (String × Value)) :
    compareBy ((path, direction) :: keys) =
      compareLex (compareAt path (decide (direction.toInt? = some (-1)))) (compareBy keys) := by
  funext a b
  simp only [compareBy, compareLex, compareAt, decide_eq_true_eq]

instance transCmp_compareBy (keys : List (String × Value)) : Std.TransCmp (compareBy keys) := by
  induction keys with
  | nil => exact { eq_swap := rfl, isLE_trans := fun _ _ => rfl }
  | cons key keys ih =>
    obtain ⟨path, direction⟩ := key
    rw [compareBy_cons]
    infer_instance

end Document

end Catalogue
