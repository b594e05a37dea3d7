import Mathlib.Data.List.Basic

set_option autoImplicit false

namespace Catalogue

variable {α : Type} {cmp : α → α → Ordering}

/-- `out` is `xs` in ascending order, elements that compare as equal in the order of `xs`. -/
structure StablySorted (cmp : α → α → Ordering) (xs out : List α) : Prop where
  perm : out.Perm xs
  ascending : out.Pairwise fun a b => cmp a b ≠ .gt
  stable : ∀ a, out.filter (cmp a · == .eq) = xs.filter (cmp a · == .eq)

theorem notGreater_trans [Std.TransCmp cmp] (a b c : α) (hab : (cmp a b != .gt) = true)
    (hbc : (cmp b c != .gt) = true) : (cmp a c != .gt) = true := by
  rw [bne_iff_ne] at hab hbc ⊢
  exact Std.TransCmp.le_trans hab hbc

theorem notGreater_total [Std.OrientedCmp cmp] (a b : α) :
    ((cmp a b != .gt) || (cmp b a != .gt)) = true := by
  have hswap : cmp b a = (cmp a b).swap := Std.OrientedCmp.eq_swap
  rw [hswap]
  cases cmp a b <;> decide

theorem pairwise_mergeSort [Std.TransCmp cmp] (xs : List α) :
    (xs.mergeSort fun a b => cmp a b != .gt).Pairwise fun a b => cmp a b ≠ .gt := by
  have h : (xs.mergeSort fun a b => cmp a b != .gt).Pairwise fun a b => (cmp a b != .gt) = true :=
    List.pairwise_mergeSort notGreater_trans notGreater_total xs
  exact h.imp fun hab => bne_iff_ne.1 hab

/-- Elements that compare as equal to one element form an ascending part of the list, which a stable sort
keeps as it is. -/
theorem filter_mergeSort [Std.TransCmp cmp] (xs : List α) (a : α) :
    (xs.mergeSort fun a b => cmp a b != .gt).filter (cmp a · == .eq) =
      xs.filter (cmp a · == .eq) := by
  have hlevel : (xs.filter (cmp a · == .eq)).Pairwise fun b c => (cmp b c != .gt) = true := by
    refine List.pairwise_of_forall_mem_list ?_
    intro b hb c hc
    have hab : cmp a b = .eq := by simpa using (List.mem_filter.1 hb).2
    have hac : cmp a c = .eq := by simpa using (List.mem_filter.1 hc).2
    rw [← Std.TransCmp.congr_left hab, hac]
    decide
  have hsub := List.sublist_mergeSort notGreater_trans notGreater_total hlevel List.filter_sublist
  have hkept : (xs.filter (cmp a · == .eq)).Sublist
      ((xs.mergeSort fun a b => cmp a b != .gt).filter (cmp a · == .eq)) := by
    have h := hsub.filter (cmp a · == .eq)
    simpa only [List.filter_filter, Bool.and_self] using h
  exact (hkept.eq_of_length ((List.mergeSort_perm _ _).filter _).length_eq.symm).symm

theorem stablySorted_mergeSort [Std.TransCmp cmp] (xs : List α) :
    StablySorted cmp xs (xs.mergeSort fun a b => cmp a b != .gt) :=
  ⟨List.mergeSort_perm _ _, pairwise_mergeSort xs, filter_mergeSort xs⟩

theorem mergeSort_eq_of_perm [Std.TransCmp cmp] {xs ys : List α}
    (hinj : ∀ a ∈ ys, ∀ b ∈ ys, cmp a b = .eq → a = b) (hys : ys.Pairwise fun a b => cmp a b ≠ .gt)
    (h : xs.Perm ys) : (xs.mergeSort fun a b => cmp a b != .gt) = ys := by
  have hperm := (List.mergeSort_perm xs fun a b => cmp a b != .gt).trans h
  refine List.Perm.eq_of_pairwise ?_ (pairwise_mergeSort xs) hys hperm
  intro a b ha hb hab hba
  refine hinj a (hperm.subset ha) b hb ?_
  exact Std.OrientedCmp.isLE_antisymm (Ordering.ne_gt_iff_isLE.1 hab) (Ordering.ne_gt_iff_isLE.1 hba)

end Catalogue
