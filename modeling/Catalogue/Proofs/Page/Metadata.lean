import Catalogue.Proofs.Page.Paging

/-!
What a page says of its place in a listing. Numbers and sizes of pages have 32 bits, and totals may have more, so the
number of pages is cut to 32 bits again and there may be pages that no number reaches. A next page is announced
just where the next number is one and its page is not empty: cutting changes nothing below the greatest number.
-/

set_option autoImplicit false

namespace Catalogue

/-! ### Windows -/

theorem lt_windowCount_iff {size : Nat} (length : Nat) (h : 0 < size) {k : Nat} :
    k < windowCount length size ↔ k * size < length := by
  have hleast := windowCount_isLeast length h
  constructor
  · intro hk
    by_contra hle
    have hcount := hleast.2 (Nat.le_of_not_lt hle)
    omega
  · intro hk
    by_contra hle
    have hcovered := le_windowCount_mul length h
    have hmul := Nat.mul_le_mul_right size (Nat.le_of_not_lt hle)
    omega

namespace Pagination

/-- The number and the size of the page that a request asks for, once what it leaves open is filled in. -/
structure Resolves (p : Pagination) (defaultSize current size : UInt32) : Prop where
  number : current.toNat = max (p.current.getD 1).toNat 1
  size_of_asked : ∀ asked, p.pageSize = some asked → 0 < asked.toNat → size = asked
  size_of_default : (∀ asked, p.pageSize = some asked → asked.toNat = 0) → size.toNat = max defaultSize.toNat 1

theorem toNat_first (n : UInt32) : (if n = 0 then 1 else n).toNat = max n.toNat 1 := by
  split
  · next h =>
    rw [h]
    rfl
  · next h =>
    have hpos : 0 < n.toNat := UInt32.lt_iff_toNat_lt.1 (UInt32.pos_iff_ne_zero.2 h)
    omega

theorem exists_window_eq_page {p : Pagination} (h : p.full = false) (defaultSize : UInt32) :
    ∃ current size hsize, p.window defaultSize = .page current size hsize ∧ p.Resolves defaultSize current size := by
  have hnumber := toNat_first (p.current.getD 1)
  unfold window
  rw [h]
  simp only [Bool.false_eq_true, if_false]
  split
  · next hasked =>
    have hpos : 0 < (p.pageSize.getD 0).toNat := UInt32.lt_iff_toNat_lt.1 hasked
    refine ⟨_, _, hasked, rfl, hnumber, fun asked hsize _ => ?_, fun hnone => ?_⟩
    · rw [hsize, Option.getD_some]
    · cases hsize : p.pageSize with
      | none => simp [hsize] at hpos
      | some asked =>
        have hzero := hnone asked hsize
        simp [hsize] at hpos
        omega
  · next hasked =>
    have hnone : ∀ asked, p.pageSize = some asked → 0 < asked.toNat → False := by
      intro asked hsize hpos
      rw [hsize] at hasked
      exact hasked (UInt32.lt_iff_toNat_lt.2 hpos)
    split
    · next hdefault =>
      have hpos : 0 < defaultSize.toNat := UInt32.lt_iff_toNat_lt.1 hdefault
      refine ⟨_, _, hdefault, rfl, hnumber, fun asked hsize hpos => (hnone asked hsize hpos).elim, fun _ => ?_⟩
      omega
    · next hdefault =>
      have hzero : ¬0 < defaultSize.toNat := fun hpos => hdefault (UInt32.lt_iff_toNat_lt.2 hpos)
      refine ⟨_, _, by decide, rfl, hnumber, fun asked hsize hpos => (hnone asked hsize hpos).elim, fun _ => ?_⟩
      change 1 = max defaultSize.toNat 1
      omega

end Pagination

namespace Window

variable {current size : UInt32} {hsize : 0 < size}

theorem skip_page : (page current size hsize).skip = (current.toNat - 1) * size.toNat := rfl

theorem skip_lt : (page current size hsize).skip < 2 ^ 64 := by
  have hcurrent := current.toNat_lt
  have hsize' := size.toNat_lt
  have hmul : (current.toNat - 1) * size.toNat < 2 ^ 32 * 2 ^ 32 :=
    Nat.mul_lt_mul'' (by omega) hsize'
  rw [skip_page]
  omega

theorem toNat_mul_eq_skip (hcurrent : 1 ≤ current.toNat) :
    ((current - 1).toUInt64 * size.toUInt64).toNat = (page current size hsize).skip := by
  have hone : (1 : UInt32) ≤ current := UInt32.le_iff_toNat_le.2 hcurrent
  have hbound : (page current size hsize).skip < 2 ^ 64 := skip_lt
  rw [skip_page] at hbound ⊢
  rw [UInt64.toNat_mul, UInt32.toNat_toUInt64, UInt32.toNat_toUInt64, UInt32.toNat_sub_of_le _ _ hone]
  exact Nat.mod_eq_of_lt hbound

end Window

/-! ### Pages -/

namespace Page

structure IsPlaced (page : Page) (current size : UInt32) (hsize : 0 < size) (total : Nat) : Prop where
  number : page.number = current.toNat
  perPage : page.perPage = size.toNat
  totalPages : ∃ count, IsLeast {k | total ≤ k * size.toNat} count ∧ page.totalPages = min count (2 ^ 32 - 1)
  hasNext : page.hasNext = true ↔
    ∃ next : UInt32, next.toNat = current.toNat + 1 ∧ (Window.page next size hsize).skip < total
  hasPrevious : page.hasPrevious = true ↔ 1 < current.toNat

structure IsWhole (page : Page) (total : Nat) : Prop where
  number : page.number = 1
  perPage : page.perPage = min total (2 ^ 32 - 1)
  totalPages : page.totalPages = if 0 < total then 1 else 0
  hasNext : page.hasNext = false
  hasPrevious : page.hasPrevious = false

variable {current size : UInt32} {hsize : 0 < size}

/-- No number follows the greatest one, and up to it the cut number of pages compares as the true one does. -/
theorem lt_min_cap_iff (total : Nat) : current.toNat < min (windowCount total size.toNat) numberCap ↔
    ∃ next : UInt32, next.toNat = current.toNat + 1 ∧ (Window.page next size hsize).skip < total := by
  have hpos : 0 < size.toNat := UInt32.lt_iff_toNat_lt.1 hsize
  have hcount := lt_windowCount_iff total hpos (k := current.toNat)
  rw [Nat.lt_min, hcount]
  constructor
  · rintro ⟨hskip, hcap⟩
    have htoNat : (UInt32.ofNat (current.toNat + 1)).toNat = current.toNat + 1 :=
      UInt32.toNat_ofNat_of_lt (Nat.succ_lt_succ hcap)
    refine ⟨UInt32.ofNat (current.toNat + 1), htoNat, ?_⟩
    rw [Window.skip_page, htoNat]
    exact hskip
  · rintro ⟨next, hnext, hskip⟩
    have hbound := next.toNat_lt
    rw [Window.skip_page, hnext, Nat.add_sub_cancel] at hskip
    refine ⟨hskip, ?_⟩
    unfold numberCap
    omega

theorem isPlaced_ofWindow (items : List Document) (total : Nat) :
    (ofWindow items total (.page current size hsize)).IsPlaced current size hsize total where
  number := rfl
  perPage := rfl
  totalPages := ⟨_, windowCount_isLeast total (UInt32.lt_iff_toNat_lt.1 hsize), rfl⟩
  hasNext := decide_eq_true_iff.trans (lt_min_cap_iff total)
  hasPrevious := decide_eq_true_iff

theorem isWhole_ofWindow (items : List Document) (total : Nat) : (ofWindow items total .all).IsWhole total where
  number := rfl
  perPage := rfl
  totalPages := by
    change (if total = 0 then 0 else 1) = if 0 < total then 1 else 0
    split <;> split <;> omega
  hasNext := rfl
  hasPrevious := rfl

end Page

/-- Whatever a request asks for, its window has a page number and a page size of at least one or is the whole listing,
its offset fits in 64 bits, and the page made of it says truly where it stands, however great the total. -/
theorem metadata_of_pagination (p : Pagination) (defaultSize : UInt32) (items : List Document) (total : Nat) :
    let window := p.window defaultSize
    let page := Page.ofWindow items total window
    page.items = items ∧ page.total = total ∧
      ((p.full = true ∧ window = .all ∧ window.skip = 0 ∧ page.IsWhole total) ∨
        (p.full = false ∧ ∃ current size hsize, window = .page current size hsize ∧
          p.Resolves defaultSize current size ∧ 1 ≤ current.toNat ∧ 1 ≤ size.toNat ∧
          window.skip = (current.toNat - 1) * size.toNat ∧ window.skip < 2 ^ 64 ∧
          ((current - 1).toUInt64 * size.toUInt64).toNat = window.skip ∧
          page.IsPlaced current size hsize total)) := by
  intro window page
  refine ⟨Page.items_ofWindow _ _ _, Page.total_ofWindow _ _ _, ?_⟩
  cases hfull : p.full with
  | true =>
    have hwindow : window = .all := Pagination.window_full hfull defaultSize
    have hpage : page = Page.ofWindow items total .all := congrArg (Page.ofWindow items total) hwindow
    refine Or.inl ⟨rfl, hwindow, ?_, ?_⟩
    · rw [hwindow]
      rfl
    · rw [hpage]
      exact Page.isWhole_ofWindow items total
  | false =>
    obtain ⟨current, size, hsize, hwindow, hresolves⟩ := Pagination.exists_window_eq_page hfull defaultSize
    have hcurrent : 1 ≤ current.toNat := by
      rw [hresolves.number]
      exact Nat.le_max_right _ _
    have hpage : page = Page.ofWindow items total (.page current size hsize) :=
      congrArg (Page.ofWindow items total) hwindow
    change window = _ at hwindow
    rw [hpage, hwindow]
    exact Or.inr ⟨rfl, current, size, hsize, rfl, hresolves, hcurrent, UInt32.lt_iff_toNat_lt.1 hsize,
      Window.skip_page, Window.skip_lt, Window.toNat_mul_eq_skip hcurrent, Page.isPlaced_ofWindow items total⟩

end Catalogue
