import Catalogue.Time.Bound
import Mathlib.Algebra.Ring.Nat
import Mathlib.Data.List.Induction
import Mathlib.Data.List.TakeWhile

set_option autoImplicit false

namespace Catalogue

/-! ### Digits -/

namespace Digits

variable {ds : List Char}

theorem value_lt (h : ∀ c ∈ ds, c.isDigit = true) : value ds < 10 ^ ds.length := by
  induction ds using List.reverseRecOn with
  | nil => simp [value_nil]
  | append_singleton ds c ih =>
    have hds := ih fun x hx => h x (List.mem_append_left _ hx)
    have hc : c.toNat - '0'.toNat ≤ 9 := by
      have hdigit := h c (List.mem_append_right _ (List.mem_singleton_self c))
      simp only [Char.isDigit, Bool.and_eq_true, decide_eq_true_eq, UInt32.le_iff_toNat_le] at hdigit
      exact Nat.sub_le_of_le_add hdigit.2
    rw [value_append_singleton, List.length_append, List.length_singleton, Nat.pow_succ]
    omega

theorem value_toDigits (n : Nat) : value (Nat.toDigits 10 n) = n := by
  calc value (Nat.toDigits 10 n)
    _ = Nat.ofDigitChars 10 (Nat.toDigits 10 n) 0 := by simp only [value, Nat.ofDigitChars, Nat.mul_comm]
    _ = n := Nat.ofDigitChars_ten_toDigits

theorem value_zeros (k : Nat) (ds : List Char) : value (List.replicate k '0' ++ ds) = value ds := by
  induction k with
  | zero => rfl
  | succ k ih => exact ih

def IsNumeral (least most : Nat) (ds : List Char) : Prop :=
  (∀ c ∈ ds, c.isDigit = true) ∧ least ≤ ds.length ∧ ds.length ≤ most

theorem IsNumeral.mono {least most l u : Nat} (h : IsNumeral least most ds) (hl : l ≤ least) (hu : most ≤ u) :
    IsNumeral l u ds :=
  ⟨h.1, hl.trans h.2.1, h.2.2.trans hu⟩

end Digits

open Digits (IsNumeral)

namespace Instant

theorem isNumeral_padded {width n : Nat} (hwidth : 0 < width) (h : n < 10 ^ width) :
    IsNumeral width width (padded width n) := by
  have hlength : (Nat.toDigits 10 n).length ≤ width := (Nat.length_toDigits_le_iff (by decide) hwidth).2 h
  refine ⟨fun c hc => ?_, ?_, ?_⟩
  · rcases List.mem_append.1 hc with hzero | hdigit
    · rw [List.eq_of_mem_replicate hzero]
      rfl
    · exact Nat.isDigit_of_mem_toDigits (by decide) (by decide) hdigit
  · simp only [padded, List.length_append, List.length_replicate]
    omega
  · simp only [padded, List.length_append, List.length_replicate]
    omega

theorem value_padded (width n : Nat) : Digits.value (padded width n) = n :=
  (Digits.value_zeros _ _).trans (Digits.value_toDigits n)

theorem twoDigits_eq_padded {n : Nat} (h : n < 100) : twoDigits n = padded 2 n := by
  revert n
  decide

end Instant

/-! ### Reading -/

namespace Bound

variable {least most n : Nat} {c : Char} {cs ds rest : List Char}

theorem exists_numeral (h : number? least most cs = some (n, rest)) :
    ∃ ds, cs = ds ++ rest ∧ IsNumeral least most ds ∧ n = Digits.value ds := by
  unfold number? at h
  dsimp only at h
  split at h
  · next hleast =>
    cases h
    have hprefix : (cs.take most).takeWhile Char.isDigit <+: cs :=
      (List.takeWhile_prefix _).trans (List.take_prefix _ _)
    have hlength : ((cs.take most).takeWhile Char.isDigit).length ≤ most :=
      (List.takeWhile_sublist _).length_le.trans (List.length_take_le _ _)
    exact ⟨_, (List.prefix_iff_eq_append.1 hprefix).symm, ⟨fun _ hc => List.mem_takeWhile_imp hc, hleast, hlength⟩, rfl⟩
  · cases h

/-- A numeral is read up to its end if it can have no more digits, or if there are no more. -/
theorem number?_append (h : IsNumeral least most ds)
    (hend : ds.length = most ∨ ∀ c ∈ rest.head?, c.isDigit = false) :
    number? least most (ds ++ rest) = some (Digits.value ds, rest) := by
  obtain ⟨hdigits, hleast, hmost⟩ := h
  have hrest : (rest.take (most - ds.length)).takeWhile Char.isDigit = [] := by
    rcases hend with rfl | hend
    · simp
    · cases rest with
      | nil => simp
      | cons c rest =>
        cases most - ds.length with
        | zero => rfl
        | succ k => exact List.takeWhile_cons_of_neg (by simp [hend c rfl])
  have htake : ((ds ++ rest).take most).takeWhile Char.isDigit = ds := by
    rw [List.take_append, List.take_of_length_le hmost, List.takeWhile_append_of_pos hdigits, hrest, List.append_nil]
  simp only [number?, htake, if_pos hleast, List.drop_left]

theorem number?_self (h : IsNumeral least most ds) : number? least most ds = some (Digits.value ds, []) := by
  have hread : number? least most (ds ++ []) = some (Digits.value ds, []) := number?_append h (Or.inr nofun)
  rwa [List.append_nil] at hread

theorem char?_eq_some_iff : char? c cs = some rest ↔ cs = c :: rest := by
  cases cs with
  | nil => simp [char?]
  | cons d cs => simp [char?, eq_comm]

end Bound

end Catalogue
