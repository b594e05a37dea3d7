import Catalogue.Binary64.Basic
import Mathlib.Algebra.Ring.Nat
import Mathlib.Order.Monotone.Basic
import Mathlib.Tactic.SplitIfs

/-!
Integers as doubles. The magnitudes of doubles ascend with the numbers they stand for, and the double that an integer
becomes stands for the nearest integer of fifty-three significant bits. So doubles of integers compare as these nearest
integers do. Integers below `2 ^ 53` are their own nearest ones; farther out neighbours may share theirs.
-/

set_option autoImplicit false

namespace Catalogue.Binary64

variable {a a' b c : Nat}

/-! ### Rounded quotients -/

theorem roundDiv_cases (a b : Nat) :
    (roundDiv a b = a / b ∧ 2 * (a % b) ≤ b) ∨ (roundDiv a b = a / b + 1 ∧ b ≤ 2 * (a % b)) := by
  unfold roundDiv
  dsimp only
  split
  · exact Or.inl ⟨rfl, by omega⟩
  · split
    · exact Or.inr ⟨rfl, by omega⟩
    · split
      · exact Or.inl ⟨rfl, by omega⟩
      · exact Or.inr ⟨rfl, by omega⟩

theorem roundDiv_mul_mul (a b : Nat) (hc : 0 < c) : roundDiv (a * c) (b * c) = roundDiv a b := by
  have hdouble : 2 * (a % b * c) = 2 * (a % b) * c := (Nat.mul_assoc ..).symm
  simp only [roundDiv, Nat.mul_div_mul_right _ _ hc, Nat.mul_mod_mul_right, hdouble, Nat.mul_lt_mul_right hc]

theorem roundDiv_mul_self (a : Nat) (hb : 0 < b) : roundDiv (a * b) b = a := by
  simp [roundDiv, Nat.mul_div_cancel _ hb, hb]

theorem roundDiv_mono (b : Nat) (h : a ≤ a') : roundDiv a b ≤ roundDiv a' b := by
  rcases Nat.lt_or_eq_of_le (Nat.div_le_div_right (c := b) h) with hlt | heq
  · rcases roundDiv_cases a b with ⟨ha, _⟩ | ⟨ha, _⟩ <;> rcases roundDiv_cases a' b with ⟨ha', _⟩ | ⟨ha', _⟩ <;> omega
  · -- of two numbers with one quotient the greater has the greater remainder
    have hmod : a % b ≤ a' % b := by
      have hdiv := Nat.div_add_mod a b
      have hdiv' := Nat.div_add_mod a' b
      rw [heq] at hdiv
      omega
    simp only [roundDiv, heq]
    split_ifs <;> omega

/-! ### What magnitudes stand for -/

/-- The number of least doubles that a magnitude stands for. -/
def level (m : Nat) : Nat :=
  (if m < fractionSize then m else m % fractionSize + fractionSize) * 2 ^ (m / fractionSize - 1)

theorem ratio_eq (x : Binary64) : x.ratio = (level x.magnitude, unitSize) := rfl

theorem level_of_lt {m : Nat} (h : m < fractionSize) : level m = m := by
  rw [level, if_pos h, Nat.div_eq_of_lt h, Nat.zero_sub, Nat.pow_zero, Nat.mul_one]

theorem level_add {e q : Nat} (hlow : fractionSize ≤ q) (hhigh : q ≤ 2 * fractionSize) :
    level (e * fractionSize + q) = q * 2 ^ e := by
  simp only [level, fractionSize] at *
  rw [if_neg (by omega)]
  rcases Nat.lt_or_eq_of_le hhigh with hlt | rfl
  · have hdiv : (e * 4503599627370496 + q) / 4503599627370496 = e + 1 := by omega
    have hmod : (e * 4503599627370496 + q) % 4503599627370496 + 4503599627370496 = q := by omega
    rw [hdiv, hmod, Nat.add_sub_cancel]
  · have hdiv : (e * 4503599627370496 + 2 * 4503599627370496) / 4503599627370496 - 1 = e + 1 := by omega
    have hmod : (e * 4503599627370496 + 2 * 4503599627370496) % 4503599627370496 = 0 := by omega
    rw [hdiv, hmod, Nat.pow_succ]
    omega

theorem exists_significand {m : Nat} (h : fractionSize ≤ m) :
    ∃ e q, fractionSize ≤ q ∧ q < 2 * fractionSize ∧ m = e * fractionSize + q := by
  refine ⟨m / fractionSize - 1, m % fractionSize + fractionSize, ?_⟩
  simp only [fractionSize] at *
  omega

theorem level_lt_succ (m : Nat) : level m < level (m + 1) := by
  rcases Nat.lt_or_ge m fractionSize with hlt | hge
  · rw [level_of_lt hlt]
    rcases Nat.lt_or_eq_of_le (show m + 1 ≤ fractionSize from hlt) with hsucc | hsucc
    · rw [level_of_lt hsucc]
      exact Nat.lt_succ_self m
    · have hfirst : level fractionSize = fractionSize := by decide
      rw [hsucc, hfirst]
      exact hlt
  · -- the step into the next scale is one more of the significand as well, which then carries
    obtain ⟨e, q, hlow, hhigh, rfl⟩ := exists_significand hge
    rw [Nat.add_assoc, level_add hlow hhigh.le, level_add (Nat.le_succ_of_le hlow) hhigh]
    exact Nat.mul_lt_mul_of_pos_right (Nat.lt_succ_self q) (Nat.two_pow_pos e)

theorem strictMono_level : StrictMono level := strictMono_nat_of_lt_succ level_lt_succ

theorem level_zero : level 0 = 0 := level_of_lt (by decide)

/-! ### The nearest integer -/

/-- The distance of an integer with fifty-three significant bits to the next one, near a number. -/
def spacing (n : Nat) : Nat := 2 ^ (n.log2 - 52)

/-- The nearest number of fifty-three significant bits, a tie to the even significand. -/
def nearestNat (n : Nat) : Nat := roundDiv n (spacing n) * spacing n

def nearest (n : Int) : Int := if n < 0 then -(nearestNat n.natAbs : Int) else nearestNat n.natAbs

def leading (n : Nat) : Nat := roundDiv (n * fractionSize) (2 ^ n.log2)

theorem two_mul_natAbs_nearestNat_sub_le (n : Nat) : 2 * ((nearestNat n : Int) - n).natAbs ≤ spacing n := by
  have hdiv := Nat.div_add_mod n (spacing n)
  have hlt := Nat.mod_lt n (show 0 < spacing n from Nat.two_pow_pos _)
  rw [Nat.mul_comm] at hdiv
  rw [nearestNat]
  rcases roundDiv_cases n (spacing n) with ⟨hround, hbelow⟩ | ⟨hround, habove⟩
  · rw [hround]
    omega
  · rw [hround, Nat.add_mul, Nat.one_mul]
    omega

theorem nearestNat_zero : nearestNat 0 = 0 := by
  simp [nearestNat, roundDiv]

theorem spacing_of_lt {n : Nat} (h : n < 2 ^ 53) : spacing n = 1 := by
  have hlog : n.log2 < 53 := by
    by_cases hzero : n = 0
    · simp [hzero]
    · exact (Nat.log2_lt hzero).2 h
  rw [spacing, Nat.sub_eq_zero_of_le (by omega), Nat.pow_zero]

theorem nearestNat_of_lt {n : Nat} (h : n < 2 ^ 53) : nearestNat n = n := by
  have hround := roundDiv_mul_self n Nat.one_pos
  rw [Nat.mul_one] at hround
  rw [nearestNat, spacing_of_lt h, Nat.mul_one, hround]

theorem nearestNat_mul_fractionSize (n : Nat) : nearestNat n * fractionSize = leading n * 2 ^ n.log2 := by
  have hfraction : fractionSize = 2 ^ 52 := rfl
  rw [nearestNat, spacing, leading, hfraction]
  rcases Nat.le_total 52 n.log2 with hle | hle
  · obtain ⟨s, hs⟩ := Nat.exists_eq_add_of_le' hle
    rw [hs, Nat.add_sub_cancel, Nat.pow_add, roundDiv_mul_mul _ _ (Nat.two_pow_pos 52), Nat.mul_assoc]
  · obtain ⟨s, hs⟩ := Nat.exists_eq_add_of_le' hle
    have hround := roundDiv_mul_self n Nat.one_pos
    rw [Nat.mul_one] at hround
    rw [Nat.sub_eq_zero_of_le hle, Nat.pow_zero, hround, Nat.mul_one, hs, Nat.pow_add, ← Nat.mul_assoc,
      roundDiv_mul_self _ (Nat.two_pow_pos _)]

theorem leading_le (n : Nat) : leading n ≤ 2 * fractionSize := by
  have hle : n * fractionSize ≤ 2 * fractionSize * 2 ^ n.log2 := by
    rw [Nat.mul_right_comm, ← Nat.pow_succ']
    exact Nat.mul_le_mul_right _ Nat.lt_log2_self.le
  have hmono := roundDiv_mono (2 ^ n.log2) hle
  rwa [roundDiv_mul_self _ (Nat.two_pow_pos _)] at hmono

theorem nearestNat_le_two_pow (n : Nat) : nearestNat n ≤ 2 ^ (n.log2 + 1) := by
  refine Nat.le_of_mul_le_mul_right ?_ (show 0 < fractionSize by decide)
  rw [nearestNat_mul_fractionSize, Nat.pow_succ', Nat.mul_right_comm]
  exact Nat.mul_le_mul_right _ (leading_le n)

section Bounds

variable {n : Nat} (hn : n ≠ 0)

include hn

theorem fractionSize_le_leading : fractionSize ≤ leading n := by
  have hle : fractionSize * 2 ^ n.log2 ≤ n * fractionSize := by
    rw [Nat.mul_comm]
    exact Nat.mul_le_mul_right _ (Nat.log2_self_le hn)
  have hmono := roundDiv_mono (2 ^ n.log2) hle
  rwa [roundDiv_mul_self _ (Nat.two_pow_pos _)] at hmono

theorem two_pow_log2_le_nearestNat : 2 ^ n.log2 ≤ nearestNat n := by
  refine Nat.le_of_mul_le_mul_right ?_ (show 0 < fractionSize by decide)
  rw [nearestNat_mul_fractionSize, Nat.mul_comm]
  exact Nat.mul_le_mul_right _ (fractionSize_le_leading hn)

theorem nearestNat_pos : 0 < nearestNat n :=
  Nat.lt_of_lt_of_le (Nat.two_pow_pos _) (two_pow_log2_le_nearestNat hn)

end Bounds

theorem nearestNat_mono : Monotone nearestNat := by
  intro m n hle
  by_cases hm : m = 0
  · rw [hm, nearestNat_zero]
    exact Nat.zero_le _
  have hn : n ≠ 0 := by omega
  have hlog : m.log2 ≤ n.log2 := (Nat.le_log2 hn).2 ((Nat.log2_self_le hm).trans hle)
  rcases Nat.lt_or_eq_of_le hlog with hlt | heq
  · exact (nearestNat_le_two_pow m).trans
      ((Nat.pow_le_pow_right (by decide) hlt).trans (two_pow_log2_le_nearestNat hn))
  · rw [nearestNat, nearestNat, spacing, spacing, heq]
    exact Nat.mul_le_mul_right _ (roundDiv_mono _ hle)

theorem two_mul_natAbs_nearest_sub_le (n : Int) : 2 * (nearest n - n).natAbs ≤ spacing n.natAbs := by
  have hle := two_mul_natAbs_nearestNat_sub_le n.natAbs
  rw [nearest]
  split <;> omega

theorem nearest_mono {m n : Int} (hle : m ≤ n) : nearest m ≤ nearest n := by
  unfold nearest
  split_ifs with hm hn hn
  · have hmono := nearestNat_mono (show n.natAbs ≤ m.natAbs by omega)
    omega
  · omega
  · omega
  · have hmono := nearestNat_mono (show m.natAbs ≤ n.natAbs by omega)
    omega

theorem nearest_of_natAbs_lt {n : Int} (h : n.natAbs < 2 ^ 53) : nearest n = n := by
  rw [nearest, nearestNat_of_lt h]
  split <;> omega

theorem natAbs_nearest (n : Int) : (nearest n).natAbs = nearestNat n.natAbs := by
  rw [nearest]
  split <;> omega

theorem eq_of_nearest_eq {m n : Int} (hn : n.natAbs < 2 ^ 53) (h : nearest m = nearest n) : m = n := by
  rw [nearest_of_natAbs_lt hn] at h
  by_cases hm : m.natAbs < 2 ^ 53
  · rwa [nearest_of_natAbs_lt hm] at h
  · have hpos : m.natAbs ≠ 0 := by omega
    have hlog : 53 ≤ m.natAbs.log2 := (Nat.le_log2 hpos).2 (by omega)
    have hpow := Nat.pow_le_pow_right (show 0 < 2 by decide) hlog
    have hnearest := two_pow_log2_le_nearestNat hpos
    rw [← natAbs_nearest, h] at hnearest
    omega

/-! ### The double of an integer -/

section OfNat

variable {n : Nat}

theorem two_pow_log2_add_mul_le (hn : n ≠ 0) {e u : Nat} (hu : u = 2 * fractionSize * Nat.pow 2 e) :
    Nat.pow 2 (n.log2 + e) * (2 * fractionSize) ≤ n * u := by
  rw [hu, Nat.pow_eq, Nat.pow_eq, Nat.pow_add, Nat.mul_assoc, Nat.mul_comm (2 ^ e)]
  exact Nat.mul_le_mul_right _ (Nat.log2_self_le hn)

theorem roundDiv_two_pow_log2_add (n : Nat) {e u : Nat} (hu : u = fractionSize * Nat.pow 2 e) :
    roundDiv (n * u) (Nat.pow 2 (n.log2 + e)) = leading n := by
  rw [hu, Nat.pow_eq, Nat.pow_eq, Nat.pow_add, ← Nat.mul_assoc, roundDiv_mul_mul _ _ (Nat.two_pow_pos e), leading]

theorem leading_mul_two_pow (n : Nat) {e u : Nat} (hu : u = fractionSize * Nat.pow 2 e) :
    leading n * 2 ^ (n.log2 + e) = nearestNat n * u := by
  rw [hu, Nat.pow_eq, Nat.pow_add, ← Nat.mul_assoc, ← nearestNat_mul_fractionSize, Nat.mul_assoc]

theorem unitSize_eq : unitSize = fractionSize * Nat.pow 2 1022 := by decide +kernel

theorem scaleOf_one (hn : n ≠ 0) : scaleOf n 1 = n.log2 + 1022 := by
  have hunit : unitSize = 2 * fractionSize * Nat.pow 2 1021 := by decide +kernel
  have hone : Nat.log2 1 = 0 := by decide
  have hle := two_pow_log2_add_mul_le hn hunit
  simp only [scaleOf, hone, Nat.sub_zero, Nat.mul_one, if_neg (Nat.not_lt.2 hle)]

theorem scaled_leading_lt (hn : n ≠ 0) (hlt : n < 2 ^ 64) :
    (n.log2 + 1022) * fractionSize + leading n < infinite := by
  have hlog : n.log2 < 64 := (Nat.log2_lt hn).2 hlt
  have hleading := leading_le n
  simp only [infinite, fractionSize] at *
  omega

theorem roundRatio_one (hn : n ≠ 0) (hlt : n < 2 ^ 64) :
    roundRatio n 1 = (n.log2 + 1022) * fractionSize + leading n := by
  rw [roundRatio, if_neg hn, scaleOf_one hn]
  dsimp only
  rw [Nat.mul_one, roundDiv_two_pow_log2_add n unitSize_eq, Nat.min_eq_right (scaled_leading_lt hn hlt).le]

theorem roundRatio_one_lt (hlt : n < 2 ^ 64) : roundRatio n 1 < infinite := by
  by_cases hn : n = 0
  · rw [hn]
    decide
  · rw [roundRatio_one hn hlt]
    exact scaled_leading_lt hn hlt

theorem level_roundRatio (hlt : n < 2 ^ 64) : level (roundRatio n 1) = nearestNat n * unitSize := by
  by_cases hn : n = 0
  · rw [hn, nearestNat_zero, Nat.zero_mul]
    exact level_zero
  · rw [roundRatio_one hn hlt, level_add (fractionSize_le_leading hn) (leading_le n),
      leading_mul_two_pow n unitSize_eq]

end OfNat

/-! ### Signs -/

theorem magnitude_ofMagnitude {m : Nat} (negative : Bool) (h : m < signSize) :
    (ofMagnitude negative m).magnitude = m := by
  unfold signSize at h
  cases negative <;> simp [ofMagnitude, magnitude, signSize] <;> omega

theorem isNegative_ofMagnitude {m : Nat} (negative : Bool) (h : m < signSize) :
    (ofMagnitude negative m).isNegative = negative := by
  unfold signSize at h
  cases negative <;> simp [ofMagnitude, isNegative, signSize] <;> omega

theorem eq_of_magnitude_eq {x y : Binary64} (hsign : x.isNegative = y.isNegative)
    (hmagnitude : x.magnitude = y.magnitude) : x = y := by
  have hx := x.bits.toNat_lt
  have hy := y.bits.toNat_lt
  have hbits : x.bits.toNat = y.bits.toNat := by
    rw [isNegative, isNegative, decide_eq_decide] at hsign
    simp only [magnitude, signSize] at *
    omega
  cases x
  cases y
  exact congrArg Binary64.mk (UInt64.toNat_inj.1 hbits)

theorem numericEq_iff {x y : Binary64} : x.numericEq y = true ↔
    x.isNaN = false ∧ y.isNaN = false ∧ (x = y ∨ x.magnitude = 0 ∧ y.magnitude = 0) := by
  have hbits : x.bits = y.bits ↔ x = y := by
    cases x
    cases y
    simp
  simp [numericEq, isZero, hbits, and_assoc]

theorem numericEq_self {x : Binary64} (h : x.isNaN = false) : x.numericEq x = true :=
  numericEq_iff.2 ⟨h, h, Or.inl rfl⟩

theorem numericEq_comm (x y : Binary64) : x.numericEq y = y.numericEq x := by
  rw [Bool.eq_iff_iff, numericEq_iff, numericEq_iff, eq_comm (a := x), and_comm (a := x.magnitude = 0)]
  exact and_left_comm

theorem unitSize_pos : 0 < unitSize := by decide +kernel

theorem toInt?_eq_some_iff {x : Binary64} {v : Int} : x.toInt? = some v ↔
    x.isFinite = true ∧ level x.magnitude = v.natAbs * unitSize ∧
      v = if x.isNegative then -(v.natAbs : Int) else v.natAbs := by
  simp only [toInt?, ratio_eq, Bool.and_eq_true, beq_iff_eq, Option.ite_none_right_eq_some, Option.some.injEq,
    and_assoc]
  refine and_congr_right fun _ => ?_
  constructor
  · rintro ⟨hmod, rfl⟩
    have hlevel := Nat.div_mul_cancel (Nat.dvd_of_mod_eq_zero hmod)
    generalize level x.magnitude / unitSize = q at hlevel ⊢
    have hnatAbs : (if x.isNegative then -(q : Int) else q).natAbs = q := by
      split <;> omega
    rw [hnatAbs]
    exact ⟨hlevel.symm, rfl⟩
  · rintro ⟨hlevel, hv⟩
    rw [hlevel, Nat.mul_mod_left, Nat.mul_div_cancel _ unitSize_pos]
    exact ⟨rfl, hv.symm⟩

theorem magnitude_eq_zero_iff {x : Binary64} {v : Int} (h : x.toInt? = some v) : x.magnitude = 0 ↔ v = 0 := by
  obtain ⟨_, hlevel, _⟩ := toInt?_eq_some_iff.1 h
  rw [← strictMono_level.injective.eq_iff, level_zero, hlevel, Nat.mul_eq_zero, Int.natAbs_eq_zero]
  exact or_iff_left unitSize_pos.ne'

theorem isNegative_eq {x : Binary64} {v : Int} (h : x.toInt? = some v) (hv : v ≠ 0) :
    x.isNegative = decide (v < 0) := by
  obtain ⟨_, _, hsign⟩ := toInt?_eq_some_iff.1 h
  cases hnegative : x.isNegative with
  | true =>
    rw [hnegative, if_pos rfl] at hsign
    exact (decide_eq_true (by omega)).symm
  | false =>
    rw [hnegative, if_neg Bool.false_ne_true] at hsign
    exact (decide_eq_false (by omega)).symm

theorem isNaN_of_isFinite {x : Binary64} (h : x.isFinite = true) : x.isNaN = false := by
  rw [isFinite, decide_eq_true_eq] at h
  exact decide_eq_false (Nat.not_lt.2 h.le)

theorem numericEq_iff_toInt?_eq {x y : Binary64} {v : Int} (hy : y.toInt? = some v) :
    x.numericEq y = true ↔ x.toInt? = some v := by
  obtain ⟨hfinite, hlevel, _⟩ := toInt?_eq_some_iff.1 hy
  rw [numericEq_iff]
  constructor
  · rintro ⟨_, _, rfl | ⟨hx, hzero⟩⟩
    · exact hy
    · obtain rfl : v = 0 := (magnitude_eq_zero_iff hy).1 hzero
      rw [toInt?_eq_some_iff, isFinite, hx]
      exact ⟨rfl, by rw [level_zero, Int.natAbs_zero, Nat.zero_mul], by simp⟩
  · intro hx
    obtain ⟨hfinite', hlevel', _⟩ := toInt?_eq_some_iff.1 hx
    have hmagnitude : x.magnitude = y.magnitude := strictMono_level.injective (hlevel'.trans hlevel.symm)
    refine ⟨isNaN_of_isFinite hfinite', isNaN_of_isFinite hfinite, ?_⟩
    by_cases hzero : v = 0
    · exact Or.inr ⟨(magnitude_eq_zero_iff hx).2 hzero, (magnitude_eq_zero_iff hy).2 hzero⟩
    · have hsign : x.isNegative = y.isNegative := (isNegative_eq hx hzero).trans (isNegative_eq hy hzero).symm
      exact Or.inl (eq_of_magnitude_eq hsign hmagnitude)

/-! ### Doubles of integers compared -/

section OfInt

theorem roundRatio_le (num den : Nat) : roundRatio num den ≤ infinite := by
  unfold roundRatio
  split
  · exact Nat.zero_le _
  · exact Nat.min_le_left _ _

theorem roundRatio_lt_signSize (num den : Nat) : roundRatio num den < signSize :=
  Nat.lt_of_le_of_lt (roundRatio_le num den) (by decide)

theorem magnitude_ofInt (n : Int) : (ofInt n).magnitude = roundRatio n.natAbs 1 :=
  magnitude_ofMagnitude _ (roundRatio_lt_signSize _ _)

theorem isNegative_ofInt (n : Int) : (ofInt n).isNegative = decide (n < 0) :=
  isNegative_ofMagnitude _ (roundRatio_lt_signSize _ _)

theorem isNaN_ofInt (n : Int) : (ofInt n).isNaN = false := by
  rw [isNaN, magnitude_ofInt, decide_eq_false_iff_not]
  exact Nat.not_lt.2 (roundRatio_le _ _)

variable {m n : Int}

theorem isFinite_ofInt (hn : n.natAbs < 2 ^ 64) : (ofInt n).isFinite = true := by
  rw [isFinite, magnitude_ofInt, decide_eq_true_eq]
  exact roundRatio_one_lt hn

theorem toInt?_ofInt (hn : n.natAbs < 2 ^ 64) : (ofInt n).toInt? = some (nearest n) := by
  rw [toInt?_eq_some_iff, magnitude_ofInt, isNegative_ofInt, natAbs_nearest]
  refine ⟨isFinite_ofInt hn, level_roundRatio hn, ?_⟩
  simp only [nearest, decide_eq_true_eq]

theorem roundRatio_lt_iff {a b : Nat} (ha : a < 2 ^ 64) (hb : b < 2 ^ 64) :
    roundRatio a 1 < roundRatio b 1 ↔ nearestNat a < nearestNat b := by
  rw [← strictMono_level.lt_iff_lt, level_roundRatio ha, level_roundRatio hb, Nat.mul_lt_mul_right unitSize_pos]

theorem rank_ofInt (n : Int) :
    (ofInt n).rank = if n < 0 then -(roundRatio n.natAbs 1 : Int) - 1 else roundRatio n.natAbs 1 := by
  simp only [rank, isNegative_ofInt, magnitude_ofInt, decide_eq_true_eq]

theorem rank_ofInt_lt_iff (hm : m.natAbs < 2 ^ 64) (hn : n.natAbs < 2 ^ 64) :
    (ofInt m).rank < (ofInt n).rank ↔ nearest m < nearest n := by
  have hlt := roundRatio_lt_iff hm hn
  have hgt := roundRatio_lt_iff hn hm
  rw [rank_ofInt, rank_ofInt, nearest, nearest]
  split_ifs with hneg hneg'
  · omega
  · have hpos := nearestNat_pos (n := m.natAbs) (by omega)
    omega
  · omega
  · omega

theorem compare_rank_ofInt (hm : m.natAbs < 2 ^ 64) (hn : n.natAbs < 2 ^ 64) :
    compare (ofInt m).rank (ofInt n).rank = compare (nearest m) (nearest n) := by
  have hlt := rank_ofInt_lt_iff hm hn
  have hgt := rank_ofInt_lt_iff hn hm
  have heq : (ofInt m).rank = (ofInt n).rank ↔ nearest m = nearest n := by omega
  simp only [compare, compareOfLessAndEq, hlt, heq]

end OfInt

end Catalogue.Binary64
