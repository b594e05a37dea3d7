import Catalogue.Proofs.Time.Calendar
import Catalogue.Proofs.Time.Numerals

set_option autoImplicit false

namespace Catalogue

open Digits (IsNumeral)

namespace Bound

variable {cs ds f o rest : List Char} {n : Nat} {s : Int} {t : Instant}

/-! ### The form -/

/-- The nanoseconds of a fraction. Digits after the ninth do not count. -/
def nanosOf (ds : List Char) : Nat := Digits.value (ds.take 9) * 10 ^ (9 - (ds.take 9).length)

inductive IsFraction : List Char → Nat → Prop
  | none : IsFraction [] 0
  | some {ds : List Char} (h : IsNumeral 1 ds.length ds) : IsFraction ('.' :: ds) (nanosOf ds)

/-- Universal time, or the hours and minutes by which the clock is ahead of it or behind. -/
inductive IsOffset : List Char → Int → Prop
  | universal {c : Char} (hc : c = 'Z' ∨ c = 'z') : IsOffset [c] 0
  | ahead {hours minutes : List Char} (hh : IsNumeral 2 2 hours) (hm : IsNumeral 2 2 minutes)
      (hlt : Digits.value hours < 24 ∧ Digits.value minutes < 60) :
      IsOffset ('+' :: (hours ++ ':' :: minutes)) (Digits.value hours * 3600 + Digits.value minutes * 60 : Nat)
  | behind {c : Char} {hours minutes : List Char} (hc : c = '-' ∨ c = '−') (hh : IsNumeral 2 2 hours)
      (hm : IsNumeral 2 2 minutes) (hlt : Digits.value hours < 24 ∧ Digits.value minutes < 60) :
      IsOffset (c :: (hours ++ ':' :: minutes)) (-(Digits.value hours * 3600 + Digits.value minutes * 60 : Nat))

/-- Year, month and day with dashes between them, hour, minute and second with colons, then a fraction and an offset.
The second 60 is the leap second after the second 59. -/
def IsDateTime (cs : List Char) (t : Instant) : Prop :=
  ∃ y mo d sep h mi sec f nanos o offset,
    cs = y ++ '-' :: (mo ++ '-' :: (d ++ sep :: (h ++ ':' :: (mi ++ ':' :: (sec ++ (f ++ o)))))) ∧
    (IsNumeral 4 4 y ∧ IsNumeral 2 2 mo ∧ IsNumeral 2 2 d) ∧ (sep = 'T' ∨ sep = 't' ∨ sep = ' ') ∧
    (IsNumeral 2 2 h ∧ IsNumeral 2 2 mi ∧ IsNumeral 2 2 sec) ∧ IsFraction f nanos ∧ IsOffset o offset ∧
    Day.Valid ⟨Digits.value y, Digits.value mo, Digits.value d⟩ ∧
    (Digits.value h < 24 ∧ Digits.value mi < 60 ∧ Digits.value sec ≤ 60) ∧
    t.seconds = Day.number ⟨Digits.value y, Digits.value mo, Digits.value d⟩ * 86400 + Digits.value h * 3600 +
      Digits.value mi * 60 + min (Digits.value sec) 59 - offset ∧
    t.nanos = nanos + if Digits.value sec = 60 then 1000000000 else 0

/-! ### Reading -/

theorem IsOffset.head (h : IsOffset o s) : ∀ c ∈ o.head?, c ≠ '.' ∧ c.isDigit = false := by
  cases h with
  | universal hc => rcases hc with rfl | rfl <;> (rintro _ ⟨⟩; decide)
  | ahead => rintro _ ⟨⟩; decide
  | behind hc => rcases hc with rfl | rfl <;> (rintro _ ⟨⟩; decide)

theorem fraction?_append (hf : IsFraction f n) (hrest : ∀ c ∈ rest.head?, c ≠ '.' ∧ c.isDigit = false) :
    fraction? (f ++ rest) = some (n, rest) := by
  cases hf with
  | none =>
    cases rest with
    | nil => rfl
    | cons c rest =>
      unfold fraction?
      split
      · next heq => exact absurd (List.cons.inj heq).1 (hrest c rfl).1
      · rfl
  | @some ds hds =>
    have htake : (ds ++ rest).takeWhile Char.isDigit = ds := by
      rw [List.takeWhile_append_of_pos hds.1]
      cases rest with
      | nil => exact List.append_nil ds
      | cons c rest => rw [List.takeWhile_cons_of_neg (by simp [(hrest c rfl).2]), List.append_nil]
    have hne : ds.isEmpty = false := by
      cases ds with
      | nil => exact absurd hds.2.1 (by decide)
      | cons c ds => rfl
    simp only [List.cons_append, fraction?, htake, hne, Bool.false_eq_true, if_false, List.drop_left]
    rfl

theorem isFraction_of_fraction? (h : fraction? cs = some (n, rest)) : ∃ f, cs = f ++ rest ∧ IsFraction f n := by
  unfold fraction? at h
  split at h
  · next cs =>
    dsimp only at h
    split at h
    · cases h
    · next hne =>
      cases h
      refine ⟨'.' :: cs.takeWhile Char.isDigit, ?_, .some ⟨fun _ hc => List.mem_takeWhile_imp hc, ?_, le_rfl⟩⟩
      · rw [List.cons_append, List.prefix_iff_eq_append.1 (List.takeWhile_prefix _)]
      · exact List.length_pos_iff.2 fun hnil => hne (by rw [hnil]; rfl)
  · cases h
    exact ⟨[], rfl, .none⟩

theorem offset?_of_isOffset (h : IsOffset o s) : offset? o = some (s, []) := by
  cases h with
  | universal hc => rcases hc with rfl | rfl <;> rfl
  | @ahead hours minutes hh hm hlt =>
    simp [offset?, number?_append hh (Or.inl (le_antisymm hh.2.2 hh.2.1)), number?_self hm, char?, hlt]
  | @behind c hours minutes hc hh hm hlt =>
    rcases hc with rfl | rfl <;>
      simp [offset?, number?_append hh (Or.inl (le_antisymm hh.2.2 hh.2.1)), number?_self hm, char?, hlt]

theorem isOffset_of_offset? (h : offset? cs = some (s, [])) : IsOffset cs s := by
  unfold offset? at h
  split at h
  · cases h
    exact .universal (Or.inl rfl)
  · cases h
    exact .universal (Or.inr rfl)
  · next c rest _ _ =>
    split at h
    · next hc =>
      obtain ⟨⟨hours, cs₁⟩, hhours, h⟩ := Option.bind_eq_some_iff.1 h
      obtain ⟨cs₂, hcolon, h⟩ := Option.bind_eq_some_iff.1 h
      obtain ⟨⟨minutes, cs₃⟩, hminutes, h⟩ := Option.bind_eq_some_iff.1 h
      dsimp only at hhours hcolon hminutes h
      split at h
      · next hlt =>
        cases h
        obtain ⟨hh, rfl, hhnum, rfl⟩ := exists_numeral hhours
        obtain rfl := char?_eq_some_iff.1 hcolon
        obtain ⟨hm, rfl, hmnum, rfl⟩ := exists_numeral hminutes
        rw [List.append_nil]
        rcases hc with rfl | hc
        · exact .ahead hhnum hmnum hlt
        · have hne : c ≠ '+' := by rcases hc with rfl | rfl <;> decide
          rw [if_neg hne]
          exact .behind hc hhnum hmnum hlt
      · cases h
    · cases h
  · cases h

theorem separator?_eq_some_iff :
    separator? cs = some rest ↔ ∃ sep, cs = sep :: rest ∧ (sep = 'T' ∨ sep = 't' ∨ sep = ' ') := by
  cases cs with
  | nil => simp [separator?]
  | cons c cs =>
    simp only [separator?]
    split
    · next hc => simp [hc]
    · next hc =>
      constructor
      · nofun
      · rintro ⟨_, ⟨rfl, rfl⟩, hsep⟩
        exact absurd hsep hc

theorem isDateTime_of_dateTime? (h : dateTime? cs = some t) : IsDateTime cs t := by
  obtain ⟨⟨year, cs₁⟩, hyear, h⟩ := Option.bind_eq_some_iff.1 h
  obtain ⟨cs₂, hdash, h⟩ := Option.bind_eq_some_iff.1 h
  obtain ⟨⟨month, cs₃⟩, hmonth, h⟩ := Option.bind_eq_some_iff.1 h
  obtain ⟨cs₄, hdash', h⟩ := Option.bind_eq_some_iff.1 h
  obtain ⟨⟨day, cs₅⟩, hday, h⟩ := Option.bind_eq_some_iff.1 h
  obtain ⟨cs₆, hseparator, h⟩ := Option.bind_eq_some_iff.1 h
  obtain ⟨⟨hour, cs₇⟩, hhour, h⟩ := Option.bind_eq_some_iff.1 h
  obtain ⟨cs₈, hcolon, h⟩ := Option.bind_eq_some_iff.1 h
  obtain ⟨⟨minute, cs₉⟩, hminute, h⟩ := Option.bind_eq_some_iff.1 h
  obtain ⟨cs₁₀, hcolon', h⟩ := Option.bind_eq_some_iff.1 h
  obtain ⟨⟨second, cs₁₁⟩, hsecond, h⟩ := Option.bind_eq_some_iff.1 h
  obtain ⟨⟨nanos, cs₁₂⟩, hnanos, h⟩ := Option.bind_eq_some_iff.1 h
  obtain ⟨⟨offset, cs₁₃⟩, hoffset, h⟩ := Option.bind_eq_some_iff.1 h
  dsimp only at hyear hdash hmonth hdash' hday hseparator hhour hcolon hminute hcolon' hsecond hnanos hoffset h
  split at h
  · next hvalid =>
    have ht := Option.some.inj h
    obtain ⟨rfl, hdate, hclock⟩ := hvalid
    obtain ⟨y, rfl, hy, rfl⟩ := exists_numeral hyear
    obtain rfl := char?_eq_some_iff.1 hdash
    obtain ⟨mo, rfl, hmo, rfl⟩ := exists_numeral hmonth
    obtain rfl := char?_eq_some_iff.1 hdash'
    obtain ⟨d, rfl, hd, rfl⟩ := exists_numeral hday
    obtain ⟨sep, rfl, hsep⟩ := separator?_eq_some_iff.1 hseparator
    obtain ⟨hr, rfl, hhr, rfl⟩ := exists_numeral hhour
    obtain rfl := char?_eq_some_iff.1 hcolon
    obtain ⟨mi, rfl, hmi, rfl⟩ := exists_numeral hminute
    obtain rfl := char?_eq_some_iff.1 hcolon'
    obtain ⟨sec, rfl, hsec, rfl⟩ := exists_numeral hsecond
    obtain ⟨f, rfl, hf⟩ := isFraction_of_fraction? hnanos
    refine ⟨y, mo, d, sep, hr, mi, sec, f, nanos, cs₁₂, offset, rfl, ⟨hy, hmo, hd⟩, hsep, ⟨hhr, hmi, hsec⟩, hf,
      isOffset_of_offset? hoffset, hdate, hclock, ?_, ?_⟩
    · rw [← ht]
      dsimp only
      omega
    · rw [← ht]
      dsimp only
      split <;> omega
  · cases h

theorem dateTime?_of_isDateTime (h : IsDateTime cs t) : dateTime? cs = some t := by
  obtain ⟨y, mo, d, sep, hr, mi, sec, f, nanos, o, offset, rfl, ⟨hy, hmo, hd⟩, hsep, ⟨hhr, hmi, hsec⟩, hf, ho, hdate,
    hclock, hseconds, hnanos⟩ := h
  have hread {w : Nat} {ds : List Char} (hds : IsNumeral w w ds) (rest : List Char) :
      number? w w (ds ++ rest) = some (Digits.value ds, rest) :=
    number?_append hds (Or.inl (le_antisymm hds.2.2 hds.2.1))
  have hchar (c : Char) (rest : List Char) : char? c (c :: rest) = some rest := char?_eq_some_iff.2 rfl
  have hseparator (rest : List Char) : separator? (sep :: rest) = some rest :=
    separator?_eq_some_iff.2 ⟨sep, rfl, hsep⟩
  refine Option.bind_eq_some_iff.2 ⟨_, hread hy _, Option.bind_eq_some_iff.2 ⟨_, hchar _ _, ?_⟩⟩
  refine Option.bind_eq_some_iff.2 ⟨_, hread hmo _, Option.bind_eq_some_iff.2 ⟨_, hchar _ _, ?_⟩⟩
  refine Option.bind_eq_some_iff.2 ⟨_, hread hd _, Option.bind_eq_some_iff.2 ⟨_, hseparator _, ?_⟩⟩
  refine Option.bind_eq_some_iff.2 ⟨_, hread hhr _, Option.bind_eq_some_iff.2 ⟨_, hchar _ _, ?_⟩⟩
  refine Option.bind_eq_some_iff.2 ⟨_, hread hmi _, Option.bind_eq_some_iff.2 ⟨_, hchar _ _, ?_⟩⟩
  refine Option.bind_eq_some_iff.2 ⟨_, hread hsec _, ?_⟩
  refine Option.bind_eq_some_iff.2 ⟨_, fraction?_append hf ho.head, ?_⟩
  refine Option.bind_eq_some_iff.2 ⟨_, offset?_of_isOffset ho, ?_⟩
  refine (if_pos ⟨rfl, hdate, hclock⟩).trans ?_
  obtain ⟨seconds, n⟩ := t
  dsimp only at hseconds hnanos
  rw [hseconds, hnanos]
  refine congrArg some (congrArg₂ Instant.mk ?_ ?_)
  · omega
  · split <;> omega

theorem dateTime?_eq_some_iff : dateTime? cs = some t ↔ IsDateTime cs t :=
  ⟨isDateTime_of_dateTime?, dateTime?_of_isDateTime⟩

theorem IsDateTime.colon_mem (h : IsDateTime cs t) : ':' ∈ cs := by
  obtain ⟨y, mo, d, sep, hr, mi, sec, f, nanos, o, offset, rfl, -⟩ := h
  simp

/-! ### What is read -/

theorem nanosOf_lt (h : ∀ c ∈ ds, c.isDigit = true) : nanosOf ds < 10 ^ 9 := by
  have hlength : (ds.take 9).length ≤ 9 := List.length_take_le 9 ds
  have hdigits : Digits.value (ds.take 9) < 10 ^ (ds.take 9).length :=
    Digits.value_lt fun c hc => h c (List.mem_of_mem_take hc)
  calc nanosOf ds
    _ < 10 ^ (ds.take 9).length * 10 ^ (9 - (ds.take 9).length) :=
      Nat.mul_lt_mul_of_pos_right hdigits (Nat.pow_pos (by decide))
    _ = 10 ^ 9 := by rw [← Nat.pow_add, Nat.add_sub_cancel' hlength]

theorem IsFraction.lt (h : IsFraction f n) : n < 10 ^ 9 := by
  cases h with
  | none => decide
  | some hds => exact nanosOf_lt hds.1

theorem IsOffset.bounds (h : IsOffset o s) : -86400 < s ∧ s < 86400 ∧ s % 60 = 0 := by
  cases h with
  | universal => decide
  | ahead hh hm hlt => omega
  | behind hc hh hm hlt => omega

end Bound

namespace Instant

/-- Less than two seconds behind the whole second, and less than one unless the minute ends with it. -/
def IsProper (t : Instant) : Prop := t.nanos < 2 * 10 ^ 9 ∧ (10 ^ 9 ≤ t.nanos → t.seconds % 60 = 59)

theorem isProper_midnight (d : Day) : (midnight d).IsProper :=
  ⟨Nat.mul_pos (by decide) (Nat.pow_pos (by decide)), nofun⟩

end Instant

theorem Bound.IsDateTime.isProper {cs : List Char} {t : Instant} (h : IsDateTime cs t) : t.IsProper := by
  obtain ⟨y, mo, d, sep, hr, mi, sec, f, nanos, o, offset, -, -, -, -, hf, ho, -, hclock, hseconds, hnanos⟩ := h
  have hlt := hf.lt
  have hoffset := ho.bounds
  constructor
  · rw [hnanos]
    split <;> omega
  · rw [hnanos, hseconds]
    split <;> omega

/-! ### What is written -/

namespace Instant

open Catalogue.Bound (IsDateTime IsFraction nanosOf)

variable {t : Instant} {n width : Nat}

theorem nanosOf_padded (hwidth : 0 < width) (hle : width ≤ 9) (h : n < 10 ^ width) :
    nanosOf (padded width n) = n * 10 ^ (9 - width) := by
  obtain ⟨-, hleast, hmost⟩ := isNumeral_padded hwidth h
  rw [nanosOf, List.take_of_length_le (hmost.trans hle), value_padded, le_antisymm hmost hleast]

theorem isFraction_fractionText (h : n < 10 ^ 9) : IsFraction (fractionText n) n := by
  have hpoint {width k : Nat} (hwidth : 0 < width) (hle : width ≤ 9) (hk : k < 10 ^ width)
      (heq : k * 10 ^ (9 - width) = n) : IsFraction ('.' :: padded width k) n := by
    obtain ⟨hdigits, hleast, -⟩ := isNumeral_padded hwidth hk
    rw [← heq, ← nanosOf_padded hwidth hle hk]
    exact .some ⟨hdigits, hwidth.trans_le hleast, le_rfl⟩
  unfold fractionText
  split
  · next hzero => exact hzero ▸ .none
  · split
    · exact hpoint (by decide) (by decide) (by omega) (by omega)
    · split
      · exact hpoint (by decide) (by decide) (by omega) (by omega)
      · exact hpoint (by decide) (by decide) h (Nat.mul_one n)

theorem isNumeral_twoDigits (h : n < 100) : IsNumeral 2 2 (twoDigits n) :=
  twoDigits_eq_padded h ▸ isNumeral_padded (by decide) h

theorem value_twoDigits (h : n < 100) : Digits.value (twoDigits n) = n :=
  (congrArg Digits.value (twoDigits_eq_padded h)).trans (value_padded 2 n)

def writtenSecond (t : Instant) : Nat := t.secondOfDay % 60 + if 1000000000 ≤ t.nanos then 1 else 0

theorem isDateTime_text (h : t.IsProper) (h0 : 0 ≤ t.day.year) (h1 : t.day.year ≤ 9999) : IsDateTime t.text t := by
  obtain ⟨hlt, hleap⟩ := h
  have hvalid : t.day.Valid := Day.valid_ofNumber (t.seconds / 86400)
  have hnumber : t.day.number = t.seconds / 86400 := Day.number_ofNumber (t.seconds / 86400)
  have hmonth : t.day.month < 100 := hvalid.2.1.trans_lt (by decide)
  have hday : t.day.day < 100 := by
    refine hvalid.2.2.2.trans_lt ?_
    unfold Day.monthLength
    split_ifs <;> decide
  have hyear : t.day.year.toNat < 10 ^ 4 := by omega
  have hsecond : (t.secondOfDay : Int) = t.seconds % 86400 := Int.toNat_of_nonneg (Int.emod_nonneg _ (by decide))
  have hwritten : t.writtenSecond ≤ 60 ∧ min t.writtenSecond 59 = t.secondOfDay % 60 ∧
      (t.writtenSecond = 60 ↔ 1000000000 ≤ t.nanos) := by
    unfold writtenSecond
    split <;> omega
  have hvalue : (⟨Digits.value (padded 4 t.day.year.toNat), Digits.value (twoDigits t.day.month),
      Digits.value (twoDigits t.day.day)⟩ : Day) = t.day := by
    rw [value_padded, value_twoDigits hmonth, value_twoDigits hday, Int.toNat_of_nonneg h0]
  have hhour : t.secondOfDay / 3600 < 24 := by omega
  have hminute : t.secondOfDay / 60 % 60 < 60 := Nat.mod_lt _ (by decide)
  refine ⟨padded 4 t.day.year.toNat, twoDigits t.day.month, twoDigits t.day.day, 'T', twoDigits (t.secondOfDay / 3600),
    twoDigits (t.secondOfDay / 60 % 60), twoDigits t.writtenSecond, _, _, ['Z'], 0, ?_,
    ⟨isNumeral_padded (by decide) hyear, isNumeral_twoDigits hmonth, isNumeral_twoDigits hday⟩, Or.inl rfl,
    ⟨isNumeral_twoDigits (by omega), isNumeral_twoDigits (by omega), isNumeral_twoDigits (by omega)⟩,
    isFraction_fractionText (n := t.nanos - (if 1000000000 ≤ t.nanos then 1 else 0) * 1000000000) ?_,
    .universal (Or.inl rfl), ?_, ?_, ?_, ?_⟩
  · simp only [text, yearText, if_pos (And.intro h0 h1), writtenSecond, List.append_assoc, List.cons_append]
  · split <;> omega
  · rwa [hvalue]
  · rw [value_twoDigits (by omega), value_twoDigits (by omega), value_twoDigits (by omega)]
    exact ⟨hhour, hminute, hwritten.1⟩
  · rw [hvalue, hnumber, value_twoDigits (by omega), value_twoDigits (by omega), value_twoDigits (by omega)]
    omega
  · rw [value_twoDigits (by omega), if_congr hwritten.2.2 rfl rfl]
    split <;> omega

end Instant

end Catalogue
