import Catalogue.Filter.Decode
import Catalogue.Proofs.Steps
import Catalogue.Proofs.Time.PlainDate

set_option autoImplicit false

namespace Catalogue

def Instant.IsStorable (t : Instant) : Prop := -2 ^ 63 ≤ t.millis ∧ t.millis < 2 ^ 63

def DateRange.IsStorable (r : DateRange) : Prop :=
  (∀ lower ∈ r.lower, lower.IsStorable) ∧ ∀ upper ∈ r.upper, upper.IsStorable

theorem Day.number_bounds {d : Day} (h : d.Valid) (hleast : -300000 ≤ d.year) (hmost : d.year ≤ 300000) :
    -120000000 ≤ d.number ∧ d.number ≤ 120000000 := by
  obtain ⟨_, hmonth, _, hday⟩ := h
  have hlength : monthLength d.year d.month ≤ 31 := by
    unfold monthLength
    split_ifs <;> omega
  unfold number
  dsimp only
  split_ifs <;> omega

namespace Bound

variable {cs : List Char}

theorem isStorable_dateTime {t : Instant} (h : IsDateTime cs t) : t.IsStorable := by
  obtain ⟨y, mo, d, sep, hr, mi, sec, f, nanos, o, offset, -, ⟨hy, -⟩, -, -, hf, ho, hvalid, hclock, hseconds, hnanos⟩ :=
    h
  have hyear : Digits.value y < 10 ^ 4 :=
    (Digits.value_lt hy.1).trans_le (Nat.pow_le_pow_right (by decide) hy.2.2)
  have hnumber := Day.number_bounds hvalid (by dsimp only; omega) (by dsimp only; omega)
  have hlt := hf.lt
  have hoffset := ho.bounds
  simp only [Instant.IsStorable, Instant.millis, hseconds, hnanos]
  split <;> omega

theorem isStorable_midnight {d : Day} (h : IsPlainDate cs d) : (Instant.midnight d).IsStorable := by
  obtain ⟨_, _, _, _, _, _, -, -, -, -, -, hvalid, hleast, hmost⟩ := h
  unfold leastYear at hleast
  unfold mostYear at hmost
  have hnumber := Day.number_bounds hvalid (by omega) (by omega)
  simp only [Instant.IsStorable, Instant.millis, Instant.midnight]
  omega

theorem isStorable_read {t : Instant} (h : read cs = some t) : t.IsStorable := by
  rcases read_eq_some_iff.1 h with ht | ⟨d, hd, rfl⟩
  · exact isStorable_dateTime ht
  · exact isStorable_midnight hd

end Bound

/-! ### Records -/

namespace Json.Record

variable {σ : Type} {rec : Record σ} {P : σ → Prop} {s t : σ}

theorem ofFields_invariant (htake : ∀ name r s t, P s → rec.take name r s = .ok t → P t)
    {fields : List (Key × Reading)} {stop : Option Fault} (hs : P s)
    (h : rec.ofFields fields stop s = .ok t) : P t := by
  induction fields generalizing s with
  | nil => exact eq_of_map_eq_ok h ▸ hs
  | cons e rest ih =>
    obtain ⟨k, r⟩ := e
    rw [ofFields, bind_eq_ok_iff] at h
    obtain ⟨name, -, h⟩ := h
    split at h
    · split at h
      · cases h
      · obtain ⟨u, hu, h⟩ := bind_eq_ok_iff.1 h
        exact ih (htake _ _ _ _ hs hu) h
    · split at h
      · cases h
      · obtain ⟨_, -, h⟩ := bind_eq_ok_iff.1 h
        exact ih hs h

theorem ofItems_invariant (htake : ∀ name r s t, P s → rec.take name r s = .ok t → P t)
    {names : List String} {items : List Reading} {stop : Option Fault} {n : Nat} (hs : P s)
    (h : rec.ofItems names items stop n s = .ok t) : P t := by
  induction names generalizing items n s with
  | nil =>
    rw [ofItems] at h
    exact eq_of_map_eq_ok h ▸ hs
  | cons name names ih =>
    cases items with
    | nil =>
      rw [ofItems] at h
      obtain ⟨_, -, h⟩ := bind_eq_ok_iff.1 h
      split at h
      · exact ih hs h
      · cases h
    | cons r rs =>
      rw [ofItems] at h
      obtain ⟨u, hu, h⟩ := bind_eq_ok_iff.1 h
      exact ih (htake _ _ _ _ hs hu) h

/-- What holds of the blank record, and is preserved as each field is filled in, holds of all that is read. -/
theorem decode_invariant (htake : ∀ name r s t, P s → rec.take name r s = .ok t → P t) (hblank : P rec.blank)
    {r : Reading} (h : rec.decode r = .ok t) : P t := by
  cases r with
  | object fields stop => exact ofFields_invariant htake hblank h
  | array items stop => exact ofItems_invariant htake hblank h
  | _ => cases h

end Json.Record

namespace DateRange

variable {P : Instant → Prop} {reading : Json.Reading}

theorem forall_decodeBound (hread : ∀ cs t, Bound.read cs = some t → P t) {bound : Option Instant}
    (h : decodeBound reading = .ok bound) : ∀ t ∈ bound, P t := by
  obtain ⟨text, -, h⟩ := bind_eq_ok_iff.1 h
  cases text with
  | none =>
    cases h
    exact fun _ ht => nomatch ht
  | some s =>
    dsimp only at h
    split at h
    · next t ht =>
      cases h
      rintro _ ⟨⟩
      exact hread _ t ht
    · cases h

theorem forall_decode (hread : ∀ cs t, Bound.read cs = some t → P t) {r : DateRange} (h : decode reading = .ok r) :
    (∀ lower ∈ r.lower, P lower) ∧ ∀ upper ∈ r.upper, P upper := by
  obtain ⟨parts, hparts, h⟩ := bind_eq_ok_iff.1 h
  cases h
  have hnone : ∀ t ∈ (none : Option Instant), P t := fun _ ht => nomatch ht
  refine Json.Record.decode_invariant
    (P := fun p => (∀ t ∈ p.lower.join, P t) ∧ ∀ t ∈ p.upper.join, P t) ?_ ⟨hnone, hnone⟩ hparts
  intro name field p q hp hq
  obtain ⟨bound, hbound, hq⟩ := bind_eq_ok_iff.1 hq
  have hP := forall_decodeBound hread hbound
  cases hq
  split
  · exact ⟨hP, hp.2⟩
  · exact ⟨hp.1, hP⟩

theorem isStorable_decode {r : DateRange} (h : decode reading = .ok r) : r.IsStorable :=
  forall_decode (fun _ _ => Bound.isStorable_read) h

end DateRange

end Catalogue
