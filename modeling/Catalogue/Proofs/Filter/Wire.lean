import Catalogue.Proofs.Filter.Bounds
import Catalogue.Proofs.Json.Writing

set_option autoImplicit false

namespace Catalogue

def Instant.InFourDigits (t : Instant) : Prop := 0 ≤ t.day.year ∧ t.day.year ≤ 9999

instance (t : Instant) : Decidable t.InFourDigits := inferInstanceAs (Decidable (_ ∧ _))

namespace DateRange

open Json (Reading Error)
open Catalogue.Bound (IsDateTime IsPlainDate IsUsualDate)

variable {r : DateRange} {t : Instant} {e : Error}

/-! ### Bounds -/

def invalidBound (s : String) : Error := .refused ("invalid date bound '" ++ s ++ "'")

theorem decodeBound_null : decodeBound .null = .ok none := rfl

theorem decodeBound_string (s : String) : decodeBound (.string s) =
    match Bound.read s.toList with
    | some t => .ok (some t)
    | none => .error (invalidBound s) := rfl

theorem decodeBound_eq_ok_iff {s : String} :
    decodeBound (.string s) = .ok (some t) ↔ Bound.read s.toList = some t := by
  rw [decodeBound_string]
  cases Bound.read s.toList <;> simp

theorem decodeBound_eq_error_iff {s : String} :
    decodeBound (.string s) = .error e ↔ Bound.read s.toList = none ∧ e = invalidBound s := by
  rw [decodeBound_string]
  cases Bound.read s.toList <;> simp [eq_comm]

theorem decodeBound_text (h : t.IsProper) : decodeBound (.string (String.ofList t.text)) =
    if t.InFourDigits then .ok (some t) else .error (invalidBound (String.ofList t.text)) := by
  split
  · next hyear =>
    rw [decodeBound_eq_ok_iff, String.toList_ofList]
    exact Bound.read_text h hyear.1 hyear.2
  · next hyear =>
    rw [decodeBound_eq_error_iff, String.toList_ofList]
    exact ⟨Bound.read_text_eq_none hyear, rfl⟩

/-! ### Texts -/

def decodeBoth (x y : Reading) : Except Error DateRange := do
  let lower ← decodeBound x
  let upper ← decodeBound y
  pure ⟨lower, upper⟩

theorem decodeBoth_eq_ok_iff {x y : Reading} :
    decodeBoth x y = .ok r ↔ decodeBound x = .ok r.lower ∧ decodeBound y = .ok r.upper := by
  simp only [decodeBoth, bind_eq_ok_iff]
  constructor
  · rintro ⟨_, hx, _, hy, ⟨⟩⟩
    exact ⟨hx, hy⟩
  · rintro ⟨hx, hy⟩
    exact ⟨_, hx, _, hy, rfl⟩

theorem decodeBoth_eq_error_iff {x y : Reading} : decodeBoth x y = .error e ↔
    decodeBound x = .error e ∨ (∃ b, decodeBound x = .ok b) ∧ decodeBound y = .error e := by
  simp [decodeBoth, bind_eq_error_iff, pure, Except.pure]

theorem decode_bounds (x y : Reading) :
    decode (.object [(.named "from", x), (.named "to", y)] none) = decodeBoth x y := by
  cases hx : decodeBound x <;> cases hy : decodeBound y <;>
    simp [decode, Json.Record.decode, Json.Record.ofFields, record, Json.Key.take, Json.ofFault, decodeBoth, hx, hy,
      bind, Except.bind, pure, Except.pure, Except.map]

theorem decodeText_bounds {j k : Json} {x y : Reading} (hj : j.ReadsAs x) (hk : k.ReadsAs y) :
    Json.decodeText decode (Json.write (.object [("from", j), ("to", k)])) = decodeBoth x y := by
  have hfields : List.Forall₂ Json.FieldReadsAs [("from", j), ("to", k)] [(.named "from", x), (.named "to", y)] :=
    .cons ⟨rfl, hj⟩ (.cons ⟨rfl, hk⟩ .nil)
  rw [Json.decodeText_write_object decode hfields, decode_bounds]

/-! ### The strings that are bounds -/

/-- A string is a bound just if it has one of the two forms, and any other string is reported. A plain date is its
midnight, and no text of the other form. It has the usual form just if its text has ten characters, a digit first, and
no blanks. -/
theorem decodeBound_iff (s : String) :
    (∀ t, decodeBound (.string s) = .ok (some t) ↔
      IsDateTime s.toList t ∨ ∃ d, IsPlainDate s.toList d ∧ t = .midnight d) ∧
    (∀ e, decodeBound (.string s) = .error e ↔
      (∀ t, ¬IsDateTime s.toList t) ∧ (∀ d, ¬IsPlainDate s.toList d) ∧ e = invalidBound s) ∧
    (∀ d, IsUsualDate s.toList d → IsPlainDate s.toList d) ∧
    (∀ d, IsPlainDate s.toList d →
      (∀ t, ¬IsDateTime s.toList t) ∧ (Instant.midnight d).day = d ∧
      (IsUsualDate s.toList d ↔ s.toList.length = 10 ∧ (∀ c ∈ s.toList.head?, c.isDigit = true) ∧
        ∀ c ∈ s.toList, Unicode.isBlank c = false)) ∧
    Json.decodeText decode (Json.write (.object [("from", .string s), ("to", .null)])) =
      (decodeBound (.string s)).map (fun lower => ⟨lower, none⟩) ∧
    Json.decodeText decode (Json.write (.object [("from", .null), ("to", .string s)])) =
      (decodeBound (.string s)).map fun upper => ⟨none, upper⟩ := by
  refine ⟨fun t => ?_, fun e => ?_, fun d => Bound.IsUsualDate.isPlainDate, fun d hd => ?_, ?_, ?_⟩
  · rw [decodeBound_eq_ok_iff, Bound.read_eq_some_iff]
  · rw [decodeBound_eq_error_iff, Option.eq_none_iff_forall_ne_some, ← and_assoc]
    refine and_congr_left' ?_
    simp only [ne_eq, Bound.read_eq_some_iff, not_or, not_exists, not_and, forall_and]
    exact and_congr_right' ⟨fun h d hd => h _ d hd rfl, fun h t d hd _ => h d hd⟩
  · exact ⟨hd.not_isDateTime, Instant.day_midnight hd.valid, Bound.isUsualDate_iff hd⟩
  · rw [decodeText_bounds (Json.readsAs_string s) Json.readsAs_null]
    rfl
  · rw [decodeText_bounds Json.readsAs_null (Json.readsAs_string s)]
    rfl

theorem decodeBound_short_year :
    decodeBound (.string "24-1-5") = .ok (some (.midnight ⟨24, 1, 5⟩)) ∧
    (∀ t, ¬IsDateTime "24-1-5".toList t) ∧ ∀ d, ¬IsUsualDate "24-1-5".toList d := by
  have hplain : IsPlainDate "24-1-5".toList ⟨24, 1, 5⟩ := Bound.date?_eq_some_iff.1 (by decide)
  refine ⟨rfl, hplain.not_isDateTime, fun d hd => ?_⟩
  exact absurd ((Bound.isUsualDate_iff hd.isPlainDate).1 hd).1 (by decide)

/-! ### The texts of ranges -/

def bounds (r : DateRange) : List Instant := r.lower.toList ++ r.upper.toList

def IsRefused (t : Instant) (e : Error) : Prop := ¬t.InFourDigits ∧ e = invalidBound (String.ofList t.text)

theorem not_isRefused_iff : (∀ e, ¬IsRefused t e) ↔ t.InFourDigits :=
  ⟨fun h => Decidable.byContradiction fun ht => h _ ⟨ht, rfl⟩, fun h _ hrefused => hrefused.1 h⟩

def wireReading (b : Option Instant) : Reading := b.elim .null fun t => .string (String.ofList t.text)

theorem readsAs_bound (b : Option Instant) :
    (Json.ofOption (fun t => Json.string (String.ofList (Instant.text t))) b).ReadsAs (wireReading b) := by
  cases b with
  | none => exact Json.readsAs_null
  | some t => exact Json.readsAs_string _

variable {b c : Option Instant}

theorem decodeBound_wireReading_eq_ok_iff (h : ∀ t ∈ b, t.IsProper) :
    decodeBound (wireReading b) = .ok c ↔ c = b ∧ ∀ t ∈ b.toList, t.InFourDigits := by
  cases b with
  | none => simp [wireReading, decodeBound_null, eq_comm]
  | some t =>
    have htext := decodeBound_text (h t rfl)
    by_cases ht : t.InFourDigits <;> simp [wireReading, htext, ht, eq_comm]

theorem decodeBound_wireReading_eq_error_iff (h : ∀ t ∈ b, t.IsProper) :
    decodeBound (wireReading b) = .error e ↔ FailsFirst IsRefused b.toList e := by
  cases b with
  | none => simp [wireReading, decodeBound_null, FailsFirst.not_nil]
  | some t =>
    have htext := decodeBound_text (h t rfl)
    by_cases ht : t.InFourDigits <;>
      simp [wireReading, htext, ht, FailsFirst.cons_iff, FailsFirst.not_nil, IsRefused, eq_comm]

/-- A range that was read is read back from its text just if the years of its bounds have four digits. Otherwise the
text of the first bound that has another year is reported. -/
theorem decodeText_write {text : String} (h : Json.decodeText decode text = .ok r) :
    (Json.decodeText decode (Json.write r.toJson) = .ok r ↔ ∀ t ∈ r.bounds, t.InFourDigits) ∧
    ∀ e, Json.decodeText decode (Json.write r.toJson) = .error e ↔ FailsFirst IsRefused r.bounds e := by
  obtain ⟨reading, hreading⟩ := Json.exists_of_decodeText h
  obtain ⟨hlower, hupper⟩ := forall_decode (fun _ _ => Bound.isProper_read) hreading
  have hwire : Json.decodeText decode (Json.write r.toJson) = decodeBoth (wireReading r.lower) (wireReading r.upper) :=
    decodeText_bounds (readsAs_bound r.lower) (readsAs_bound r.upper)
  rw [hwire, bounds]
  refine ⟨?_, fun e => ?_⟩
  · rw [decodeBoth_eq_ok_iff, decodeBound_wireReading_eq_ok_iff hlower, decodeBound_wireReading_eq_ok_iff hupper,
      List.forall_mem_append]
    simp
  · simp only [decodeBoth_eq_error_iff, decodeBound_wireReading_eq_error_iff hlower,
      decodeBound_wireReading_eq_error_iff hupper, decodeBound_wireReading_eq_ok_iff hlower, FailsFirst.append_iff,
      not_isRefused_iff]
    simp

theorem decodeText_write_leapSecond :
    let text := Json.write (.object [("from", .string "2017-01-01T00:59:60.5+01:00"), ("to", .string "2024-2-29")])
    let r := between ⟨1483228799, 1500000000⟩ (.midnight ⟨2024, 2, 29⟩)
    Json.decodeText decode text = .ok r ∧ Json.decodeText decode (Json.write r.toJson) = .ok r := by
  intro text r
  have hdecode : Json.decodeText decode text = .ok r := by
    rw [decodeText_bounds (Json.readsAs_string _) (Json.readsAs_string _), decodeBoth_eq_ok_iff]
    exact ⟨decodeBound_eq_ok_iff.2 (by decide), decodeBound_eq_ok_iff.2 (by decide)⟩
  exact ⟨hdecode, (decodeText_write hdecode).1.2 (by decide)⟩

/-- Half an hour before the year 9999 ends in a zone behind universal time, the next year has begun there. -/
theorem decodeText_write_year_10000 :
    let r := since ⟨253402302600, 0⟩
    Json.decodeText decode (Json.write (.object [("from", .string "9999-12-31T23:30:00-01:00"), ("to", .null)])) =
      .ok r ∧
    Json.decodeText decode (Json.write r.toJson) = .error (.refused "invalid date bound '+10000-01-01T00:30:00Z'") := by
  have htext : String.ofList (Instant.text ⟨253402302600, 0⟩) = "+10000-01-01T00:30:00Z" := by decide
  refine ⟨?_, (decodeText_bounds (readsAs_bound _) (readsAs_bound _)).trans ?_⟩
  · rw [decodeText_bounds (Json.readsAs_string _) Json.readsAs_null, decodeBoth_eq_ok_iff]
    exact ⟨decodeBound_eq_ok_iff.2 (by decide), rfl⟩
  · refine decodeBoth_eq_error_iff.2 (Or.inl ?_)
    rw [since, wireReading, Option.elim_some, htext]
    exact decodeBound_eq_error_iff.2 ⟨by decide, rfl⟩

end DateRange

end Catalogue
