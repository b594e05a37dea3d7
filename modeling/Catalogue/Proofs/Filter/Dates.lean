import Catalogue.Proofs.Filter.Bounds
import Catalogue.Proofs.Filter.Evaluation

/-!
What date ranges select. Instants have nanoseconds and stored dates only milliseconds, so the bounds of a range are
rounded down. An upper bound selects the same dates either way: those after it begin a later millisecond. A lower
bound within a millisecond also lets in the date at the beginning of that millisecond, which lies before it.
-/

set_option autoImplicit false

namespace Catalogue

namespace Instant

variable {t : Instant} {m : Int}

theorem nanoseconds_ofMillis (m : Int) : (ofMillis m).nanoseconds = m * 1000000 := by
  simp only [nanoseconds, ofMillis]
  omega

theorem millis_eq_ediv (t : Instant) : t.millis = t.nanoseconds / 1000000 := by
  simp only [millis, nanoseconds]
  omega

/-- An upper bound may be rounded down: no date lies between the two. -/
theorem le_millis_iff : m ≤ t.millis ↔ (ofMillis m).nanoseconds ≤ t.nanoseconds := by
  rw [millis_eq_ediv, nanoseconds_ofMillis]
  omega

/-- A lower bound may not: it moves to the beginning of its millisecond. -/
theorem millis_le_iff : t.millis ≤ m ↔ (ofMillis t.millis).nanoseconds ≤ (ofMillis m).nanoseconds := by
  rw [nanoseconds_ofMillis, nanoseconds_ofMillis]
  omega

theorem nanoseconds_ofMillis_millis_le (t : Instant) : (ofMillis t.millis).nanoseconds ≤ t.nanoseconds :=
  le_millis_iff.1 (Int.le_refl _)

theorem millis_le_and_lt_iff :
    t.millis ≤ m ∧ (ofMillis m).nanoseconds < t.nanoseconds ↔ t.millis = m ∧ t.nanos % 1000000 ≠ 0 := by
  rw [nanoseconds_ofMillis]
  simp only [millis, nanoseconds]
  omega

theorem IsStorable.toInt_ofInt (h : t.IsStorable) : (Int64.ofInt t.millis).toInt = t.millis :=
  Int64.toInt_ofInt_of_le h.1 h.2

end Instant

namespace DateRange

variable {r : DateRange} {m : Int}

def Contains (r : DateRange) (t : Instant) : Prop :=
  (∀ lower ∈ r.lower, lower.nanoseconds ≤ t.nanoseconds) ∧ ∀ upper ∈ r.upper, t.nanoseconds ≤ upper.nanoseconds

/-- The range from the beginning of the millisecond of the lower bound. -/
def widened (r : DateRange) : DateRange := ⟨r.lower.map fun t => Instant.ofMillis t.millis, r.upper⟩

def BeginsWithin (r : DateRange) (m : Int) : Prop := ∃ lower ∈ r.lower, lower.millis = m ∧ lower.nanos % 1000000 ≠ 0

theorem widened_contains_iff : r.widened.Contains (.ofMillis m) ↔
    (∀ lower ∈ r.lower, lower.millis ≤ m) ∧ ∀ upper ∈ r.upper, m ≤ upper.millis := by
  simp only [Contains, widened, Option.mem_def, Option.map_eq_some_iff, forall_exists_index, and_imp,
    forall_apply_eq_imp_iff₂, Instant.millis_le_iff, Instant.le_millis_iff]

theorem Contains.widened {t : Instant} (h : r.Contains t) : r.widened.Contains t := by
  refine ⟨fun lower hlower => ?_, h.2⟩
  obtain ⟨l, hl, rfl⟩ := Option.map_eq_some_iff.1 hlower
  exact Int.le_trans (Instant.nanoseconds_ofMillis_millis_le l) (h.1 l hl)

theorem widened_contains_and_not_iff : r.widened.Contains (.ofMillis m) ∧ ¬r.Contains (.ofMillis m) ↔
    r.BeginsWithin m ∧ ∀ upper ∈ r.upper, (Instant.ofMillis m).nanoseconds ≤ upper.nanoseconds := by
  constructor
  · rintro ⟨hwide, hnot⟩
    -- both ranges have one upper bound, so it is the lower bound that is not met
    obtain ⟨lower, hlower, hlt⟩ : ∃ lower ∈ r.lower, (Instant.ofMillis m).nanoseconds < lower.nanoseconds := by
      by_contra hno
      exact hnot ⟨fun lower hlower => Int.not_lt.1 fun hlt => hno ⟨lower, hlower, hlt⟩, hwide.2⟩
    have hle := (widened_contains_iff.1 hwide).1 lower hlower
    exact ⟨⟨lower, hlower, Instant.millis_le_and_lt_iff.1 ⟨hle, hlt⟩⟩, hwide.2⟩
  · rintro ⟨⟨lower, hlower, hbegins⟩, hupper⟩
    obtain ⟨hle, hlt⟩ := Instant.millis_le_and_lt_iff.2 hbegins
    have hwide : r.widened.Contains (.ofMillis m) := widened_contains_iff.2
      ⟨fun l hl => Option.mem_unique hl hlower ▸ hle, fun u hu => Instant.le_millis_iff.2 (hupper u hu)⟩
    exact ⟨hwide, fun h => Int.not_le.2 hlt (h.1 lower hlower)⟩

end DateRange

/-! ### Predicates -/

theorem FilterRule.dateRange_accepts_date_iff {r : DateRange} (h : r.IsStorable) {m : Int64} :
    dateRange.Accepts (.range r) (some (.date m)) ↔ r.widened.Contains (.ofMillis m.toInt) := by
  rw [dateRange_accepts_iff, DateRange.widened_contains_iff]
  simp only [Option.some.injEq, Value.date.injEq, exists_eq_left', Int64.le_iff_toInt_le]
  refine and_congr (forall₂_congr fun lower hlower => ?_) (forall₂_congr fun upper hupper => ?_)
  · rw [(h.1 lower hlower).toInt_ofInt]
  · rw [(h.2 upper hupper).toInt_ofInt]

namespace FilterSpec

variable {spec : FilterSpec} {field language : String} {r : DateRange}

theorem predicate_dateRange (h : Fields.get? spec field = some (.range r)) :
    spec.predicate [(field, .dateRange)] language =
      .ok (if r.isUnbounded then [] else [(field, .document (FilterRule.bounds r))]) := by
  have hconstraining : spec.constraining [(field, .dateRange)] =
      if r.isUnbounded then [] else [(field, .dateRange, .range r)] := by
    cases hunbounded : r.isUnbounded <;> simp [constraining, h, FilterValue.isEmpty, hunbounded]
  rw [predicate, hconstraining]
  cases r.isUnbounded <;> rfl

theorem answers_isMatch_dateRange {d : Document} {m : Int64} (hdate : Document.lookup d field = some (.date m)) :
    Answers (Store.isMatch d (if r.isUnbounded then [] else [(field, .document (FilterRule.bounds r))]))
      (FilterRule.dateRange.Accepts (.range r) (some (.date m))) := by
  rw [FilterRule.dateRange_accepts_iff, ← hdate]
  cases hunbounded : r.isUnbounded with
  | true =>
    obtain ⟨hlower, hupper⟩ : r.lower = none ∧ r.upper = none := by
      simpa [DateRange.isUnbounded] using hunbounded
    exact (Answers.allM_nil _).congr (by simp [hdate, hlower, hupper])
  | false =>
    have hbounds := FilterRule.answers_bounds hunbounded (Document.lookup d field)
    exact (Answers.allM_cons hbounds (.allM_nil _)).congr (iff_of_eq (and_true _))

end FilterSpec

/-- Compiled alone, a date range has a predicate, and every date that a document has is tested without error. It is
let in just where the range contains it, once the lower bound is rounded down to milliseconds. No date of the range
is refused; the one date outside of it that may be let in begins the millisecond within which the range begins. -/
theorem FilterSpec.isMatch_dateRange {spec : FilterSpec} {field : String} {r : DateRange} {d : Document} {m : Int64}
    (hvalue : Fields.get? spec field = some (.range r)) (hstorable : r.IsStorable)
    (hdate : Document.lookup d field = some (.date m)) (language : String) :
    ∃ predicate b, spec.predicate [(field, .dateRange)] language = .ok predicate ∧
      Store.isMatch d predicate = .ok b ∧
      (b = true ↔ r.widened.Contains (.ofMillis m.toInt)) ∧
      (r.Contains (.ofMillis m.toInt) → b = true) ∧
      (b = true ∧ ¬r.Contains (.ofMillis m.toInt) ↔
        r.BeginsWithin m.toInt ∧ ∀ upper ∈ r.upper, (Instant.ofMillis m.toInt).nanoseconds ≤ upper.nanoseconds) := by
  obtain ⟨b, hb, haccepts⟩ := answers_isMatch_dateRange (r := r) hdate
  have hwide := haccepts.trans (FilterRule.dateRange_accepts_date_iff hstorable)
  refine ⟨_, b, predicate_dateRange hvalue, hb, hwide, fun h => hwide.2 h.widened, ?_⟩
  rw [hwide]
  exact DateRange.widened_contains_and_not_iff

def lastHalfMillisecond : DateRange := .between ⟨-1, 999500000⟩ ⟨0, 0⟩

def lastHalfMillisecondReading : Json.Reading :=
  .object [(.named "from", .string "1969-12-31T23:59:59.9995Z"), (.named "to", .string "1970-01-01")] none

def eventFilter (r : DateRange) : FilterSpec := [("at", .range r)]

theorem FilterSpec.isMatch_lastHalfMillisecond :
    DateRange.decode lastHalfMillisecondReading = .ok lastHalfMillisecond ∧
    (∃ predicate, (eventFilter lastHalfMillisecond).predicate [("at", .dateRange)] "en" = .ok predicate ∧
      Store.isMatch [("at", .date 0)] predicate = .ok true) ∧
    ∃ predicate, (eventFilter lastHalfMillisecond).predicate [("at", .dateRange)] "en" = .ok predicate ∧
      Store.isMatch [("at", .date (-1))] predicate = .ok true ∧ ¬lastHalfMillisecond.Contains (.ofMillis (-1)) := by
  have hdecode : DateRange.decode lastHalfMillisecondReading = .ok lastHalfMillisecond := rfl
  have hstorable := DateRange.isStorable_decode hdecode
  have hcontains : lastHalfMillisecond.Contains (.ofMillis 0) := by
    simp [DateRange.Contains, lastHalfMillisecond, DateRange.between, Instant.nanoseconds, Instant.ofMillis]
  have hbegins : lastHalfMillisecond.BeginsWithin (-1) := ⟨_, rfl, rfl, by decide⟩
  have hupper : ∀ upper ∈ lastHalfMillisecond.upper, (Instant.ofMillis (-1)).nanoseconds ≤ upper.nanoseconds := by
    simp [lastHalfMillisecond, DateRange.between, Instant.nanoseconds, Instant.ofMillis]
  have hvalue : Fields.get? (eventFilter lastHalfMillisecond) "at" = some (.range lastHalfMillisecond) := rfl
  have hzero : Document.lookup [("at", .date 0)] "at" = some (.date 0) := rfl
  have hbefore : Document.lookup [("at", .date (-1))] "at" = some (.date (-1)) := rfl
  obtain ⟨p, b, hp, hb, -, hin, -⟩ := isMatch_dateRange hvalue hstorable hzero "en"
  obtain ⟨q, c, hq, hc, -, -, hout⟩ := isMatch_dateRange hvalue hstorable hbefore "en"
  obtain rfl : b = true := hin hcontains
  obtain ⟨rfl, hnot⟩ := hout.2 ⟨hbegins, hupper⟩
  exact ⟨hdecode, ⟨p, hp, hb⟩, q, hq, hc, hnot⟩

theorem FilterSpec.not_dateRange_exact : ∃ predicate,
    (eventFilter (.since ⟨0, 500000⟩)).predicate [("at", .dateRange)] "en" = .ok predicate ∧
    Store.isMatch [("at", .date 0)] predicate = .ok true ∧
    ¬(DateRange.since ⟨0, 500000⟩).Contains (.ofMillis 0) := by
  refine ⟨_, rfl, rfl, fun h => ?_⟩
  exact absurd (h.1 _ rfl) (by decide)

end Catalogue
