import Catalogue.Proofs.Binary64.Integers
import Catalogue.Proofs.Filter.Evaluation
import Catalogue.Proofs.Store.SortKeys

set_option autoImplicit false

namespace Catalogue

open Binary64 (nearest)

/-! ### Values -/

namespace Value

variable {v w : Value} {n : Int}

def integer? : Value → Option Int
  | int32 n => some n.toInt
  | int64 n => some n.toInt
  | _ => none

theorem natAbs_lt_of_integer? (h : v.integer? = some n) : n.natAbs < 2 ^ 64 := by
  cases v with
  | int32 i =>
    cases h
    have hlow := i.le_toInt
    have hhigh := i.toInt_lt
    omega
  | int64 i =>
    cases h
    have hlow := i.le_toInt
    have hhigh := i.toInt_lt
    omega
  | _ => cases h

theorem number?_of_integer? (h : v.integer? = some n) : v.number? = some (Binary64.ofInt n) := by
  cases v with
  | int32 i => cases h; rfl
  | int64 i => cases h; rfl
  | _ => cases h

theorem compareOption_of_integer? {m : Int} (hv : v.integer? = some m) (hw : w.integer? = some n) :
    compareOption (some v) (some w) = compare (nearest m) (nearest n) := by
  rw [← Binary64.compare_rank_ofInt (natAbs_lt_of_integer? hv) (natAbs_lt_of_integer? hw)]
  cases v <;> cases hv <;> cases w <;> cases hw <;> rfl

/-- A stored integer equals a number just where the number is, as a double, its nearest integer. -/
theorem equal_iff_of_integer? {x : Binary64} (hv : v.integer? = some n) (hw : w.number? = some x) :
    v.equal w = true ↔ x.toInt? = some (nearest n) := by
  have hequal : v.equal w = (Binary64.ofInt n).numericEq x := by
    rw [equal, number?_of_integer? hv, hw]
  rw [hequal, Binary64.numericEq_comm]
  exact Binary64.numericEq_iff_toInt?_eq (Binary64.toInt?_ofInt (natAbs_lt_of_integer? hv))

theorem not_equal_of_number?_eq_none (hv : v.integer? = some n) (hw : w.number? = none) : ¬v.equal w = true := by
  rw [Bool.not_eq_true]
  cases v <;> cases hv <;> cases w <;> first | rfl | cases hw

end Value

namespace FilterValue

variable {item : FilterValue} {v w : Value} {n : Int}

def whole? : FilterValue → Option Int
  | integer k => some (nearest k.toInt)
  | double x => x.toInt?
  | _ => none

theorem eq_or_list_of_mem_listed {v : FilterValue} (h : item ∈ v.listed) :
    v = item ∨ ∃ items, v = .list items ∧ item ∈ items := by
  cases v with
  | list items => exact Or.inr ⟨items, rfl, h⟩
  | _ => exact Or.inl (List.mem_singleton.1 h).symm

theorem IsStoredAs.equal_iff (h : item.IsStoredAs w) (hv : v.integer? = some n) :
    v.equal w = true ↔ item.whole? = some (nearest n) := by
  cases h with
  | integer k =>
    have hk := Value.natAbs_lt_of_integer? (v := .int64 k) rfl
    rw [Value.equal_iff_of_integer? hv rfl, Binary64.toInt?_ofInt hk, whole?]
  | double x => exact Value.equal_iff_of_integer? hv rfl
  | null => exact iff_of_false (Value.not_equal_of_number?_eq_none hv rfl) nofun
  | boolean b => exact iff_of_false (Value.not_equal_of_number?_eq_none hv rfl) nofun
  | string s => exact iff_of_false (Value.not_equal_of_number?_eq_none hv rfl) nofun

end FilterValue

/-! ### Documents -/

namespace Document

variable {field : String} {d a b : Document} {n : Int}

def integerAt (field : String) (d : Document) : Option Int := (lookup d field).bind Value.integer?

def nearestAt (field : String) (d : Document) : Option Int := (integerAt field d).map nearest

def holdsOneOf (field : String) (items : List FilterValue) (d : Document) : Bool :=
  (nearestAt field d).any fun q => items.any fun item => item.whole? == some q

theorem nearestAt_eq (h : integerAt field d = some n) : nearestAt field d = some (nearest n) := by
  rw [nearestAt, h, Option.map_some]

theorem holdsOneOf_iff {items : List FilterValue} (h : integerAt field d = some n) :
    holdsOneOf field items d = true ↔ ∃ item ∈ items, item.whole? = some (nearest n) := by
  simp [holdsOneOf, nearestAt_eq h]

theorem compareBy_ascending {m : Int} (ha : integerAt field a = some m) (hb : integerAt field b = some n) :
    compareBy [(field, .int32 1)] a b = compare (nearest m) (nearest n) := by
  obtain ⟨v, hv, hm⟩ := Option.bind_eq_some_iff.1 ha
  obtain ⟨w, hw, hn⟩ := Option.bind_eq_some_iff.1 hb
  have hdirection : (Value.int32 1).toInt? ≠ some (-1) := by decide
  simp only [compareBy, hv, hw, if_neg hdirection, Value.compareOption_of_integer? hm hn, Ordering.then_eq]

end Document

/-! ### Filters -/

namespace FilterRule

variable {v : FilterValue} {field : String} {d : Document} {n : Int}

theorem exact_accepts_iff (hscalar : ∃ w, v.IsStoredAs w) (h : d.integerAt field = some n) :
    exact.Accepts v (Document.lookup d field) ↔ v.whole? = some (nearest n) := by
  obtain ⟨x, hx, hn⟩ := Option.bind_eq_some_iff.1 h
  obtain ⟨w, hw⟩ := hscalar
  rw [hx, ← hw.equal_iff hn]
  constructor
  · rintro ⟨y, w', he, hw', hy⟩
    cases he
    exact hw.unique hw' ▸ hy
  · exact fun hy => ⟨x, w, rfl, hw, hy⟩

theorem membership_accepts_iff (hscalar : ∀ item ∈ v.listed, ∃ w, item.IsStoredAs w)
    (h : d.integerAt field = some n) : membership.Accepts v (Document.lookup d field) ↔
      ∃ item ∈ v.listed, item.whole? = some (nearest n) := by
  obtain ⟨x, hx, hn⟩ := Option.bind_eq_some_iff.1 h
  rw [hx]
  constructor
  · rintro ⟨y, he, item, hitem, w, hw, hy⟩
    cases he
    exact ⟨item, hitem, (hw.equal_iff hn).1 hy⟩
  · rintro ⟨item, hitem, hwhole⟩
    obtain ⟨w, hw⟩ := hscalar item hitem
    exact ⟨x, rfl, item, hitem, w, hw, (hw.equal_iff hn).2 hwhole⟩

theorem exists_membership_asks (hscalar : ∀ item ∈ v.listed, ∃ w, item.IsStoredAs w) : ∃ w, membership.Asks v w := by
  cases v with
  | list items =>
    obtain ⟨ws, hws⟩ := exists_forall₂ hscalar
    exact ⟨_, .oneOf hws⟩
  | _ =>
    obtain ⟨w, hw⟩ := hscalar _ (List.mem_singleton_self _)
    exact ⟨_, .only hw⟩

end FilterRule

namespace Database

variable {db : Database} {docs : List Document} {field : String}

theorem pairwise_sortBy_ascending : (sortBy [(field, .int32 1)] docs).Pairwise fun a b =>
    ∀ m ∈ a.integerAt field, ∀ n ∈ b.integerAt field, nearest m ≤ nearest n := by
  refine (stablySorted_sortBy [(field, .int32 1)] docs).ascending.imp fun {a b} hle m hm n hn => ?_
  rw [Document.compareBy_ascending hm hn] at hle
  exact compare_le_iff_le.1 hle

theorem runStages_of_accepts (db : Database) {spec : FilterSpec} {rule : FilterRule} {v : FilterValue} {w : Value}
    {p : Document → Bool} (hvalue : Fields.get? spec field = some v) (hempty : v.isEmpty = false)
    (htext : ∀ s, v ≠ .string s) (hasks : rule.Asks v w) (language : String)
    (haccepts : ∀ d ∈ docs, rule.Accepts v (Document.lookup d (rule.path language field)) ↔ p d = true) :
    ∃ predicate, spec.predicate [(field, rule)] language = .ok predicate ∧
      db.runStages docs [.document [("$match", .document predicate)]] = .ok (docs.filter p) := by
  refine ⟨_, FilterSpec.predicate_singleton hvalue hempty hasks language, runStages_match_eq_filter fun d hd => ?_⟩
  have hmeets := hasks.answers hempty (fun s hs => absurd hs (htext s))
    (Document.lookup d (rule.path language field))
  refine (Answers.allM_cons hmeets (.allM_nil _)).congr ?_
  rw [and_true, haccepts d hd]

section Filters

variable (db) {spec : FilterSpec} (hintegers : ∀ d ∈ docs, (d.integerAt field).isSome)

include hintegers

theorem runStages_exact {k : Int64} (hvalue : Fields.get? spec field = some (.integer k)) (language : String) :
    ∃ predicate, spec.predicate [(field, .exact)] language = .ok predicate ∧
      db.runStages docs [.document [("$match", .document predicate)]] =
        .ok (docs.filter fun d => d.nearestAt field = some (nearest k.toInt)) := by
  refine runStages_of_accepts db hvalue rfl nofun (.equal (.integer k)) language fun d hd => ?_
  obtain ⟨n, hn⟩ := Option.isSome_iff_exists.1 (hintegers d hd)
  rw [decide_eq_true_eq, Document.nearestAt_eq hn, eq_comm (a := some (nearest n))]
  exact FilterRule.exact_accepts_iff ⟨_, .integer k⟩ hn

theorem runStages_membership {v : FilterValue} (hvalue : Fields.get? spec field = some v) {k : Int64}
    (hk : .integer k ∈ v.listed) (hscalar : ∀ item ∈ v.listed, ∃ w, item.IsStoredAs w) (language : String) :
    ∃ predicate, spec.predicate [(field, .membership)] language = .ok predicate ∧
      db.runStages docs [.document [("$match", .document predicate)]] =
        .ok (docs.filter (Document.holdsOneOf field v.listed)) := by
  obtain ⟨w, hw⟩ := FilterRule.exists_membership_asks hscalar
  obtain ⟨hempty, htext⟩ : v.isEmpty = false ∧ ∀ s, v ≠ .string s := by
    obtain rfl | ⟨items, rfl, hmem⟩ := FilterValue.eq_or_list_of_mem_listed hk
    · exact ⟨rfl, nofun⟩
    · exact ⟨List.isEmpty_eq_false_iff.2 (List.ne_nil_of_mem hmem), nofun⟩
  refine runStages_of_accepts db hvalue hempty htext hw language fun d hd => ?_
  obtain ⟨n, hn⟩ := Option.isSome_iff_exists.1 (hintegers d hd)
  rw [Document.holdsOneOf_iff hn]
  exact FilterRule.membership_accepts_iff hscalar hn

theorem filter_sortBy_ascending (q : Int) :
    (sortBy [(field, .int32 1)] docs).filter (fun d => d.nearestAt field = some q) =
      docs.filter fun d => d.nearestAt field = some q := by
  have hsorted := stablySorted_sortBy [(field, .int32 1)] docs
  by_cases hsome : ∃ a ∈ docs, a.nearestAt field = some q
  · obtain ⟨a, ha, hq⟩ := hsome
    obtain ⟨m, hm⟩ := Option.isSome_iff_exists.1 (hintegers a ha)
    have htied : ∀ d ∈ docs, decide (d.nearestAt field = some q) =
        (Document.compareBy [(field, .int32 1)] a d == .eq) := by
      intro d hd
      obtain ⟨n, hn⟩ := Option.isSome_iff_exists.1 (hintegers d hd)
      rw [Bool.eq_iff_iff, decide_eq_true_eq, beq_iff_eq, Document.compareBy_ascending hm hn, compare_eq_iff_eq,
        ← hq, Document.nearestAt_eq hm, Document.nearestAt_eq hn, Option.some.injEq, eq_comm]
    rw [List.filter_congr htied, List.filter_congr fun d hd => htied d (hsorted.perm.subset hd)]
    exact hsorted.stable a
  · have hnone : docs.filter (fun d => d.nearestAt field = some q) = [] :=
      List.filter_eq_nil_iff.2 fun d hd hq => hsome ⟨d, hd, of_decide_eq_true hq⟩
    rw [hnone]
    exact ((hsorted.perm.filter _).trans (List.Perm.of_eq hnone)).eq_nil

end Filters

/-- Stored integers are compared by their nearest doubles, which lie half a spacing away at most. A filter keeps an
integer for any number with the same double, and an ordering leaves integers with the same double as they stand. One of
two different integers below `2 ^ 53` is enough for their doubles to differ, and then both are exact. -/
theorem match_and_sort_by_nearest (db : Database) {docs : List Document} {field : String}
    (hintegers : ∀ d ∈ docs, (d.integerAt field).isSome) (k : Int64) (language : String) :
    (∀ n : Int, 2 * (nearest n - n).natAbs ≤ Binary64.spacing n.natAbs) ∧
    (∀ m n : Int, nearest m = nearest n → m = n ∨ 2 ^ 53 ≤ m.natAbs ∧ 2 ^ 53 ≤ n.natAbs) ∧
    (∀ spec : FilterSpec, Fields.get? spec field = some (.integer k) →
      ∃ predicate, spec.predicate [(field, .exact)] language = .ok predicate ∧
        db.runStages docs [.document [("$match", .document predicate)]] =
          .ok (docs.filter fun d => d.nearestAt field = some (nearest k.toInt))) ∧
    (∀ (spec : FilterSpec) (v : FilterValue), Fields.get? spec field = some v → .integer k ∈ v.listed →
      (∀ item ∈ v.listed, ∃ w, item.IsStoredAs w) →
      ∃ predicate, spec.predicate [(field, .membership)] language = .ok predicate ∧
        db.runStages docs [.document [("$match", .document predicate)]] =
          .ok (docs.filter (Document.holdsOneOf field v.listed))) ∧
    ∃ out, db.runStages docs [.document [("$sort", .document [(field, .int32 1)])]] = .ok out ∧ out.Perm docs ∧
      out.Pairwise (fun a b => ∀ m ∈ a.integerAt field, ∀ n ∈ b.integerAt field, m ≤ n ∨ nearest m = nearest n) ∧
      ∀ q, out.filter (fun d => d.nearestAt field = some q) = docs.filter fun d => d.nearestAt field = some q := by
  refine ⟨Binary64.two_mul_natAbs_nearest_sub_le, fun m n h => ?_,
    fun _ hvalue => runStages_exact db hintegers hvalue language,
    fun _ _ hvalue hk hscalar => runStages_membership db hintegers hvalue hk hscalar language,
    sortBy [(field, .int32 1)] docs, runStages_sortBy (List.cons_ne_nil _ _), (stablySorted_sortBy _ docs).perm, ?_,
    filter_sortBy_ascending hintegers⟩
  · by_cases hm : m.natAbs < 2 ^ 53
    · exact Or.inl (Binary64.eq_of_nearest_eq hm h.symm).symm
    · by_cases hn : n.natAbs < 2 ^ 53
      · exact Or.inl (Binary64.eq_of_nearest_eq hn h)
      · exact Or.inr ⟨Nat.not_lt.1 hm, Nat.not_lt.1 hn⟩
  · refine pairwise_sortBy_ascending.imp fun {a b} hle m hm n hn => ?_
    rcases Int.le_total m n with hmn | hnm
    · exact Or.inl hmn
    · exact Or.inr (Int.le_antisymm (hle m hm n hn) (Binary64.nearest_mono hnm))

def sampleCounters : List Document :=
  [[("_id", .string "a"), ("n", .int64 9007199254740993)], [("_id", .string "b"), ("n", .int64 9007199254740992)],
    [("_id", .string "c"), ("n", .int32 7)]]

def sampleMembers : List FilterValue :=
  [.integer 9007199254740992, .string "7", .double ⟨0x401C000000000000⟩]

theorem match_and_sort_sampleCounters : (∀ d ∈ sampleCounters, (d.integerAt "n").isSome) ∧
    (∃ predicate, FilterSpec.predicate [("n", .integer 9007199254740992)] [("n", .exact)] "en" = .ok predicate ∧
      runStages [] sampleCounters [.document [("$match", .document predicate)]] = .ok (sampleCounters.take 2)) ∧
    (∃ predicate, FilterSpec.predicate [("n", .list sampleMembers)] [("n", .membership)] "en" = .ok predicate ∧
      runStages [] sampleCounters [.document [("$match", .document predicate)]] = .ok sampleCounters) ∧
    ∃ out, runStages [] sampleCounters [.document [("$sort", .document [("n", .int32 1)])]] = .ok out ∧
      out.Pairwise (fun a b => ∀ m ∈ a.integerAt "n", ∀ n ∈ b.integerAt "n", m ≤ n ∨ nearest m = nearest n) ∧
      out.filter (fun d => d.nearestAt "n" = some 9007199254740992) = sampleCounters.take 2 := by
  have hintegers : ∀ d ∈ sampleCounters, (d.integerAt "n").isSome := by decide +kernel
  have hnearest : sampleCounters.map (Document.nearestAt "n") =
      [some 9007199254740992, some 9007199254740992, some 7] := by decide +kernel
  simp only [sampleCounters, List.map_cons, List.map_nil, List.cons.injEq, and_true] at hnearest
  have hk : nearest (9007199254740992 : Int64).toInt = 9007199254740992 := by decide +kernel
  have hneighbours : sampleCounters.filter (fun d => d.nearestAt "n" = some 9007199254740992) =
      sampleCounters.take 2 := by
    simp [sampleCounters, hnearest]
  obtain ⟨_, _, hexact, hmembership, out, hout, _, hascends, hstable⟩ :=
    match_and_sort_by_nearest [] hintegers 9007199254740992 "en"
  rw [hk, hneighbours] at hexact
  have hscalar : ∀ item ∈ sampleMembers, ∃ w, item.IsStoredAs w := by
    simp only [sampleMembers, List.forall_mem_cons]
    exact ⟨⟨_, .integer _⟩, ⟨_, .string _⟩, ⟨_, .double _⟩, nofun⟩
  have hmembers := hmembership [("n", .list sampleMembers)] (.list sampleMembers) rfl List.mem_cons_self hscalar
  have hall : sampleCounters.filter (Document.holdsOneOf "n" sampleMembers) = sampleCounters :=
    List.filter_eq_self.2 (by decide +kernel)
  rw [FilterValue.listed, hall] at hmembers
  exact ⟨hintegers, hexact [("n", .integer 9007199254740992)] rfl, hmembers, out, hout, hascends,
    (hstable _).trans hneighbours⟩

theorem not_match_and_sort_exact :
    (∃ predicate, FilterSpec.predicate [("n", .integer 9007199254740993)] [("n", .exact)] "en" = .ok predicate ∧
      runStages [] [[("n", .int64 9007199254740992)]] [.document [("$match", .document predicate)]] =
        .ok [[("n", .int64 9007199254740992)]]) ∧
    (∃ predicate, FilterSpec.predicate [("n", .list [.integer 9007199254740993])] [("n", .membership)] "en" =
        .ok predicate ∧
      runStages [] [[("n", .int64 9007199254740992)]] [.document [("$match", .document predicate)]] =
        .ok [[("n", .int64 9007199254740992)]]) ∧
    runStages [] [[("n", .int64 9007199254740993)], [("n", .int64 9007199254740992)]]
        [.document [("$sort", .document [("n", .int32 1)])]] =
      .ok [[("n", .int64 9007199254740993)], [("n", .int64 9007199254740992)]] := by
  have hintegers : ∀ d ∈ [[("n", Value.int64 9007199254740992)]], (Document.integerAt "n" d).isSome := by
    decide +kernel
  have hvalue : Fields.get? [("n", FilterValue.integer 9007199254740993)] "n" = some (.integer 9007199254740993) := rfl
  have hlist : Fields.get? [("n", FilterValue.list [.integer 9007199254740993])] "n" =
      some (.list [.integer 9007199254740993]) := rfl
  have hexact := runStages_exact [] hintegers hvalue "en"
  have hmembership := runStages_membership [] hintegers hlist List.mem_cons_self
    (List.forall_mem_singleton.2 ⟨_, .integer _⟩) "en"
  rw [List.filter_eq_self.2 (by decide +kernel)] at hexact hmembership
  refine ⟨hexact, hmembership, (runStages_sortBy (List.cons_ne_nil _ _)).trans (congrArg Except.ok ?_)⟩
  refine List.mergeSort_of_pairwise (List.pairwise_pair.2 ?_)
  decide +kernel

end Database

end Catalogue
