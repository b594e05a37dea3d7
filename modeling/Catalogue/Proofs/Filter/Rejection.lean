import Catalogue.Proofs.Filter.Conditions
import Catalogue.Proofs.Steps
import Mathlib.Data.List.Basic

set_option autoImplicit false

namespace Catalogue

def FilterValue.isCompound : FilterValue → Bool
  | list _ | range _ => true
  | _ => false

namespace FilterRule

variable {rule : FilterRule} {field : String} {v : FilterValue} {e : Failure}

def CannotUse : FilterRule → FilterValue → Prop
  | exact, v => v.isCompound = true
  | membership, .list items => ∃ item ∈ items, item.isCompound = true
  | membership, v => v.isCompound = true
  | substring, v | languageSubstring, v => ∀ text, v ≠ .string text
  | dateRange, v => ∀ r, v ≠ .range r

/-- What the report on a value gives the shape of: the first of its members that is no single value, or else the
value itself. -/
def blamed : FilterRule → FilterValue → FilterValue
  | membership, .list items => (items.find? FilterValue.isCompound).getD (.list items)
  | _, v => v

theorem scalar_eq_error_iff :
    rule.scalar field v = .error e ↔ v.isCompound = true ∧ e = rule.mismatch field v := by
  cases v <;> simp [scalar, FilterValue.toValue?, FilterValue.isCompound, eq_comm]

theorem containing_eq_error_iff :
    rule.containing field v = .error e ↔ (∀ text, v ≠ .string text) ∧ e = rule.mismatch field v := by
  cases v <;> simp [containing, eq_comm]

theorem mapM_scalar_eq_error_iff {items : List FilterValue} : items.mapM (rule.scalar field) = .error e ↔
    ∃ item, items.find? FilterValue.isCompound = some item ∧ e = rule.mismatch field item := by
  rw [mapM_eq_error_iff]
  simp only [scalar_eq_error_iff]
  induction items with
  | nil => simp [FailsFirst.not_nil]
  | cons item items ih =>
    rw [FailsFirst.cons_iff, ih, List.find?_cons]
    cases hitem : item.isCompound <;> simp

theorem members_eq_error_iff : members field v = .error e ↔
    membership.CannotUse v ∧ e = membership.mismatch field (membership.blamed v) := by
  cases v with
  | list items =>
    refine mapM_scalar_eq_error_iff.trans ?_
    cases hfind : items.find? FilterValue.isCompound with
    | none =>
      have hno : ¬∃ item ∈ items, item.isCompound = true := by
        rintro ⟨item, hitem, hcompound⟩
        exact List.find?_eq_none.1 hfind item hitem hcompound
      simp [CannotUse, hno]
    | some item =>
      have hbad : ∃ item ∈ items, item.isCompound = true :=
        ⟨item, List.mem_of_find?_eq_some hfind, List.find?_some hfind⟩
      simp [CannotUse, blamed, hbad, hfind]
  | _ =>
    simp [members, bind_eq_error_iff, scalar_eq_error_iff, CannotUse, blamed, FilterValue.isCompound, pure,
      Except.pure]

theorem condition_eq_error_iff : rule.condition field v = .error e ↔
    rule.CannotUse v ∧ e = .invalidFilterValue field rule (rule.blamed v).shape := by
  cases rule with
  | exact => exact scalar_eq_error_iff
  | membership =>
    have hcondition : condition membership field v = (do pure (.document [("$in", .array (← members field v))])) :=
      rfl
    rw [hcondition, bind_eq_error_iff, members_eq_error_iff]
    simp [pure, Except.pure, mismatch]
  | substring => exact containing_eq_error_iff
  | languageSubstring => exact containing_eq_error_iff
  | dateRange => cases v <;> simp [condition, CannotUse, blamed, mismatch, eq_comm]

end FilterRule

namespace FilterSpec

variable {spec other : FilterSpec} {rules : RuleTable} {language : String} {e : Failure}

def IsUnusable (spec : FilterSpec) (declared : String × FilterRule) (v : FilterValue) : Prop :=
  Fields.get? spec declared.1 = some v ∧ v.isEmpty = false ∧ declared.2.CannotUse v

def IsReport (spec : FilterSpec) (declared : String × FilterRule) (e : Failure) : Prop :=
  ∃ v, spec.IsUnusable declared v ∧
    e = .invalidFilterValue declared.1 declared.2 (declared.2.blamed v).shape

def LeavesOpen (spec : FilterSpec) (field : String) : Prop :=
  ∀ v, Fields.get? spec field = some v → v.isEmpty = true

theorem isReport_iff {declared : String × FilterRule} : spec.IsReport declared e ↔
    ∃ c, spec.constraint? declared = some c ∧ c.2.1.condition c.1 c.2.2 = .error e := by
  simp only [constraint?_eq_some_iff, FilterRule.condition_eq_error_iff]
  constructor
  · rintro ⟨v, ⟨hv, hempty, huse⟩, he⟩
    exact ⟨(declared.1, declared.2, v), ⟨rfl, rfl, hv, hempty⟩, huse, he⟩
  · rintro ⟨⟨_, _, v⟩, ⟨rfl, rfl, hv, hempty⟩, huse, he⟩
    exact ⟨v, ⟨hv, hempty, huse⟩, he⟩

theorem predicate_eq_error_iff :
    spec.predicate rules language = .error e ↔ FailsFirst spec.IsReport rules e := by
  rw [predicate, constraining_eq_filterMap, List.foldlM_filterMap]
  refine foldlM_eq_error_iff fun d declared e => ?_
  rw [isReport_iff]
  cases spec.constraint? declared with
  | none => simp [pure, Except.pure]
  | some c =>
    obtain ⟨field, rule, v⟩ := c
    simp [bind_eq_error_iff, pure, Except.pure]

theorem constraint?_eq_of_leavesOpen {declared : String × FilterRule} (h : spec.LeavesOpen declared.1) :
    spec.constraint? declared = none := by
  unfold constraint?
  split
  · next v hv => exact if_pos (h v hv)
  · rfl

theorem constraining_eq_of_agree (h : ∀ declared ∈ rules,
    Fields.get? spec declared.1 = Fields.get? other declared.1 ∨
      spec.LeavesOpen declared.1 ∧ other.LeavesOpen declared.1) :
    spec.constraining rules = other.constraining rules := by
  refine List.filterMap_congr fun declared hdeclared => ?_
  change spec.constraint? declared = other.constraint? declared
  rcases h declared hdeclared with hsame | ⟨hopen, hother⟩
  · rw [constraint?, constraint?, hsame]
  · rw [constraint?_eq_of_leavesOpen hopen, constraint?_eq_of_leavesOpen hother]

/-- Compiling a filter fails just where some declared field has a value that constrains something and that its rule
cannot use, and the first such field in order of the table is reported. Two filters that have the same values for
the declared fields, up to those that constrain nothing, have the same predicate or the same report. -/
theorem predicate_refuses_first (spec : FilterSpec) (rules : RuleTable) (language : String) :
    ((∃ e, spec.predicate rules language = .error e) ↔ ∃ declared ∈ rules, ∃ v, spec.IsUnusable declared v) ∧
    (∀ e, spec.predicate rules language = .error e ↔
      ∃ before field rule after v, rules = before ++ (field, rule) :: after ∧
        (∀ declared ∈ before, ∀ w, ¬spec.IsUnusable declared w) ∧ spec.IsUnusable (field, rule) v ∧
        e = .invalidFilterValue field rule (rule.blamed v).shape) ∧
    ∀ other : FilterSpec,
      (∀ declared ∈ rules, Fields.get? spec declared.1 = Fields.get? other declared.1 ∨
        spec.LeavesOpen declared.1 ∧ other.LeavesOpen declared.1) →
      spec.predicate rules language = other.predicate rules language := by
  have hreports : ∀ declared, (∃ e, spec.IsReport declared e) ↔ ∃ v, spec.IsUnusable declared v := by
    refine fun declared => ⟨?_, fun ⟨v, hv⟩ => ⟨_, v, hv, rfl⟩⟩
    rintro ⟨_, v, hv, -⟩
    exact ⟨v, hv⟩
  refine ⟨?_, fun e => ?_, fun other h => ?_⟩
  · simp only [predicate_eq_error_iff, FailsFirst.exists_iff, hreports]
  · rw [predicate_eq_error_iff]
    constructor
    · rintro ⟨before, ⟨field, rule⟩, after, rfl, hbefore, v, hv, rfl⟩
      exact ⟨before, field, rule, after, v, rfl, fun d hd w hw => hbefore d hd _ ⟨w, hw, rfl⟩, hv, rfl⟩
    · rintro ⟨before, field, rule, after, v, rfl, hbefore, hv, rfl⟩
      exact ⟨before, (field, rule), after, rfl, fun d hd _ ⟨w, hw, _⟩ => hbefore d hd w hw, v, hv, rfl⟩
  · rw [predicate, predicate, constraining_eq_of_agree h]

def unusableFilter : FilterSpec :=
  [("added", .string "lately"), ("owner", .list []), ("price", .list [.integer 5]), ("title", .list [])]

def unusableRules : RuleTable := [("title", .substring), ("price", .exact), ("added", .dateRange)]

theorem predicate_refuses_first_unusableFilter :
    unusableFilter.predicate unusableRules "en" = .error (.invalidFilterValue "price" .exact "list") ∧
    unusableFilter.predicate unusableRules "en" =
      FilterSpec.predicate [("price", .list [.integer 5]), ("added", .string "lately")] unusableRules "en" := by
  obtain ⟨-, herror, hsame⟩ := predicate_refuses_first unusableFilter unusableRules "en"
  constructor
  · refine (herror _).2 ⟨[("title", .substring)], "price", .exact, [("added", .dateRange)], .list [.integer 5], rfl, ?_,
      ⟨rfl, rfl, rfl⟩, rfl⟩
    rintro _ hmem w ⟨hw, hempty, -⟩
    cases List.mem_singleton.1 hmem
    cases hw
    cases hempty
  · refine hsame _ ?_
    simp [unusableRules, unusableFilter, Fields.get?, LeavesOpen, FilterValue.isEmpty]

end FilterSpec

end Catalogue
