import Catalogue.Filter.Predicate
import Catalogue.Proofs.Fields
import Catalogue.Proofs.Steps

set_option autoImplicit false

namespace Catalogue

/-! ### What a value becomes -/

namespace FilterValue

variable {v : FilterValue} {w : Value}

/-- The stored form of a value that is neither a list nor a range. -/
inductive IsStoredAs : FilterValue → Value → Prop
  | null : IsStoredAs .null .null
  | boolean (b : Bool) : IsStoredAs (.boolean b) (.boolean b)
  | integer (n : Int64) : IsStoredAs (.integer n) (.int64 n)
  | double (x : Binary64) : IsStoredAs (.double x) (.double x)
  | string (s : String) : IsStoredAs (.string s) (.string s)

end FilterValue

namespace FilterRule

variable {rule : FilterRule} {field : String} {v : FilterValue} {w : Value}

open FilterValue (IsStoredAs)

def literal (text : String) : Document :=
  [("$regex", .string (String.ofList (Pattern.escape text.toList))), ("$options", .string "i")]

inductive Asks : FilterRule → FilterValue → Value → Prop
  | equal {v : FilterValue} {w : Value} (h : v.IsStoredAs w) : Asks exact v w
  | oneOf {items : List FilterValue} {ws : List Value} (h : List.Forall₂ IsStoredAs items ws) :
      Asks membership (.list items) (.document [("$in", .array ws)])
  | only {v : FilterValue} {w : Value} (h : v.IsStoredAs w) : Asks membership v (.document [("$in", .array [w])])
  | contains (text : String) : Asks substring (.string text) (.document (literal text))
  | languageContains (text : String) : Asks languageSubstring (.string text) (.document (literal text))
  | within (r : DateRange) : Asks dateRange (.range r) (.document (bounds r))

theorem scalar_eq_ok_iff : rule.scalar field v = .ok w ↔ v.IsStoredAs w := by
  constructor
  · intro h
    cases v <;> simp only [scalar, FilterValue.toValue?] at h <;> cases h <;> constructor
  · intro h
    cases h <;> rfl

theorem members_eq_ok_iff {ws : List Value} : members field v = .ok ws ↔
    (∃ items, v = .list items ∧ List.Forall₂ IsStoredAs items ws) ∨ ∃ w, v.IsStoredAs w ∧ ws = [w] := by
  by_cases hlist : ∃ items, v = .list items
  · obtain ⟨items, rfl⟩ := hlist
    have hmembers : members field (.list items) = items.mapM (membership.scalar field) := rfl
    rw [hmembers, mapM_eq_ok_iff]
    simp only [scalar_eq_ok_iff]
    constructor
    · exact fun h => Or.inl ⟨items, rfl, h⟩
    · rintro (⟨_, he, h⟩ | ⟨_, hw, _⟩)
      · cases he
        exact h
      · cases hw
  · have hmembers : members field v = (do pure [← membership.scalar field v]) := by
      cases v with
      | list items => exact absurd ⟨items, rfl⟩ hlist
      | _ => rfl
    rw [hmembers, bind_eq_ok_iff]
    simp only [scalar_eq_ok_iff]
    constructor
    · rintro ⟨w, hw, h⟩
      exact Or.inr ⟨w, hw, (Except.ok.inj h).symm⟩
    · rintro (⟨items, he, _⟩ | ⟨w, hw, rfl⟩)
      · exact absurd ⟨items, he⟩ hlist
      · exact ⟨w, hw, rfl⟩

theorem containing_eq_ok_iff :
    rule.containing field v = .ok w ↔ ∃ text, v = .string text ∧ w = .document (literal text) := by
  cases v with
  | string text =>
    constructor
    · exact fun h => ⟨text, rfl, (Except.ok.inj h).symm⟩
    · rintro ⟨_, he, rfl⟩
      cases he
      rfl
  | _ => simp [containing]

theorem condition_eq_ok_iff : rule.condition field v = .ok w ↔ rule.Asks v w := by
  cases rule with
  | exact =>
    refine scalar_eq_ok_iff.trans ⟨.equal, fun h => ?_⟩
    cases h with
    | equal h => exact h
  | membership =>
    have hcondition : condition membership field v = (do pure (.document [("$in", .array (← members field v))])) :=
      rfl
    rw [hcondition, bind_eq_ok_iff]
    simp only [members_eq_ok_iff]
    constructor
    · rintro ⟨ws, ⟨items, rfl, h⟩ | ⟨w, h, rfl⟩, he⟩
      · exact Except.ok.inj he ▸ .oneOf h
      · exact Except.ok.inj he ▸ .only h
    · rintro (_ | h | h)
      · exact ⟨_, Or.inl ⟨_, rfl, h⟩, rfl⟩
      · exact ⟨_, Or.inr ⟨_, h, rfl⟩, rfl⟩
  | substring =>
    refine containing_eq_ok_iff.trans ⟨?_, fun h => ?_⟩
    · rintro ⟨text, rfl, rfl⟩
      exact .contains text
    · cases h with
      | contains text => exact ⟨text, rfl, rfl⟩
  | languageSubstring =>
    refine containing_eq_ok_iff.trans ⟨?_, fun h => ?_⟩
    · rintro ⟨text, rfl, rfl⟩
      exact .languageContains text
    · cases h with
      | languageContains text => exact ⟨text, rfl, rfl⟩
  | dateRange =>
    constructor
    · intro h
      cases v with
      | range r => exact Except.ok.inj h ▸ .within r
      | _ => cases h
    · intro h
      cases h with
      | within r => rfl

/-- An entry of a predicate, as a rule writes it for the value of a field. -/
def IsEntry (language : String) (c : String × FilterRule × FilterValue) (e : String × Value) : Prop :=
  e.1 = c.2.1.path language c.1 ∧ c.2.1.Asks c.2.2 e.2

end FilterRule

/-! ### What a filter becomes -/

namespace FilterSpec

variable {spec : FilterSpec} {rules : RuleTable} {language : String} {predicate : Document}

def constraint? (spec : FilterSpec) (e : String × FilterRule) : Option (String × FilterRule × FilterValue) :=
  match Fields.get? spec e.1 with
  | some v => if v.isEmpty then none else some (e.1, e.2, v)
  | none => none

theorem constraint?_eq_some_iff {e : String × FilterRule} {c : String × FilterRule × FilterValue} :
    spec.constraint? e = some c ↔
      c.1 = e.1 ∧ c.2.1 = e.2 ∧ Fields.get? spec e.1 = some c.2.2 ∧ c.2.2.isEmpty = false := by
  obtain ⟨field, rule, v⟩ := c
  unfold constraint?
  constructor
  · intro h
    split at h
    · next w hw =>
      split at h
      · cases h
      · next hempty =>
        cases h
        exact ⟨rfl, rfl, hw, Bool.eq_false_iff.2 hempty⟩
    · cases h
  · rintro ⟨rfl, rfl, hv, hempty⟩
    simp [hv, hempty]

theorem constraining_eq_filterMap (spec : FilterSpec) (rules : RuleTable) :
    spec.constraining rules = rules.filterMap spec.constraint? := rfl

theorem mem_constraining_iff {field : String} {rule : FilterRule} {v : FilterValue} :
    (field, rule, v) ∈ spec.constraining rules ↔
      (field, rule) ∈ rules ∧ Fields.get? spec field = some v ∧ v.isEmpty = false := by
  rw [constraining_eq_filterMap, List.mem_filterMap]
  simp only [constraint?_eq_some_iff]
  constructor
  · rintro ⟨_, he, rfl, rfl, hv, hempty⟩
    exact ⟨he, hv, hempty⟩
  · rintro ⟨he, hv, hempty⟩
    exact ⟨_, he, rfl, rfl, hv, hempty⟩

theorem predicate_eq_ok_iff : spec.predicate rules language = .ok predicate ↔
    ∃ entries, List.Forall₂ (FilterRule.IsEntry language) (spec.constraining rules) entries ∧
      Fields.ofList entries = predicate := by
  refine foldlM_eq_ok_iff (fun (d : Document) (e : String × Value) => Fields.put d e.1 e.2) ?_
  rintro d ⟨field, rule, v⟩ t
  dsimp only
  rw [bind_eq_ok_iff]
  constructor
  · rintro ⟨w, hw, h⟩
    exact ⟨(rule.path language field, w), ⟨rfl, FilterRule.condition_eq_ok_iff.1 hw⟩, Except.ok.inj h⟩
  · rintro ⟨⟨_, w⟩, ⟨rfl, hw⟩, rfl⟩
    exact ⟨w, FilterRule.condition_eq_ok_iff.2 hw, rfl⟩

theorem predicate_singleton {field : String} {rule : FilterRule} {v : FilterValue} {w : Value}
    (h : Fields.get? spec field = some v) (hempty : v.isEmpty = false) (hasks : rule.Asks v w) (language : String) :
    spec.predicate [(field, rule)] language = .ok [(rule.path language field, w)] := by
  have hconstraining : spec.constraining [(field, rule)] = [(field, rule, v)] := by
    simp [constraining, h, hempty]
  refine predicate_eq_ok_iff.2 ⟨[(rule.path language field, w)], ?_, rfl⟩
  rw [hconstraining]
  exact .cons ⟨rfl, hasks⟩ .nil

theorem exists_of_mem_predicate (h : spec.predicate rules language = .ok predicate) {e : String × Value}
    (he : e ∈ predicate) : ∃ c ∈ spec.constraining rules, FilterRule.IsEntry language c e := by
  obtain ⟨entries, hentries, rfl⟩ := predicate_eq_ok_iff.1 h
  exact exists_left_of_forall₂ hentries (Fields.mem_of_mem_ofList he)

end FilterSpec

/-! ### What stands in a predicate -/

inductive Value.IsScalar : Value → Prop
  | boolean (b : Bool) : IsScalar (.boolean b)
  | int64 (n : Int64) : IsScalar (.int64 n)
  | double (x : Binary64) : IsScalar (.double x)
  | string (s : String) : IsScalar (.string s)

/-- The forms of a condition. Operators are always the same few, and under them stand scalars and dates only. -/
inductive Value.IsCondition : Value → Prop
  | scalar {w : Value} (h : w.IsScalar) : IsCondition w
  | members {ws : List Value} (h : ∀ w ∈ ws, w = .null ∨ w.IsScalar) : IsCondition (.document [("$in", .array ws)])
  | pattern (text : String) : IsCondition (.document [("$regex", .string text), ("$options", .string "i")])
  | since (t : Int64) : IsCondition (.document [("$gte", .date t)])
  | upTo (t : Int64) : IsCondition (.document [("$lte", .date t)])
  | between (t u : Int64) : IsCondition (.document [("$gte", .date t), ("$lte", .date u)])

theorem FilterValue.IsStoredAs.null_or_isScalar {v : FilterValue} {w : Value} (h : v.IsStoredAs w) :
    w = .null ∨ w.IsScalar := by
  cases h with
  | null => exact Or.inl rfl
  | boolean b => exact Or.inr (.boolean b)
  | integer n => exact Or.inr (.int64 n)
  | double x => exact Or.inr (.double x)
  | string s => exact Or.inr (.string s)

theorem FilterValue.IsStoredAs.isScalar {v : FilterValue} {w : Value} (h : v.IsStoredAs w)
    (hempty : v.isEmpty = false) : w.IsScalar := by
  rcases h.null_or_isScalar with rfl | hscalar
  · cases h
    cases hempty
  · exact hscalar

theorem FilterRule.isCondition_bounds {r : DateRange} (h : r.isUnbounded = false) :
    Value.IsCondition (.document (bounds r)) := by
  obtain ⟨lower, upper⟩ := r
  cases lower with
  | none =>
    cases upper with
    | none => cases h
    | some u => exact .upTo _
  | some t =>
    cases upper with
    | none => exact .since _
    | some u => exact .between _ _

theorem FilterRule.Asks.isCondition {rule : FilterRule} {v : FilterValue} {w : Value} (h : rule.Asks v w)
    (hempty : v.isEmpty = false) : w.IsCondition := by
  cases h with
  | equal h => exact .scalar (h.isScalar hempty)
  | oneOf h =>
    refine .members fun w hw => ?_
    obtain ⟨_, _, hstored⟩ := exists_left_of_forall₂ h hw
    exact hstored.null_or_isScalar
  | only h =>
    refine .members fun w hw => ?_
    rw [List.mem_singleton.1 hw]
    exact h.null_or_isScalar
  | contains text => exact .pattern _
  | languageContains text => exact .pattern _
  | within r => exact FilterRule.isCondition_bounds hempty

/-- Whatever a request holds, a predicate names declared fields only, and its conditions have the forms that the
rules give them. -/
theorem FilterSpec.conditions_of_predicate {spec : FilterSpec} {rules : RuleTable} {language : String}
    {predicate : Document} (h : spec.predicate rules language = .ok predicate) : ∀ e ∈ predicate,
      ((∃ rule, rule ≠ .languageSubstring ∧ (e.1, rule) ∈ rules) ∨
        ∃ field, (field, .languageSubstring) ∈ rules ∧ e.1 = field ++ "." ++ language) ∧
      e.2.IsCondition := by
  intro e he
  obtain ⟨⟨field, rule, v⟩, hconstraining, hpath, hasks⟩ := exists_of_mem_predicate h he
  obtain ⟨hrule, _, hempty⟩ := mem_constraining_iff.1 hconstraining
  refine ⟨?_, FilterRule.Asks.isCondition hasks hempty⟩
  cases rule with
  | languageSubstring => exact Or.inr ⟨field, hrule, hpath⟩
  | exact => exact Or.inl ⟨.exact, nofun, hpath ▸ hrule⟩
  | membership => exact Or.inl ⟨.membership, nofun, hpath ▸ hrule⟩
  | substring => exact Or.inl ⟨.substring, nofun, hpath ▸ hrule⟩
  | dateRange => exact Or.inl ⟨.dateRange, nofun, hpath ▸ hrule⟩

def operatorFilter : FilterSpec :=
  [("title", .string "$where"), ("$or", .list [.list [.string "$ne"], .integer 1]),
    ("tags", .list [.string "$in", .null, .integer 7]), ("open", .boolean true),
    ("note", .string "(.*)"), ("added", .range (.since ⟨1706659200, 0⟩))]

def operatorRules : RuleTable :=
  [("title", .languageSubstring), ("tags", .membership), ("added", .dateRange), ("open", .exact),
    ("note", .substring)]

def operatorPredicate : Document :=
  [("title.en", .document [("$regex", .string "\\$where"), ("$options", .string "i")]),
    ("tags", .document [("$in", .array [.string "$in", .null, .int64 7])]),
    ("added", .document [("$gte", .date 1706659200000)]), ("open", .boolean true),
    ("note", .document [("$regex", .string "\\(\\.\\*\\)"), ("$options", .string "i")])]

theorem FilterSpec.conditions_of_operatorFilter :
    operatorFilter.predicate operatorRules "en" = .ok operatorPredicate ∧
    ∀ e ∈ operatorPredicate, e.2.IsCondition := by
  have hok : operatorFilter.predicate operatorRules "en" = .ok operatorPredicate := rfl
  exact ⟨hok, fun e he => (conditions_of_predicate hok e he).2⟩

end Catalogue
