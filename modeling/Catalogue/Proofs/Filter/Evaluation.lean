import Catalogue.Proofs.Filter.Constraints

set_option autoImplicit false

namespace Catalogue

namespace Pattern

/-- The text, taken literally and regardless of case, is a pattern that can be read. -/
def CompilesLiteral (text : String) : Prop :=
  (Pattern.read? true (Pattern.escape text.toList)).isSome

/-- The pattern that stands for the text, regardless of case, matches somewhere. -/
def FindsLiteral (text s : String) : Prop :=
  ∃ p, Pattern.read? true (Pattern.escape text.toList) = some p ∧ p.occursIn s.toList = true

end Pattern

def FilterValue.listed : FilterValue → List FilterValue
  | .list items => items
  | v => [v]

namespace FilterValue.IsStoredAs

variable {v : FilterValue} {w : Value}

theorem unique {w' : Value} (h : v.IsStoredAs w) (h' : v.IsStoredAs w') : w = w' := by
  cases h <;> cases h' <;> rfl

theorem listed_eq (h : v.IsStoredAs w) : v.listed = [v] := by
  cases h <;> rfl

theorem exists_mem_iff {items : List FilterValue} {ws : List Value} (h : List.Forall₂ IsStoredAs items ws)
    {p : Value → Prop} : (∃ w ∈ ws, p w) ↔ ∃ m ∈ items, ∃ w, m.IsStoredAs w ∧ p w := by
  constructor
  · rintro ⟨w, hw, hp⟩
    obtain ⟨m, hm, hstored⟩ := exists_left_of_forall₂ h hw
    exact ⟨m, hm, w, hstored, hp⟩
  · rintro ⟨m, hm, w, hstored, hp⟩
    obtain ⟨w', hw', hstored'⟩ := exists_right_of_forall₂ h hm
    exact ⟨w, hstored'.unique hstored ▸ hw', hp⟩

end FilterValue.IsStoredAs

namespace FilterRule

/-- What a rule accepts of a document for a value of the request. Dates are milliseconds in 64 bits. -/
def Accepts (rule : FilterRule) (v : FilterValue) (found : Option Value) : Prop :=
  match rule with
  | exact => ∃ x w, found = some x ∧ v.IsStoredAs w ∧ x.equal w = true
  | membership => ∃ x, found = some x ∧ ∃ m ∈ v.listed, ∃ w, m.IsStoredAs w ∧ x.equal w = true
  | substring | languageSubstring =>
    ∃ text s, v = .string text ∧ found = some (.string s) ∧ Pattern.FindsLiteral text s
  | dateRange =>
    ∃ r t, v = .range r ∧ found = some (.date t) ∧ (∀ lower ∈ r.lower, Int64.ofInt lower.millis ≤ t) ∧
      ∀ upper ∈ r.upper, t ≤ Int64.ofInt upper.millis

def found (rule : FilterRule) (language field : String) (d : Document) : Option Value :=
  match rule with
  | languageSubstring => Document.lookup d (field ++ "." ++ language)
  | _ => Fields.get? d field

end FilterRule

/-! ### Operators -/

namespace Store

variable {ops : Document} {x : Option Value}

theorem meets_operators (hne : ops ≠ []) (hops : ops.all (isOperator ·.1) = true) (x : Option Value) :
    meets x (.document ops) = ops.allM fun e => satisfies ops x e.1 e.2 := by
  have hoperators : operators? (.document ops) = some ops := by
    cases ops with
    | nil => exact absurd rfl hne
    | cons e rest => exact if_pos hops
  rw [meets, hoperators]

theorem satisfies_members (ws : List Value) :
    Answers (satisfies ops x "$in" (.array ws)) (∃ y, x = some y ∧ ∃ w ∈ ws, y.equal w = true) := by
  refine .of_eq rfl ?_
  simp [Option.any_eq_true]

theorem satisfies_pattern {text : String} (hfolds : foldsCase ops = true) (h : Pattern.CompilesLiteral text) :
    Answers (satisfies ops x "$regex" (.string (String.ofList (Pattern.escape text.toList))))
      (∃ s, x = some (.string s) ∧ Pattern.FindsLiteral text s) := by
  obtain ⟨p, hp⟩ := Option.isSome_iff_exists.1 h
  have hanswer : satisfies ops x "$regex" (.string (String.ofList (Pattern.escape text.toList))) =
      .ok ((x.bind Value.asString?).any fun s => p.occursIn s.toList) := by
    simp [satisfies, hfolds, hp]
  refine .of_eq hanswer ?_
  simp only [Option.any_eq_true, Option.bind_eq_some_iff, Pattern.FindsLiteral, hp, Option.some.injEq, exists_eq_left']
  constructor
  · rintro ⟨s, ⟨y, rfl, hs⟩, hocc⟩
    cases y <;> cases hs
    exact ⟨s, rfl, hocc⟩
  · rintro ⟨s, rfl, hocc⟩
    exact ⟨s, ⟨_, rfl, rfl⟩, hocc⟩

theorem satisfies_options (arg : Value) : Answers (satisfies ops x "$options" arg) True :=
  .of_eq (b := true) (by simp [satisfies]) (by simp)

theorem compares_date_iff {accepts : Ordering → Bool} {t : Int64} : compares accepts x (.date t) = true ↔
    ∃ m, x = some (.date m) ∧ accepts (compare m.toInt t.toInt) = true := by
  cases x with
  | none => simp [compares]
  | some y =>
    cases y with
    | date m => simp [compares, Value.rank, Value.compareOption, Value.compareContent]
    | _ => simp [compares, Value.rank]

theorem satisfies_lower (t : Int64) :
    Answers (satisfies ops x "$gte" (.date t)) (∃ m, x = some (.date m) ∧ t ≤ m) := by
  have hanswer : satisfies ops x "$gte" (.date t) = .ok (compares Ordering.isGE x (.date t)) := by
    simp [satisfies]
  refine .of_eq hanswer ?_
  simp only [compares_date_iff, Int.isGE_compare, Int64.le_iff_toInt_le]

theorem satisfies_upper (t : Int64) :
    Answers (satisfies ops x "$lte" (.date t)) (∃ m, x = some (.date m) ∧ m ≤ t) := by
  have hanswer : satisfies ops x "$lte" (.date t) = .ok (compares Ordering.isLE x (.date t)) := by
    simp [satisfies]
  refine .of_eq hanswer ?_
  simp only [compares_date_iff, Int.isLE_compare, Int64.le_iff_toInt_le]

end Store

/-! ### Conditions -/

namespace FilterRule

open Store (meets)

variable {rule : FilterRule} {v : FilterValue} {w : Value}

theorem answers_scalar (h : w.IsScalar) (x : Option Value) :
    Answers (meets x w) (∃ y, x = some y ∧ y.equal w = true) := by
  have hanswer : meets x w = .ok (Store.equalsOption x w) := by
    cases h <;> rfl
  refine .of_eq hanswer ?_
  cases x with
  | none => cases h <;> simp [Store.equalsOption]
  | some y => simp [Store.equalsOption]

theorem answers_members (ws : List Value) (x : Option Value) :
    Answers (meets x (.document [("$in", .array ws)])) (∃ y, x = some y ∧ ∃ w ∈ ws, y.equal w = true) := by
  rw [Store.meets_operators (by simp) (by simp [Store.isOperator])]
  exact Answers.congr (Answers.allM_cons (Store.satisfies_members ws) (.allM_nil _)) (by simp)

theorem answers_literal {text : String} (h : Pattern.CompilesLiteral text) (x : Option Value) :
    Answers (meets x (.document (literal text))) (∃ s, x = some (.string s) ∧ Pattern.FindsLiteral text s) := by
  rw [Store.meets_operators (by simp [literal]) (by simp [literal, Store.isOperator])]
  have hfolds : Store.foldsCase (literal text) = true := by
    simp [literal, Store.foldsCase, Fields.get?]
  exact Answers.congr (Answers.allM_cons (Store.satisfies_pattern hfolds h)
    (Answers.allM_cons (Store.satisfies_options _) (.allM_nil _))) (by simp)

theorem answers_bounds {r : DateRange} (h : r.isUnbounded = false) (x : Option Value) :
    Answers (meets x (.document (bounds r)))
      (∃ t, x = some (.date t) ∧ (∀ lower ∈ r.lower, Int64.ofInt lower.millis ≤ t) ∧
        ∀ upper ∈ r.upper, t ≤ Int64.ofInt upper.millis) := by
  obtain ⟨lower, upper⟩ := r
  cases lower with
  | none =>
    cases upper with
    | none => cases h
    | some u =>
      rw [Store.meets_operators (by simp [bounds]) (by simp [bounds, Store.isOperator])]
      exact Answers.congr (Answers.allM_cons (Store.satisfies_upper _) (.allM_nil _)) (by simp)
  | some l =>
    cases upper with
    | none =>
      rw [Store.meets_operators (by simp [bounds]) (by simp [bounds, Store.isOperator])]
      exact Answers.congr (Answers.allM_cons (Store.satisfies_lower _) (.allM_nil _)) (by simp)
    | some u =>
      rw [Store.meets_operators (by simp [bounds]) (by simp [bounds, Store.isOperator])]
      refine Answers.congr (Answers.allM_cons (Store.satisfies_lower _)
        (Answers.allM_cons (Store.satisfies_upper _) (.allM_nil _))) ?_
      constructor
      · rintro ⟨⟨m, rfl, hl⟩, ⟨_, he, hu⟩, _⟩
        cases he
        exact ⟨m, rfl, by simpa using hl, by simpa using hu⟩
      · rintro ⟨m, rfl, hl, hu⟩
        exact ⟨⟨m, rfl, hl l rfl⟩, ⟨m, rfl, hu u rfl⟩, trivial⟩

theorem substring_accepts_iff {text : String} {x : Option Value} :
    substring.Accepts (.string text) x ↔ ∃ s, x = some (.string s) ∧ Pattern.FindsLiteral text s := by
  constructor
  · rintro ⟨_, s, he, hx, hfinds⟩
    cases he
    exact ⟨s, hx, hfinds⟩
  · rintro ⟨s, hx, hfinds⟩
    exact ⟨text, s, rfl, hx, hfinds⟩

theorem dateRange_accepts_iff {r : DateRange} {x : Option Value} :
    dateRange.Accepts (.range r) x ↔ ∃ t, x = some (.date t) ∧
      (∀ lower ∈ r.lower, Int64.ofInt lower.millis ≤ t) ∧ ∀ upper ∈ r.upper, t ≤ Int64.ofInt upper.millis := by
  constructor
  · rintro ⟨_, t, he, hbounds⟩
    cases he
    exact ⟨t, hbounds⟩
  · rintro ⟨t, hbounds⟩
    exact ⟨r, t, rfl, hbounds⟩

theorem Asks.answers (h : rule.Asks v w) (hempty : v.isEmpty = false)
    (htext : ∀ s, v = .string s → Pattern.CompilesLiteral s) (x : Option Value) :
    Answers (meets x w) (rule.Accepts v x) := by
  cases h with
  | equal h =>
    refine (answers_scalar (h.isScalar hempty) x).congr ?_
    constructor
    · rintro ⟨y, rfl, hy⟩
      exact ⟨y, w, rfl, h, hy⟩
    · rintro ⟨y, w', rfl, h', hy⟩
      exact ⟨y, rfl, h.unique h' ▸ hy⟩
  | oneOf h =>
    refine (answers_members _ x).congr (exists_congr fun y => and_congr_right fun _ => ?_)
    exact FilterValue.IsStoredAs.exists_mem_iff h
  | only h =>
    refine (answers_members _ x).congr (exists_congr fun y => and_congr_right fun _ => ?_)
    rw [h.listed_eq]
    exact FilterValue.IsStoredAs.exists_mem_iff (.cons h .nil)
  | contains text => exact (answers_literal (htext text rfl) x).congr substring_accepts_iff.symm
  | languageContains text => exact (answers_literal (htext text rfl) x).congr substring_accepts_iff.symm
  | within r => exact (answers_bounds hempty x).congr dateRange_accepts_iff.symm

end FilterRule

/-! ### Predicates -/

namespace FilterSpec

variable {spec : FilterSpec} {rules : RuleTable} {language : String} {predicate : Document}

theorem answers_of_isEntry (htexts : ∀ field s, (field, FilterValue.string s) ∈ spec → Pattern.CompilesLiteral s)
    {c : String × FilterRule × FilterValue} (hc : c ∈ spec.constraining rules) {e : String × Value}
    (he : FilterRule.IsEntry language c e) (x : Option Value) : Answers (Store.meets x e.2) (c.2.1.Accepts c.2.2 x) := by
  obtain ⟨field, rule, v⟩ := c
  obtain ⟨_, hv, hempty⟩ := mem_constraining_iff.1 hc
  exact FilterRule.Asks.answers he.2 hempty (fun s hs => htexts field s (hs ▸ Fields.mem_of_get? hv)) x

theorem exists_isMatch_eq_ok {spec : FilterSpec} {rules : RuleTable} {language : String}
    {predicate : Document} (h : spec.predicate rules language = .ok predicate)
    (htexts : ∀ field s, (field, FilterValue.string s) ∈ spec → Pattern.CompilesLiteral s) (d : Document) :
    ∃ b, Store.isMatch d predicate = .ok b := by
  refine exists_allM_eq_ok fun e he => ?_
  obtain ⟨c, hc, hentry⟩ := exists_of_mem_predicate h he
  obtain ⟨b, hb, _⟩ := answers_of_isEntry htexts hc hentry (Document.lookup d e.1)
  exact ⟨b, hb⟩

theorem answers_isMatch (hrules : (Fields.names rules).Nodup) (h : spec.predicate rules language = .ok predicate)
    (hno : ¬spec.HasOverlap rules language)
    (htexts : ∀ field s, (field, FilterValue.string s) ∈ spec → Pattern.CompilesLiteral s) (d : Document) :
    Answers (Store.isMatch d predicate) (∀ c ∈ spec.constraining rules,
      c.2.1.Accepts c.2.2 (Document.lookup d (c.2.1.path language c.1))) := by
  have hentries := entries_of_predicate hrules h hno
  have hmem := (List.forall₂_and_left (p := (· ∈ spec.constraining rules)) _ _).2 ⟨fun _ hc => hc, hentries⟩
  refine Answers.allM_of_forall₂ (hmem.imp ?_)
  rintro c e ⟨hc, hentry⟩
  rw [← hentry.1]
  exact answers_of_isEntry htexts hc hentry _

end FilterSpec

theorem FilterRule.lookup_path (rule : FilterRule) (language : String) {field : String} (h : '.' ∉ field.toList)
    (d : Document) : Document.lookup d (rule.path language field) = rule.found language field d := by
  cases rule with
  | languageSubstring => rfl
  | _ => exact Document.lookup_of_not_mem d h

/-- If no field is named by a dotted path, a document meets the predicate of a filter just where each constraint
accepts what the document has for it. -/
theorem FilterSpec.isMatch_iff_accepts {spec : FilterSpec} {declared : List (String × FilterRule)} {language : String}
    {predicate : Document} (hnames : ∀ e ∈ declared, '.' ∉ e.1.toList)
    (h : spec.predicate (Fields.ofList declared) language = .ok predicate)
    (htexts : ∀ field s, (field, FilterValue.string s) ∈ spec → Pattern.CompilesLiteral s) (d : Document) :
    ∃ b, Store.isMatch d predicate = .ok b ∧
      (b = true ↔ ∀ field rule v, (field, rule) ∈ Fields.ofList declared → Fields.get? spec field = some v →
        v.isEmpty = false → rule.Accepts v (rule.found language field d)) := by
  have hundotted : ∀ e ∈ Fields.ofList declared, '.' ∉ e.1.toList :=
    fun e he => hnames e (Fields.mem_of_mem_ofList he)
  refine (answers_isMatch (Fields.names_ofList_nodup declared) h (not_hasOverlap_of_undotted hundotted) htexts
    d).congr ?_
  constructor
  · intro hall field rule v hrule hv hempty
    rw [← FilterRule.lookup_path rule language (hundotted _ hrule)]
    exact hall _ (mem_constraining_iff.2 ⟨hrule, hv, hempty⟩)
  · rintro hall ⟨field, rule, v⟩ hc
    obtain ⟨hrule, hv, hempty⟩ := mem_constraining_iff.1 hc
    rw [FilterRule.lookup_path rule language (hundotted _ hrule)]
    exact hall field rule v hrule hv hempty

def operatorDocument : Document :=
  [("title", .document [("en", .string "Somewhere: $WHERE")]), ("tags", .int32 7), ("open", .boolean true),
    ("note", .string "a (.*) b"), ("added", .date 1706659200000)]

theorem FilterSpec.isMatch_operatorDocument :
    operatorFilter.predicate (Fields.ofList operatorRules) "en" = .ok operatorPredicate ∧
    (∀ field s, (field, FilterValue.string s) ∈ operatorFilter → Pattern.CompilesLiteral s) ∧
    Store.isMatch operatorDocument operatorPredicate = .ok true ∧
    FilterRule.membership.Accepts (.list [.string "$in", .null, .integer 7]) (some (.int32 7)) := by
  have hnames : ∀ e ∈ operatorRules, '.' ∉ e.1.toList := by decide +kernel
  have hok : operatorFilter.predicate (Fields.ofList operatorRules) "en" = .ok operatorPredicate := rfl
  have htexts : ∀ field s, (field, FilterValue.string s) ∈ operatorFilter → Pattern.CompilesLiteral s := by
    intro field s hs
    simp only [operatorFilter, List.mem_cons, Prod.mk.injEq, reduceCtorEq, and_false, FilterValue.string.injEq,
      List.not_mem_nil, or_false, false_or] at hs
    rcases hs with ⟨_, rfl⟩ | ⟨_, rfl⟩ <;> rfl
  obtain ⟨b, hb, hiff⟩ := isMatch_iff_accepts hnames hok htexts operatorDocument
  -- numbers are compared as doubles, which only the kernel evaluates fast enough, and it needs a decidable statement
  have hyes : (Store.isMatch operatorDocument operatorPredicate).toOption = some true := by decide +kernel
  rw [hb] at hyes
  obtain rfl : b = true := Option.some.inj hyes
  exact ⟨hok, htexts, hb, hiff.1 rfl "tags" .membership _ (by decide +kernel) rfl rfl⟩

end Catalogue
