import Catalogue.Proofs.Filter.Conditions
import Catalogue.Store.Match
import Mathlib.Data.List.Nodup

/-!
Which constraints of a filter its predicate keeps. Conditions are put under the places they look at, and the entry
of one field for a language may be the place of another field: of two such constraints the later one is kept, where
the earlier one was put. Without such an overlap all constraints are kept, and a filter with more of them is never
met by more documents.
-/

set_option autoImplicit false

namespace Catalogue.FilterSpec

variable {spec fewer : FilterSpec} {rules : RuleTable} {language : String} {predicate : Document}

/-! ### Places -/

/-- A field is named like the entry of another one for the language, and both are constrained. -/
def HasOverlap (spec : FilterSpec) (rules : RuleTable) (language : String) : Prop :=
  ∃ field text rule v, (field, .languageSubstring, text) ∈ spec.constraining rules ∧
    (field ++ "." ++ language, rule, v) ∈ spec.constraining rules ∧ rule ≠ .languageSubstring

theorem not_hasOverlap_of_undotted (h : ∀ e ∈ rules, '.' ∉ e.1.toList) : ¬spec.HasOverlap rules language := by
  rintro ⟨field, _, rule, _, _, hother, _⟩
  refine h _ (mem_constraining_iff.1 hother).1 ?_
  simp

theorem fields_constraining_nodup (h : (Fields.names rules).Nodup) :
    ((spec.constraining rules).map (·.1)).Nodup := by
  refine List.Nodup.sublist ?_ h
  rw [constraining_eq_filterMap, List.map_filterMap, Fields.names, ← List.filterMap_eq_map]
  refine filterMap_sublist_filterMap rules fun e _ field hfield => ?_
  obtain ⟨c, hc, rfl⟩ := Option.map_eq_some_iff.1 hfield
  exact congrArg some (constraint?_eq_some_iff.1 hc).1.symm

theorem eq_of_field_eq (h : (Fields.names rules).Nodup) {c d : String × FilterRule × FilterValue}
    (hc : c ∈ spec.constraining rules) (hd : d ∈ spec.constraining rules) (heq : c.1 = d.1) : c = d :=
  List.inj_on_of_nodup_map (fields_constraining_nodup h) hc hd heq

theorem path_of_ne {rule : FilterRule} (h : rule ≠ .languageSubstring) (field : String) :
    rule.path language field = field := by
  cases rule with
  | languageSubstring => exact absurd rfl h
  | _ => rfl

theorem hasOverlap_of_path_eq {field field' : String} {rule : FilterRule} {text v : FilterValue}
    (hc : (field, .languageSubstring, text) ∈ spec.constraining rules) (hd : (field', rule, v) ∈ spec.constraining rules)
    (hrule : rule ≠ .languageSubstring)
    (hpath : FilterRule.languageSubstring.path language field = rule.path language field') :
    spec.HasOverlap rules language := by
  rw [path_of_ne hrule] at hpath
  subst hpath
  exact ⟨field, text, rule, v, hc, hd, hrule⟩

theorem paths_nodup_iff (h : (Fields.names rules).Nodup) :
    ((spec.constraining rules).map fun c => c.2.1.path language c.1).Nodup ↔ ¬spec.HasOverlap rules language := by
  rw [List.nodup_map_iff_inj_on (fields_constraining_nodup h).of_map]
  constructor
  · rintro hinj ⟨field, text, rule, v, hc, hd, hrule⟩
    have heq := hinj _ hc _ hd (path_of_ne hrule _).symm
    exact hrule (congrArg (fun c => c.2.1) heq).symm
  · rintro hno ⟨field, rule, v⟩ hc ⟨field', rule', v'⟩ hd hpath
    refine eq_of_field_eq h hc hd ?_
    dsimp only at hpath ⊢
    -- two rules of one kind have distinct places, as their fields are distinct; only one of each kind can clash
    by_cases hrule : rule = .languageSubstring
    · subst hrule
      by_cases hrule' : rule' = .languageSubstring
      · subst hrule'
        exact (String.append_left_inj _).1 ((String.append_left_inj _).1 hpath)
      · exact absurd (hasOverlap_of_path_eq hc hd hrule' hpath) hno
    · by_cases hrule' : rule' = .languageSubstring
      · subst hrule'
        exact absurd (hasOverlap_of_path_eq hd hc hrule hpath.symm) hno
      · rwa [path_of_ne hrule, path_of_ne hrule'] at hpath

theorem names_entries {cs : List (String × FilterRule × FilterValue)} {entries : List (String × Value)}
    (h : List.Forall₂ (FilterRule.IsEntry language) cs entries) :
    Fields.names entries = cs.map fun c => c.2.1.path language c.1 := by
  induction h with
  | nil => rfl
  | cons he _ ih => exact congrArg₂ List.cons he.1 ih

theorem ofList_entries_iff (hrules : (Fields.names rules).Nodup) {entries : List (String × Value)}
    (h : List.Forall₂ (FilterRule.IsEntry language) (spec.constraining rules) entries) :
    Fields.ofList entries = entries ↔ ¬spec.HasOverlap rules language := by
  rw [Fields.ofList_eq_self_iff, names_entries h, paths_nodup_iff hrules]

theorem entries_of_predicate (hrules : (Fields.names rules).Nodup)
    (h : spec.predicate rules language = .ok predicate) (hno : ¬spec.HasOverlap rules language) :
    List.Forall₂ (FilterRule.IsEntry language) (spec.constraining rules) predicate := by
  obtain ⟨entries, hentries, rfl⟩ := predicate_eq_ok_iff.1 h
  rwa [(ofList_entries_iff hrules hentries).2 hno]

/-! ### More and fewer constraints -/

/-- What constrains a declared field in the one filter is in the other one, too. -/
def IsPartOf (fewer spec : FilterSpec) (rules : RuleTable) : Prop :=
  ∀ e ∈ rules, ∀ v, Fields.get? fewer e.1 = some v → v.isEmpty = false → Fields.get? spec e.1 = some v

theorem constraining_sublist (h : fewer.IsPartOf spec rules) :
    (fewer.constraining rules).Sublist (spec.constraining rules) := by
  refine filterMap_sublist_filterMap rules fun e he c hc => ?_
  obtain ⟨hfield, hrule, hv, hempty⟩ := constraint?_eq_some_iff.1 hc
  exact constraint?_eq_some_iff.2 ⟨hfield, hrule, h e he _ hv hempty, hempty⟩

theorem exists_sublist_predicate (hrules : (Fields.names rules).Nodup)
    (h : spec.predicate rules language = .ok predicate) (hno : ¬spec.HasOverlap rules language)
    (hpart : fewer.IsPartOf spec rules) :
    ∃ part, fewer.predicate rules language = .ok part ∧ part.Sublist predicate := by
  have hentries := entries_of_predicate hrules h hno
  obtain ⟨part, hforall, hsub⟩ := exists_sublist_of_forall₂ hentries (constraining_sublist hpart)
  refine ⟨part, predicate_eq_ok_iff.2 ⟨part, hforall, Fields.ofList_eq_self_iff.2 ?_⟩, hsub⟩
  have hnames : (Fields.names predicate).Nodup := by
    rw [names_entries hentries]
    exact (paths_nodup_iff hrules).2 hno
  exact hnames.sublist (hsub.map _)

end Catalogue.FilterSpec

namespace Catalogue

theorem Store.isMatch_of_sublist {d predicate part : Document} (hsub : part.Sublist predicate)
    (h : Store.isMatch d predicate = .ok true) : Store.isMatch d part = .ok true :=
  allM_eq_ok_true_iff.2 fun e he => allM_eq_ok_true_iff.1 h e (hsub.subset he)

namespace FilterSpec

/-- The entries of a predicate are those of its constraints in order of the table, put one after the other. They
are all kept just where none of them has the place of another, and then a filter with a part of the constraints is
met by each document that meets this one. -/
theorem predicate_of_constraints {spec : FilterSpec} {declared : List (String × FilterRule)} {language : String}
    {predicate : Document} (h : spec.predicate (Fields.ofList declared) language = .ok predicate) :
    (∃ entries,
      List.Forall₂ (FilterRule.IsEntry language) (spec.constraining (Fields.ofList declared)) entries ∧
      predicate = Fields.ofList entries ∧
      (predicate = entries ↔ ¬spec.HasOverlap (Fields.ofList declared) language)) ∧
    (¬spec.HasOverlap (Fields.ofList declared) language → ∀ fewer : FilterSpec,
      fewer.IsPartOf spec (Fields.ofList declared) →
      ∃ part, fewer.predicate (Fields.ofList declared) language = .ok part ∧
        ∀ d, Store.isMatch d predicate = .ok true → Store.isMatch d part = .ok true) := by
  have hrules := Fields.names_ofList_nodup declared
  constructor
  · obtain ⟨entries, hentries, rfl⟩ := predicate_eq_ok_iff.1 h
    exact ⟨entries, hentries, rfl, ofList_entries_iff hrules hentries⟩
  · intro hno fewer hpart
    obtain ⟨part, hok, hsub⟩ := exists_sublist_predicate hrules h hno hpart
    exact ⟨part, hok, fun d hd => Store.isMatch_of_sublist hsub hd⟩

def overlapRules : List (String × FilterRule) := [("name", .languageSubstring), ("name.en", .exact)]

def pearFilter : FilterSpec := [("name", .string "pear")]

def overlapFilter : FilterSpec := [("name", .string "pear"), ("name.en", .string "Apple")]

def pearEntry (language : String) : String × Value :=
  ("name" ++ "." ++ language, .document [("$regex", .string "pear"), ("$options", .string "i")])

theorem isPartOf_overlapFilter (rules : RuleTable) : pearFilter.IsPartOf overlapFilter rules := by
  intro e _ v hv _
  obtain ⟨hname, rfl⟩ := Prod.mk.inj (List.mem_singleton.1 (Fields.mem_of_get? hv))
  rw [hname]
  rfl

theorem predicate_of_constraints_overlapFilter :
    overlapFilter.predicate (Fields.ofList overlapRules) "de" =
      .ok [pearEntry "de", ("name.en", .string "Apple")] ∧
    ¬overlapFilter.HasOverlap (Fields.ofList overlapRules) "de" ∧
    ∃ part, pearFilter.predicate (Fields.ofList overlapRules) "de" = .ok part ∧
      ∀ d, Store.isMatch d [pearEntry "de", ("name.en", .string "Apple")] = .ok true →
        Store.isMatch d part = .ok true := by
  have hok : overlapFilter.predicate (Fields.ofList overlapRules) "de" =
      .ok [pearEntry "de", ("name.en", .string "Apple")] := rfl
  have hno : ¬overlapFilter.HasOverlap (Fields.ofList overlapRules) "de" := by
    rw [← paths_nodup_iff (Fields.names_ofList_nodup overlapRules)]
    decide +kernel
  exact ⟨hok, hno, (predicate_of_constraints hok).2 hno pearFilter (isPartOf_overlapFilter _)⟩

theorem constraint_lost_overlapFilter :
    overlapFilter.predicate (Fields.ofList overlapRules) "en" = .ok [("name.en", .string "Apple")] ∧
    ¬List.Forall₂ (FilterRule.IsEntry "en") (overlapFilter.constraining (Fields.ofList overlapRules))
      [("name.en", .string "Apple")] ∧
    pearFilter.IsPartOf overlapFilter (Fields.ofList overlapRules) ∧
    pearFilter.predicate (Fields.ofList overlapRules) "en" = .ok [pearEntry "en"] ∧
    ∃ d, Store.isMatch d [("name.en", .string "Apple")] = .ok true ∧
      Store.isMatch d [pearEntry "en"] = .ok false := by
  refine ⟨rfl, fun h => ?_, isPartOf_overlapFilter _, rfl, [("name", .document [("en", .string "Apple")])], rfl, rfl⟩
  exact absurd h.length_eq (by decide +kernel)

end FilterSpec

end Catalogue
