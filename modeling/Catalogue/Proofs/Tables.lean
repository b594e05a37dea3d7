import Catalogue.Filter.Decode
import Catalogue.Proofs.Json.Entries
import Catalogue.Proofs.Merging
import Catalogue.Sort.Spec

set_option autoImplicit false

namespace Catalogue

/-! ### What an entry stands for -/

namespace RuleDefinition

variable {declared : RuleDefinition} {field : String} {rule : FilterRule} {e : Failure}

/-- The rule of each kind. The mark tells the two rules on texts apart, and means nothing for the other kinds. -/
inductive Declares : RuleDefinition → FilterRule → Prop
  | exact (aware : Bool) : Declares ⟨"exact", aware⟩ .exact
  | membership (aware : Bool) : Declares ⟨"array", aware⟩ .membership
  | substring : Declares ⟨"string", false⟩ .substring
  | languageSubstring : Declares ⟨"string", true⟩ .languageSubstring
  | dateRange (aware : Bool) : Declares ⟨"dateRange", aware⟩ .dateRange

theorem ofKind?_eq_some_iff :
    FilterRule.ofKind? declared.kind declared.languageAware = some rule ↔ declared.Declares rule := by
  constructor
  · obtain ⟨kind, aware⟩ := declared
    intro h
    simp only [FilterRule.ofKind?] at h
    split_ifs at h with hexact harray hstring haware hrange <;> cases h
    · subst hexact
      exact .exact aware
    · subst harray
      exact .membership aware
    · subst hstring haware
      exact .languageSubstring
    · subst hstring
      cases aware with
      | false => exact .substring
      | true => exact absurd rfl haware
    · subst hrange
      exact .dateRange aware
  · intro h
    cases h <;> rfl

theorem rule_eq_ok_iff : declared.rule field = .ok rule ↔ declared.Declares rule := by
  rw [← ofKind?_eq_some_iff, RuleDefinition.rule]
  cases FilterRule.ofKind? declared.kind declared.languageAware <;> simp

theorem rule_eq_error_iff : declared.rule field = .error e ↔
    (¬∃ rule, declared.Declares rule) ∧ e = .unknownRuleKind field declared.kind := by
  simp only [← ofKind?_eq_some_iff, RuleDefinition.rule]
  cases FilterRule.ofKind? declared.kind declared.languageAware <;> simp [eq_comm]

end RuleDefinition

namespace Direction.Request

variable {request : Request} {field : String} {direction : Direction} {e : Failure}

inductive Asks : Request → Direction → Prop
  | asc : Asks (word "asc") ascending
  | desc : Asks (word "desc") descending
  | one : Asks (number 1) ascending
  | minusOne : Asks (number (-1)) descending

theorem direction?_eq_some_iff : request.direction? = some direction ↔ request.Asks direction := by
  constructor
  · intro h
    cases request with
    | number n =>
      simp only [direction?] at h
      split_ifs at h with hone hminus <;> cases h
      · subst hone
        exact .one
      · subst hminus
        exact .minusOne
    | word s =>
      simp only [direction?] at h
      split_ifs at h with hasc hdesc <;> cases h
      · subst hasc
        exact .asc
      · subst hdesc
        exact .desc
  · intro h
    cases h <;> rfl

theorem direction_eq_ok_iff : request.direction field = .ok direction ↔ request.Asks direction := by
  rw [← direction?_eq_some_iff, Request.direction]
  cases request.direction? <;> simp

theorem direction_eq_error_iff : request.direction field = .error e ↔
    (¬∃ direction, request.Asks direction) ∧ e = .invalidSortDirection field request.text := by
  simp only [← direction?_eq_some_iff, Request.direction]
  cases request.direction? <;> simp [eq_comm]

end Direction.Request

/-! ### Tables and orderings -/

namespace RuleTable

theorem ofDefinitions_eq_build (definitions : List (String × RuleDefinition)) :
    ofDefinitions definitions = Fields.build (fun field d => d.rule field) definitions := rfl

theorem builtFrom_ofDefinitions (definitions : List (String × RuleDefinition)) :
    Fields.BuiltFrom RuleDefinition.Declares (fun field d => Failure.unknownRuleKind field d.kind) definitions
      (ofDefinitions definitions) := by
  rw [ofDefinitions_eq_build]
  refine Fields.builtFrom_build ?_ ?_ definitions
  · exact fun _ _ _ => RuleDefinition.rule_eq_ok_iff
  · exact fun _ _ _ => RuleDefinition.rule_eq_error_iff

theorem makesOfEntries_read : Json.MakesOfEntries RuleDefinition.decode ofDefinitions read where
  eq_of_holds text definitions h := by
    rw [read, decodeDefinitions, (Json.decodeText_decodeEntries_iff _).2 h]
    rfl
  holds_of_ok text table h := by
    rw [read] at h
    cases hdecode : Json.decodeText decodeDefinitions text with
    | error e =>
      rw [hdecode] at h
      cases h
    | ok definitions => exact ⟨definitions, (Json.decodeText_decodeEntries_iff _).1 hdecode⟩

end RuleTable

namespace SortSpec

inductive Addition
  | ascending (field : String)
  | descending (field : String)
  | thenBy (field : String) (direction : Direction)

namespace Addition

def apply : Addition → SortSpec → SortSpec
  | ascending field, s => s.ascending field
  | descending field, s => s.descending field
  | thenBy field direction, s => s.thenBy field direction

def entry : Addition → String × Direction
  | ascending field => (field, .ascending)
  | descending field => (field, .descending)
  | thenBy field direction => (field, direction)

theorem apply_eq_put (addition : Addition) (s : SortSpec) :
    addition.apply s = Fields.put s addition.entry.1 addition.entry.2 := by
  cases addition <;> rfl

theorem foldl_apply (additions : List Addition) (s : SortSpec) :
    additions.foldl (fun s addition => addition.apply s) s =
      (additions.map entry).foldl (fun s e => Fields.put s e.1 e.2) s := by
  simp only [List.foldl_map, apply_eq_put]

end Addition

theorem ofRequests_eq_build (requests : List (String × Direction.Request)) :
    ofRequests requests = Fields.build (fun field q => q.direction field) requests := rfl

theorem builtFrom_ofRequests (requests : List (String × Direction.Request)) :
    Fields.BuiltFrom Direction.Request.Asks (fun field q => Failure.invalidSortDirection field q.text) requests
      (ofRequests requests) := by
  rw [ofRequests_eq_build]
  refine Fields.builtFrom_build ?_ ?_ requests
  · exact fun _ _ _ => Direction.Request.direction_eq_ok_iff
  · exact fun _ _ _ => Direction.Request.direction_eq_error_iff

/-- The orderings that there are: each is made of entries, and fields may have been added to it. -/
inductive IsBuilt : SortSpec → Prop
  | made {requests : List (String × Direction.Request)} {s : SortSpec} (h : ofRequests requests = .ok s) : IsBuilt s
  | added {s : SortSpec} (h : IsBuilt s) (addition : Addition) : IsBuilt (addition.apply s)

theorem IsBuilt.names_nodup {s : SortSpec} (h : s.IsBuilt) : (Fields.names s).Nodup := by
  induction h with
  | @made requests s h => exact ((builtFrom_ofRequests requests).merges s h).names_nodup
  | added _ addition ih =>
    rw [Addition.apply_eq_put]
    exact Fields.names_put_nodup _ _ ih

theorem toDocument_eq_map {s : SortSpec} (h : (Fields.names s).Nodup) :
    s.toDocument = s.map fun e => (e.1, Value.int32 e.2.sign) := by
  refine Fields.ofList_eq_self_iff.2 ?_
  simpa [Fields.names, List.map_map, Function.comp_def] using h

theorem IsBuilt.toDocument_orDefault {s default : SortSpec} (hs : s.IsBuilt) (hdefault : default.IsBuilt) :
    (s.orDefault default).toDocument =
      (if s = [] then default else s).map fun e => (e.1, Value.int32 e.2.sign) := by
  cases s with
  | nil => exact toDocument_eq_map hdefault.names_nodup
  | cons e rest => exact toDocument_eq_map hs.names_nodup

end SortSpec

/-- Rule tables and orderings are made of entries just if each entry stands for something, and otherwise the first one
that does not is reported. Each field has the place where it comes first and the value that comes last, also where the
fields are declared or added one at a time, and the argument of a sort stage has the same fields in the same order. -/
theorem tables_of_entries :
    (∀ definitions, Fields.BuiltFrom RuleDefinition.Declares (fun field d => Failure.unknownRuleKind field d.kind)
      definitions (RuleTable.ofDefinitions definitions)) ∧
    (∀ requests, Fields.BuiltFrom Direction.Request.Asks (fun field q => Failure.invalidSortDirection field q.text)
      requests (SortSpec.ofRequests requests)) ∧
    (∀ (t : RuleTable) (rules : List (String × FilterRule)), (Fields.names t).Nodup →
      Fields.Merges Eq (t ++ rules) (rules.foldl (fun t e => RuleTable.declare t e.1 e.2) t)) ∧
    (∀ (s : SortSpec) (additions : List SortSpec.Addition), (Fields.names s).Nodup →
      Fields.Merges Eq (s ++ additions.map (·.entry)) (additions.foldl (fun s addition => addition.apply s) s)) ∧
    (∀ s default : SortSpec, s.IsBuilt → default.IsBuilt → (s.orDefault default).toDocument =
      (if s = [] then default else s).map fun e => (e.1, Value.int32 e.2.sign)) ∧
    Json.MakesOfEntries RuleDefinition.decode RuleTable.ofDefinitions RuleTable.read ∧
    Json.MakesOfEntries RuleDefinition.decode
      (fun definitions => (RuleTable.ofDefinitions definitions).mapError Failure.toJsonError)
      (Json.decodeText RuleTable.decode) ∧
    Json.MakesOfEntries Direction.Request.decode
      (fun requests => (SortSpec.ofRequests requests).mapError Failure.toJsonError)
      (Json.decodeText SortSpec.decode) := by
  refine ⟨RuleTable.builtFrom_ofDefinitions, SortSpec.builtFrom_ofRequests,
    fun t rules ht => Fields.merges_foldl_put ht rules, fun s additions hs => ?_,
    fun _ _ hs hdefault => hs.toDocument_orDefault hdefault, RuleTable.makesOfEntries_read,
    Json.makesOfEntries_decodeText _ _ _, Json.makesOfEntries_decodeText _ _ _⟩
  rw [SortSpec.Addition.foldl_apply]
  exact Fields.merges_foldl_put hs _

/-- A field of each text comes again. The table takes its later rule, and the ordering is refused for its earlier
direction, which is none. The total that is asked for twice leads the ordering, and descends. -/
theorem tables_of_repeated_entries :
    RuleTable.read (Json.write (.object
        [("name", .string "string"), ("tags", .string "array"), ("name", .string "exact")])) =
      .ok [("name", .exact), ("tags", .membership)] ∧
    Json.decodeText SortSpec.decode (Json.write (.object
        [("total", .string "up"), ("name", .string "asc"), ("total", .string "desc")])) =
      .error (.refused "invalid sort direction for field 'total': up") ∧
    Fields.Merges Eq [("name", .exact), ("tags", .membership), ("name", .substring)]
      [("name", FilterRule.substring), ("tags", .membership)] ∧
    Fields.Merges Eq [("total", .ascending), ("name", .ascending), ("total", .descending)]
      [("total", Direction.descending), ("name", .ascending)] ∧
    SortSpec.IsBuilt [("total", .descending), ("name", .ascending)] ∧
    (SortSpec.orDefault [("total", .descending), ("name", .ascending)] []).toDocument =
      [("total", .int32 (-1)), ("name", .int32 1)] := by
  obtain ⟨-, -, hdeclared, hadded, hdocument, hrules, -, hsort⟩ := tables_of_entries
  have hdefinitions : List.Forall₂ (fun f e => f.1 = e.1 ∧ RuleDefinition.decode (.string f.2) = .ok e.2)
      [("name", "string"), ("tags", "array"), ("name", "exact")]
      [("name", ⟨"string", false⟩), ("tags", ⟨"array", false⟩), ("name", ⟨"exact", false⟩)] :=
    .cons ⟨rfl, rfl⟩ (.cons ⟨rfl, rfl⟩ (.cons ⟨rfl, rfl⟩ .nil))
  have hrequests : List.Forall₂ (fun f e => f.1 = e.1 ∧ Direction.Request.decode (.string f.2) = .ok e.2)
      [("total", "up"), ("name", "asc"), ("total", "desc")]
      [("total", .word "up"), ("name", .word "asc"), ("total", .word "desc")] :=
    .cons ⟨rfl, rfl⟩ (.cons ⟨rfl, rfl⟩ (.cons ⟨rfl, rfl⟩ .nil))
  have hok : SortSpec.ofRequests [("total", .number 1), ("name", .word "asc"), ("total", .number (-1))] =
      .ok [("total", .descending), ("name", .ascending)] := rfl
  have hnone : SortSpec.ofRequests [] = .ok [] := rfl
  refine ⟨(hrules.eq_of_holds _ _ (Json.holdsEntries_write hdefinitions)).trans rfl,
    (hsort.eq_of_holds _ _ (Json.holdsEntries_write hrequests)).trans rfl, ?_, ?_, .made hok,
    hdocument _ _ (.made hok) (.made hnone)⟩
  · exact hdeclared [("name", .exact), ("tags", .membership)] [("name", .substring)] (by decide)
  · exact hadded [] [.ascending "total", .thenBy "name" .ascending, .descending "total"] (by decide)

end Catalogue
