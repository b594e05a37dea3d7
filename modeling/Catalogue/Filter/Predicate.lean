import Catalogue.Failure
import Catalogue.Filter.Rule
import Catalogue.Filter.Value
import Catalogue.Pattern.Literal

set_option autoImplicit false

namespace Catalogue

namespace FilterRule

def mismatch (rule : FilterRule) (field : String) (v : FilterValue) : Failure :=
  .invalidFilterValue field rule v.shape

def scalar (rule : FilterRule) (field : String) (v : FilterValue) : Except Failure Value :=
  match v with
  | .list _ | .range _ => .error (rule.mismatch field v)
  | _ =>
    match v.toValue? with
    | some w => .ok w
    | none => .error (rule.mismatch field v)

def members (field : String) : FilterValue → Except Failure (List Value)
  | .list items => items.mapM (membership.scalar field)
  | v => do pure [← membership.scalar field v]

def containing (rule : FilterRule) (field : String) : FilterValue → Except Failure Value
  | .string s =>
    .ok (.document [("$regex", .string (String.ofList (Pattern.escape s.toList))), ("$options", .string "i")])
  | v => .error (rule.mismatch field v)

def date (t : Instant) : Value := .date (Int64.ofInt t.millis)

def bounds (r : DateRange) : Document :=
  (r.lower.map fun t => ("$gte", date t)).toList ++ (r.upper.map fun t => ("$lte", date t)).toList

def condition (rule : FilterRule) (field : String) (v : FilterValue) : Except Failure Value :=
  match rule with
  | exact => exact.scalar field v
  | membership => do pure (.document [("$in", .array (← members field v))])
  | substring | languageSubstring => rule.containing field v
  | dateRange =>
    match v with
    | .range r => .ok (.document (bounds r))
    | _ => .error (rule.mismatch field v)

def path (rule : FilterRule) (language field : String) : String :=
  match rule with
  | languageSubstring => field ++ "." ++ language
  | _ => field

end FilterRule

namespace FilterSpec

/-- The values that constrain something, with their fields and rules, in order of the table. -/
def constraining (spec : FilterSpec) (rules : RuleTable) : List (String × FilterRule × FilterValue) :=
  rules.filterMap fun (field, rule) =>
    match Fields.get? spec field with
    | some v => if v.isEmpty then none else some (field, rule, v)
    | none => none

def predicate (spec : FilterSpec) (rules : RuleTable) (language : String) : Except Failure Document :=
  (spec.constraining rules).foldlM
    (fun d (field, rule, v) => do
      pure (Fields.put d (rule.path language field) (← rule.condition field v)))
    []

end FilterSpec

end Catalogue
