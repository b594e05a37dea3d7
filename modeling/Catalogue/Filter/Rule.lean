import Catalogue.Fields

set_option autoImplicit false

namespace Catalogue

inductive FilterRule
  | exact
  | membership
  | substring
  /-- The entry of the field for the active language contains the text, case aside. -/
  | languageSubstring
  | dateRange
deriving DecidableEq, Repr

namespace FilterRule

def kind : FilterRule → String
  | exact => "exact"
  | membership => "array"
  | substring | languageSubstring => "string"
  | dateRange => "dateRange"

def ofKind? (kind : String) (languageAware : Bool) : Option FilterRule :=
  if kind = "exact" then some exact
  else if kind = "array" then some membership
  else if kind = "string" then some (if languageAware then languageSubstring else substring)
  else if kind = "dateRange" then some dateRange
  else none

end FilterRule

/-- Rules per field, in order of declaration, which is the order of the compiled predicate. -/
abbrev RuleTable := Fields FilterRule

/-- A field that is declared again keeps its place and takes the new rule. -/
def RuleTable.declare (t : RuleTable) (field : String) (rule : FilterRule) : RuleTable := Fields.put t field rule

end Catalogue
