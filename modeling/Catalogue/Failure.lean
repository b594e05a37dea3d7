import Catalogue.Document.Text
import Catalogue.Filter.Rule
import Catalogue.Filter.Value
import Catalogue.Json.Decode

set_option autoImplicit false

namespace Catalogue

inductive StageError
  | emptyStage
  | unsupportedStage (op : String)
  | notDocument (op : String)
  | noSortKey
  | noProjection
  | notCount (op : String)
  | noCountField
  | facetNotArray (name : String)
  | lookupMissing (key : String)
  | startNotPath
  | membersNotArray
  | patternNotString
  | badPattern
  | unsupportedOperator (op : String)
deriving DecidableEq, Repr

namespace StageError

def message : StageError → String
  | emptyStage => "empty stage"
  | unsupportedStage op => "unsupported stage " ++ op
  | notDocument op => op ++ " argument must be a document"
  | noSortKey => "$sort requires at least one key"
  | noProjection => "$project requires at least one field"
  | notCount op => op ++ " takes a non-negative integer"
  | noCountField => "$count takes a field name"
  | facetNotArray name => "$facet." ++ name ++ " must be an array"
  | lookupMissing key => "$graphLookup." ++ key ++ " missing"
  | startNotPath => "startWith must be a field path"
  | membersNotArray => "$in takes an array"
  | patternNotString => "$regex takes a string"
  | badPattern => "invalid pattern"
  | unsupportedOperator op => "unsupported operator " ++ op

end StageError

inductive StoreError
  | stage (e : StageError)
  | unavailable (message : String)
deriving DecidableEq, Repr

inductive Malformation
  | itemsNotArray (v : Value)
  | itemNotDocument (v : Value)
  | countsNotArray (v : Value)
  | countNotDocument (v : Value)
  | countNotInteger (v : Option Value)
  | negativeCount (n : Int)
  | descendantsNotArray (v : Value)
  | descendantNotDocument (v : Value)

namespace Malformation

def message : Malformation → String
  | itemsNotArray v => "'items' is not an array: " ++ v.text
  | itemNotDocument v => "item is not a document: " ++ v.text
  | countsNotArray v => "'totalCount' is not an array: " ++ v.text
  | countNotDocument v => "count entry is not a document: " ++ v.text
  | countNotInteger v => "count is not an integer: " ++ Value.debugOption v
  | negativeCount n => "negative count " ++ toString n
  | descendantsNotArray v => "'descendants' is not an array: " ++ v.text
  | descendantNotDocument v => "descendant is not a document: " ++ v.text

end Malformation

inductive CategoryFlaw
  | missingId
  | unusableId (v : Value)
  | namesNotDocument (id : String) (v : Value)
  | nameNotString (id language : String) (v : Value)
  | unusableParent (id : String) (v : Value)
  | priorityNotInteger (id : String) (v : Value)

namespace CategoryFlaw

def message : CategoryFlaw → String
  | missingId => "missing id"
  | unusableId v => "unusable id " ++ v.text
  | namesNotDocument id v => "category " ++ id ++ ": names is not a document: " ++ v.text
  | nameNotString id language v =>
    "category " ++ id ++ ": name for '" ++ language ++ "' is not a string: " ++ v.text
  | unusableParent id v => "category " ++ id ++ ": unusable parent " ++ v.text
  | priorityNotInteger id v => "category " ++ id ++ ": priority is not an integer: " ++ v.text

end CategoryFlaw

inductive Failure
  | unknownRuleKind (field kind : String)
  | invalidRuleTable (cause : Json.Error)
  | invalidFilterValue (field : String) (rule : FilterRule) (shape : String)
  | invalidSortDirection (field value : String)
  | malformedResult (what : Malformation)
  | malformedCategory (what : CategoryFlaw)
  | datastore (cause : StoreError)

namespace Failure

def message : Failure → String
  | unknownRuleKind field kind => "unknown filter rule kind '" ++ kind ++ "' for field '" ++ field ++ "'"
  | invalidRuleTable cause => "invalid rule table: " ++ cause.message
  | invalidFilterValue field rule shape =>
    "invalid value for field '" ++ field ++ "': '" ++ rule.kind ++ "' rule cannot use a " ++ shape ++ " value"
  | invalidSortDirection field value => "invalid sort direction for field '" ++ field ++ "': " ++ value
  | malformedResult what => "malformed aggregation result: " ++ what.message
  | malformedCategory what => "malformed category document: " ++ what.message
  | datastore _ => "datastore error"

def toJsonError (f : Failure) : Json.Error := .refused f.message

end Failure

end Catalogue
