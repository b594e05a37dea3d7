import Catalogue.Document.Basic
import Catalogue.Fields
import Catalogue.Time.Instant

set_option autoImplicit false

namespace Catalogue

structure DateRange where
  lower : Option Instant
  upper : Option Instant
deriving DecidableEq, Repr

namespace DateRange

def since (t : Instant) : DateRange := ⟨some t, none⟩

def upTo (t : Instant) : DateRange := ⟨none, some t⟩

def between (t u : Instant) : DateRange := ⟨some t, some u⟩

def isUnbounded (r : DateRange) : Bool := r.lower.isNone && r.upper.isNone

end DateRange

inductive FilterValue
  | null
  | boolean (b : Bool)
  | integer (n : Int64)
  | double (x : Binary64)
  | string (s : String)
  | list (items : List FilterValue)
  | range (r : DateRange)

namespace FilterValue

/-- Empty values constrain nothing. -/
def isEmpty : FilterValue → Bool
  | null => true
  | string s => s.isEmpty
  | list items => items.isEmpty
  | range r => r.isUnbounded
  | _ => false

def shape : FilterValue → String
  | null => "null"
  | boolean _ => "boolean"
  | integer _ => "integer"
  | double _ => "float"
  | string _ => "string"
  | list _ => "list"
  | range _ => "date range"

mutual

def toValue? : FilterValue → Option Value
  | null => some .null
  | boolean b => some (.boolean b)
  | integer n => some (.int64 n)
  | double x => some (.double x)
  | string s => some (.string s)
  | list items => (toValues? items).map .array
  | range _ => none

def toValues? : List FilterValue → Option (List Value)
  | [] => some []
  | v :: rest => do
    let w ← toValue? v
    let ws ← toValues? rest
    pure (w :: ws)

end

end FilterValue

abbrev FilterSpec := Fields FilterValue

end Catalogue
