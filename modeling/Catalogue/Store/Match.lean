import Catalogue.Failure
import Catalogue.Pattern.Reader
import Catalogue.Store.Order

/-!
Matching documents with predicates. A predicate gives a condition for each path: a document whose fields
are all operators, or else a value to be equal to. Conditions are tried in order up to the first that
fails, so an error behind that one is not met.
-/

set_option autoImplicit false

namespace Catalogue.Store

def isOperator (name : String) : Bool := name.toList.head? == some '$'

def operators? : Value → Option Document
  | .document [] => none
  | .document fields => if fields.all (isOperator ·.1) then some fields else none
  | _ => none

def foldsCase (ops : Document) : Bool :=
  match Fields.get? ops "$options" with
  | some (.string s) => s.toList.contains 'i'
  | _ => false

/-- The value has the rank of `arg` and an order to it that `accepts` accepts. -/
def compares (accepts : Ordering → Bool) (v : Option Value) (arg : Value) : Bool :=
  v.any fun v => v.rank == arg.rank && accepts (Value.compareOption (some v) (some arg))

/-- Whether the value at a path, if there is one, satisfies an operator, which stands among `ops`. -/
def satisfies (ops : Document) (v : Option Value) (op : String) (arg : Value) : Except StageError Bool :=
  if op = "$in" then
    match arg with
    | .array options => .ok (v.any fun v => options.any (v.equal ·))
    | _ => .error .membersNotArray
  else if op = "$regex" then
    match arg with
    | .string s =>
      match Pattern.read? (foldsCase ops) s.toList with
      | none => .error .badPattern
      | some p => .ok ((v.bind Value.asString?).any fun s => p.occursIn s.toList)
    | _ => .error .patternNotString
  else if op = "$options" then .ok true
  else if op = "$eq" then .ok (v.any (·.equal arg))
  else if op = "$ne" then .ok (!v.any (·.equal arg))
  else if op = "$gt" then .ok (compares Ordering.isGT v arg)
  else if op = "$gte" then .ok (compares Ordering.isGE v arg)
  else if op = "$lt" then .ok (compares Ordering.isLT v arg)
  else if op = "$lte" then .ok (compares Ordering.isLE v arg)
  else .error (.unsupportedOperator op)

def equalsOption (v : Option Value) (c : Value) : Bool :=
  match v, c with
  | none, .null => true
  | none, _ => false
  | some v, c => v.equal c

def meets (v : Option Value) (condition : Value) : Except StageError Bool :=
  match operators? condition with
  | some ops => ops.allM fun (op, arg) => satisfies ops v op arg
  | none => .ok (equalsOption v condition)

def isMatch (d : Document) (predicate : Document) : Except StageError Bool :=
  predicate.allM fun (path, condition) => meets (Document.lookup d path) condition

end Catalogue.Store
