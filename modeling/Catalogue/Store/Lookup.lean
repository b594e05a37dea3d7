import Catalogue.Document.Text
import Catalogue.Failure
import Catalogue.Store.Order

/-!
Transitive lookup: from a document's start value on, all documents of a collection that are reached by
links. A link goes from a value to the documents that hold it in one field, and on with the values of
another field. Documents are told apart by the text of their ids, so each is found once, in the first
round that reaches it.
-/

set_option autoImplicit false

namespace Catalogue.Store

structure LookupSpec where
  source : String
  start : String
  connectFrom : String
  connectTo : String
  target : String
  depthField : Option String

namespace LookupSpec

def text (spec : Document) (key : String) : Except StageError String :=
  match (Fields.get? spec key).bind Value.asString? with
  | some s => .ok s
  | none => .error (.lookupMissing key)

def ofDocument (spec : Document) : Except StageError LookupSpec := do
  let source ← text spec "from"
  let start ← text spec "startWith"
  let connectFrom ← text spec "connectFromField"
  let connectTo ← text spec "connectToField"
  let target ← text spec "as"
  match start.toList with
  | '$' :: path =>
    pure { source, connectFrom, connectTo, target
           start := String.ofList path
           depthField := (Fields.get? spec "depthField").bind Value.asString? }
  | _ => .error .startNotPath

def key (d : Document) : String := ((Fields.get? d "_id").map Value.text).getD ""

def isLinked (spec : LookupSpec) (values : List Value) (d : Document) : Bool :=
  (Document.lookup d spec.connectTo).any fun v => values.any (·.equal v)

/-- The linked documents that were not seen before, in order of the collection. -/
def hits (spec : LookupSpec) (values : List Value) : List String → List Document → List Document
  | _, [] => []
  | seen, d :: ds =>
    if spec.isLinked values d && !seen.contains (key d) then d :: spec.hits values (key d :: seen) ds
    else spec.hits values seen ds

def annotate (spec : LookupSpec) (depth : Nat) (d : Document) : Document :=
  match spec.depthField with
  | some name => Fields.put d name (.int64 (Int64.ofNat depth))
  | none => d

/-- The documents found from round `depth` on. Each round but the last finds a document that was not
seen before. -/
def reach (spec : LookupSpec) (source : List Document) :
    Nat → Nat → List Value → List String → List Document
  | 0, _, _, _ => []
  | fuel + 1, depth, values, seen =>
    if values.isEmpty then []
    else
      let found := spec.hits values seen source
      found.map (spec.annotate depth) ++
        spec.reach source fuel (depth + 1)
          (found.filterMap (Document.lookup · spec.connectFrom)) (seen ++ found.map key)

def extend (spec : LookupSpec) (source : List Document) (d : Document) : Document :=
  let found := spec.reach source (source.length + 1) 0 (Document.lookup d spec.start).toList []
  Fields.put d spec.target (.array (found.map .document))

end LookupSpec

end Catalogue.Store
