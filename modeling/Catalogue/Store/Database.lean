import Catalogue.Page.Pipeline
import Catalogue.Store.Lookup
import Catalogue.Store.Match
import Catalogue.Store.Projection

set_option autoImplicit false

namespace Catalogue

abbrev Database := Fields (List Document)

namespace Database

def collection (db : Database) (name : String) : List Document := (Fields.get? db name).getD []

def insert (db : Database) (name : String) (docs : List Document) : Database :=
  Fields.put db name (db.collection name ++ docs)

def argument (op : String) : Value → Except StageError Document
  | .document d => .ok d
  | _ => .error (.notDocument op)

def count (op : String) (v : Value) : Except StageError Nat :=
  match v.toInt? with
  | some n => if 0 ≤ n then .ok n.toNat else .error (.notCount op)
  | none => .error (.notCount op)

def sortBy (keys : Document) (docs : List Document) : List Document :=
  docs.mergeSort fun a b => Document.compareBy keys a b != .gt

def runPlain (db : Database) (docs : List Document) (op : String) (arg : Value) :
    Except StageError (List Document) :=
  if op = "$match" then do
    let predicate ← argument op arg
    docs.filterM (Store.isMatch · predicate)
  else if op = "$sort" then do
    let keys ← argument op arg
    if keys.isEmpty then .error .noSortKey else pure (sortBy keys docs)
  else if op = "$project" then do
    let spec ← argument op arg
    if spec.isEmpty then .error .noProjection else pure (docs.map (Document.project spec))
  else if op = "$skip" then do pure (docs.drop (← count op arg))
  else if op = "$limit" then do pure (docs.take (← count op arg))
  else if op = "$count" then
    match arg with
    | .string name =>
      .ok (if docs.isEmpty then [] else [[(name, .int32 (Int32.ofNat docs.length))]])
    | _ => .error .noCountField
  else if op = "$graphLookup" then do
    let spec ← argument op arg
    docs.mapM fun d => do
      let spec ← Store.LookupSpec.ofDocument spec
      pure (spec.extend (db.collection spec.source) d)
  else .error (.unsupportedStage op)

def isDocument : Value → Bool
  | .document _ => true
  | _ => false

mutual

def runStage (db : Database) (docs : List Document) (op : String) (arg : Value) :
    Except StageError (List Document) :=
  if op = "$facet" then
    match arg with
    | .document facets => (runFacets db docs facets).map ([·])
    | _ => .error (.notDocument op)
  else runPlain db docs op arg
termination_by structural arg

def runFacets (db : Database) (docs : List Document) :
    List (String × Value) → Except StageError Document
  | [] => .ok []
  | (name, .array stages) :: rest => do
    let answer ← if stages.all isDocument then runStages db docs stages else .error (.notDocument "$facet")
    let others ← runFacets db docs rest
    pure ((name, .array (answer.map .document)) :: others)
  | (name, _) :: _ => .error (.facetNotArray name)
termination_by structural facets => facets

def runStages (db : Database) (docs : List Document) : List Value → Except StageError (List Document)
  | [] => .ok docs
  | .document ((op, arg) :: _) :: rest => do
    let docs ← runStage db docs op arg
    runStages db docs rest
  | _ :: _ => .error .emptyStage
termination_by structural stages => stages

end

def aggregate (db : Database) (name : String) (p : Pipeline) : Except StageError (List Document) :=
  runStages db (db.collection name) (p.map .document)

end Database

end Catalogue
