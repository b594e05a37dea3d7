import Catalogue.Document.Basic

set_option autoImplicit false

namespace Catalogue

def Value.isTruthy : Value → Bool
  | .boolean b => b
  | v => v.toInt?.any (· != 0)

namespace Document

/-- A projection drops fields if, the id aside, it keeps none. -/
def isExclusion (spec : Document) : Bool := spec.all fun e => e.1 == "_id" || !e.2.isTruthy

def keepsId (spec : Document) : Bool := (Fields.get? spec "_id").all Value.isTruthy

/-- A document as a projection leaves it: kept fields stand in order of the projection, after the id. -/
def project (spec d : Document) : Document :=
  if isExclusion spec then
    spec.foldl (fun out e => if e.2.isTruthy then out else Fields.erase out e.1) d
  else
    let id := if keepsId spec then (Fields.get? d "_id").toList.map (("_id", ·)) else []
    spec.foldl
      (fun out e =>
        if e.1 = "_id" ∨ e.2.isTruthy = false then out
        else
          match Fields.get? d e.1 with
          | some v => Fields.put out e.1 v
          | none => out)
      id

end Document

end Catalogue
