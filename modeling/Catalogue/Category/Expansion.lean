import Catalogue.Category.Graph
import Catalogue.Failure
import Catalogue.Page.Pipeline

set_option autoImplicit false

namespace Catalogue.Expansion

def descendantsField : String := "descendants"

def rootsPredicate : Document := [("parent", .null)]

def pipeline (collection : String) (predicate : Document) : Pipeline :=
  [ [("$match", .document predicate)],
    [("$graphLookup", .document [
      ("from", .string collection),
      ("startWith", .string "$_id"),
      ("connectFromField", .string "_id"),
      ("connectToField", .string "parent"),
      ("as", .string descendantsField),
      ("depthField", .string "depth")])] ]

def readDescendant : Value → Except Failure Category
  | .document d => Category.ofDocument d
  | v => .error (.malformedResult (.descendantNotDocument v))

def readDescendants (row : Document) : Except Failure (List Category) :=
  match Category.optionalField row descendantsField with
  | none => .ok []
  | some (.array items) => items.mapM readDescendant
  | some v => .error (.malformedResult (.descendantsNotArray v))

def readRow (row : Document) : Except Failure (Category × List Category) := do
  let root ← Category.ofDocument row
  let below ← readDescendants row
  pure (root, below)

def expand (rows : List Document) : Except Failure (List Placed) := do
  let members ← rows.mapM readRow
  pure (members.flatMap fun (root, below) => (Graph.ofList (root :: below)).descendants root.id)

def graph (rows : List Document) : Except Failure Graph := do
  let members ← rows.mapM readRow
  pure (Graph.ofList (members.flatMap fun (root, below) => root :: below))

end Catalogue.Expansion
