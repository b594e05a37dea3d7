import Catalogue.Category.Tree
import Catalogue.Json.Decode

set_option autoImplicit false

namespace Catalogue

open Json (Key Reading Error Fault)

namespace Category

structure Parts where
  id : Option String := none
  names : Option Names := none
  parent : Option (Option String) := none
  priority : Option Int64 := none

def decodeNames (r : Reading) : Except Error Names := do
  pure (Names.ofList (← Json.decodeEntries "a map" Json.decodeString r))

def record : Json.Record Parts where
  title := "Category"
  fields := ["id", "names", "parent", "priority"]
  strict := false
  optional name := name != "id"
  blank := {}
  holds name p :=
    match name with
    | "id" => p.id.isSome
    | "names" => p.names.isSome
    | "parent" => p.parent.isSome
    | _ => p.priority.isSome
  take name r p :=
    match name with
    | "id" => do pure { p with id := some (← Json.decodeString r) }
    | "names" => do pure { p with names := some (← decodeNames r) }
    | "parent" => do pure { p with parent := some (← Json.decodeOption Json.decodeString r) }
    | _ => do pure { p with priority := some (← Json.decodeInt64 r) }

def ofParts (p : Parts) : Except Error Category := do
  pure {
    id := ← Json.required "id" p.id
    names := p.names.getD []
    parent := p.parent.join
    priority := p.priority.getD 0 }

def decode (r : Reading) : Except Error Category := do ofParts (← record.decode r)

def decodeList : Json.Decoder (List Category) := Json.decodeList decode

end Category

namespace Tree

/-- A node of its children, if they were given, and its other fields. -/
def close (children : Option (List Tree)) (others : List (Key × Reading)) : Except Error Tree := do
  let ts ← Json.required "children" children
  let p ← Category.record.ofFields others none Category.record.blank
  pure (node (← Category.ofParts p) ts)

def noNode (r : Reading) : Error := Json.mismatch "struct CategoryTreeNode" r

mutual

def decode : Reading → Except Error Tree
  | .object fields stop => decodeFields none [] fields stop
  | r => .error (noNode r)

def decodeFields (children : Option (List Tree)) (others : List (Key × Reading)) :
    List (Key × Reading) → Option Fault → Except Error Tree
  | [], stop => do
    Json.ofFault stop
    close children others
  | (k, r) :: rest, stop => do
    let name ← k.take
    if name = "children" then
      if children.isSome then .error (.duplicateField name)
      else
        let ts ← decodeChildren r
        decodeFields (some ts) others rest stop
    else
      let r ← Json.decodeWhole r
      decodeFields children (others ++ [(.named name, r)]) rest stop

def decodeChildren : Reading → Except Error (List Tree)
  | .array items stop => decodeForest items stop
  | r => .error (Json.mismatch "a sequence" r)

def decodeForest : List Reading → Option Fault → Except Error (List Tree)
  | [], stop => do
    Json.ofFault stop
    pure []
  | r :: rs, stop => do
    let t ← decode r
    let ts ← decodeForest rs stop
    pure (t :: ts)

end

end Tree

end Catalogue
