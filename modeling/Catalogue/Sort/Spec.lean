import Catalogue.Document.Basic
import Catalogue.Failure
import Catalogue.Json.Decode

set_option autoImplicit false

namespace Catalogue

inductive Direction
  | ascending
  | descending
deriving DecidableEq, Repr

namespace Direction

def sign : Direction → Int32
  | ascending => 1
  | descending => -1

inductive Request
  | number (n : Int)
  | word (s : String)

namespace Request

def text : Request → String
  | number n => toString n
  | word s => s

def decode (r : Json.Reading) : Except Json.Error Request := do
  match ← Json.decodeWhole r with
  | .integer n => if Value.inInt64 n then .ok (number n) else .error (.noVariant "RawDirection")
  | .string s => .ok (word s)
  | _ => .error (.noVariant "RawDirection")

def direction? : Request → Option Direction
  | number n => if n = 1 then some ascending else if n = -1 then some descending else none
  | word s => if s = "asc" then some ascending else if s = "desc" then some descending else none

def direction (field : String) (q : Request) : Except Failure Direction :=
  match q.direction? with
  | some d => .ok d
  | none => .error (.invalidSortDirection field q.text)

end Request

end Direction

abbrev SortSpec := Fields Direction

namespace SortSpec

/-- A field behind the others, or in its place with the new direction if it is there already. -/
def thenBy (s : SortSpec) (field : String) (d : Direction) : SortSpec := Fields.put s field d

def ascending (s : SortSpec) (field : String) : SortSpec := s.thenBy field .ascending

def descending (s : SortSpec) (field : String) : SortSpec := s.thenBy field .descending

/-- The ordering of the requests in order; the first one that is no direction is reported. -/
def ofRequests (entries : List (String × Direction.Request)) : Except Failure SortSpec := do
  let directions ← entries.mapM fun e => do pure (e.1, ← e.2.direction e.1)
  pure (Fields.ofList directions)

def decode (r : Json.Reading) : Except Json.Error SortSpec := do
  let entries ← Json.decodeEntries "a map of field names" Direction.Request.decode r
  (ofRequests entries).mapError Failure.toJsonError

def orDefault (s default : SortSpec) : SortSpec := if s.isEmpty then default else s

def toDocument (s : SortSpec) : Document :=
  Fields.ofList (s.map fun e => (e.1, Value.int32 e.2.sign))

end SortSpec

end Catalogue
