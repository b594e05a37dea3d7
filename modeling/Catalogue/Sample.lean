import Catalogue.Document.Text

set_option autoImplicit false

namespace Catalogue

namespace Sample

def orderId (n : Nat) : String :=
  let digits := toString n
  "order-" ++ String.ofList (List.replicate (3 - digits.length) '0') ++ digits

def order (n : Nat) : Document :=
  [("_id", .string (orderId n)), ("number", .int64 (Int64.ofNat n)),
    ("status", .string (if n % 2 = 0 then "open" else "paid")), ("total", .int64 (Int64.ofNat (n * 10)))]

def orders (count : Nat) : List Document := (List.range count).map order

end Sample

structure SampleCategory where
  id : String
  names : Document
  parent : Option String := none
  priority : Int64 := 0

namespace SampleCategory

def ofName (id name : String) : SampleCategory := { id, names := [("en", .string name)] }

def withName (c : SampleCategory) (language name : String) : SampleCategory :=
  { c with names := Fields.put c.names language (.string name) }

def childOf (c parent : SampleCategory) : SampleCategory := { c with parent := some parent.id }

def toDocument (c : SampleCategory) : Document :=
  [("_id", .string c.id), ("names", .document c.names),
    ("parent", (c.parent.map Value.string).getD .null), ("priority", .int64 c.priority)]

end SampleCategory

namespace Document

def fieldText (d : Document) (name : String) : String :=
  match Fields.get? d name with
  | some (.string s) => s
  | some v => v.text
  | none => ""

def haveNames (docs : List Document) (names : List String) : Bool :=
  docs.all fun d => Fields.names d == names

end Document

end Catalogue
