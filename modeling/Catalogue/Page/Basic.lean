import Catalogue.Document.Text
import Catalogue.Failure
import Catalogue.Page.Window

set_option autoImplicit false

namespace Catalogue

structure Page where
  items : List Document
  total : Nat
  number : Nat
  perPage : Nat
  totalPages : Nat
  hasNext : Bool
  hasPrevious : Bool

namespace Page

/-- Page numbers and sizes go no further. -/
def numberCap : Nat := 4294967295

def ofWindow (items : List Document) (total : Nat) : Window → Page
  | .all =>
    { items, total
      number := 1
      perPage := min total numberCap
      totalPages := if total = 0 then 0 else 1
      hasNext := false
      hasPrevious := false }
  | .page current size _ =>
    let totalPages := min ((total + size.toNat - 1) / size.toNat) numberCap
    { items, total, totalPages
      number := current.toNat
      perPage := size.toNat
      hasNext := decide (current.toNat < totalPages)
      hasPrevious := decide (1 < current.toNat) }

def empty (w : Window) : Page := ofWindow [] 0 w

def readItem : Value → Except Failure Document
  | .document d => .ok d
  | v => .error (.malformedResult (.itemNotDocument v))

def readItems (answer : Document) : Except Failure (List Document) :=
  match Fields.get? answer "items" with
  | none => .ok []
  | some (.array items) => items.mapM readItem
  | some v => .error (.malformedResult (.itemsNotArray v))

def readCount (d : Document) : Except Failure Nat :=
  let count := Fields.get? d "count"
  match count.bind Value.toInt? with
  | none => .error (.malformedResult (.countNotInteger count))
  | some n => if n < 0 then .error (.malformedResult (.negativeCount n)) else .ok n.toNat

def readTotal (answer : Document) : Except Failure Nat :=
  match Fields.get? answer "totalCount" with
  | none | some (.array []) => .ok 0
  | some (.array (.document d :: _)) => readCount d
  | some (.array (v :: _)) => .error (.malformedResult (.countNotDocument v))
  | some v => .error (.malformedResult (.countsNotArray v))

/-- The page in the first document of an answer; an answer without documents is an empty page. -/
def ofAnswer (answer : List Document) (w : Window) : Except Failure Page :=
  match answer with
  | [] => .ok (empty w)
  | d :: _ => do
    let items ← readItems d
    let total ← readTotal d
    pure (ofWindow items total w)

def toJson (p : Page) : Json :=
  .object [
    ("items", .array (p.items.map Document.toJson)),
    ("total", .integer p.total),
    ("page", .integer p.number),
    ("perPage", .integer p.perPage),
    ("totalPages", .integer p.totalPages),
    ("hasNext", .boolean p.hasNext),
    ("hasPrev", .boolean p.hasPrevious)]

end Page

end Catalogue
