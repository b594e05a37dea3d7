import Catalogue.Binary64.Basic
import Catalogue.Document.Decimal
import Catalogue.Fields

set_option autoImplicit false

namespace Catalogue

/-- Twelve bytes as one number below `2 ^ 96`, the first byte leading. -/
structure ObjectId where
  number : Nat
  number_lt : number < 79228162514264337593543950336 := by decide
deriving DecidableEq, Repr

inductive Value
  | null
  | boolean (b : Bool)
  | int32 (n : Int32)
  | int64 (n : Int64)
  | double (x : Binary64)
  | string (s : String)
  | array (items : List Value)
  | document (fields : List (String × Value))
  | objectId (id : ObjectId)
  | date (millis : Int64)
  | timestamp (time increment : UInt32)
  | symbol (s : String)
  | undefined
  | minKey
  | maxKey
  | decimal (x : StoredDecimal)
  | binary (subtype : UInt8) (bytes : List UInt8)
  | code (source : String)
  | scopedCode (source : String) (scope : List (String × Value))
  | regex (pattern options : String)
  | pointer (collection : String) (id : ObjectId)

abbrev Document := Fields Value

namespace ObjectId

def hexChar (n : Nat) : Char := Nat.digitChar (n % 16)

def text (id : ObjectId) : String :=
  String.ofList ((List.range 24).map fun i => hexChar (id.number / Nat.pow 16 (23 - i)))

end ObjectId

namespace Value

def inInt64 (n : Int) : Bool := decide (-9223372036854775808 ≤ n ∧ n < 9223372036854775808)

/-- The integer that a number is: a double counts if it is whole and in the range of 64-bit integers. -/
def toInt? : Value → Option Int
  | int32 n => some n.toInt
  | int64 n => some n.toInt
  | double x =>
    match x.toInt? with
    | some n => if inInt64 n then some n else none
    | none => none
  | _ => none

def asString? : Value → Option String
  | string s => some s
  | _ => none

def asDocument? : Value → Option Document
  | document fields => some fields
  | _ => none

mutual

/-- Equality of values kind by kind, doubles as numbers, documents whatever the order of their fields. -/
def same : Value → Value → Bool
  | null, null => true
  | boolean a, boolean b => a == b
  | int32 a, int32 b => a == b
  | int64 a, int64 b => a == b
  | double a, double b => a.numericEq b
  | string a, string b => a == b
  | array a, array b => sameItems a b
  | document a, document b => a.length == b.length && sameFields a b
  | objectId a, objectId b => a == b
  | date a, date b => a == b
  | timestamp a i, timestamp b j => a == b && i == j
  | symbol a, symbol b => a == b
  | undefined, undefined => true
  | minKey, minKey => true
  | maxKey, maxKey => true
  | decimal a, decimal b => a == b
  | binary s a, binary t b => s == t && a == b
  | code a, code b => a == b
  | scopedCode a s, scopedCode b t => a == b && s.length == t.length && sameFields s t
  | regex a s, regex b t => a == b && s == t
  | pointer a i, pointer b j => a == b && i == j
  | _, _ => false

def sameItems : List Value → List Value → Bool
  | [], [] => true
  | a :: as, b :: bs => same a b && sameItems as bs
  | _, _ => false

def sameFields : List (String × Value) → Document → Bool
  | [], _ => true
  | (k, a) :: rest, d =>
    (match Fields.get? d k with
      | some b => same a b
      | none => false) && sameFields rest d

end

end Value

end Catalogue
