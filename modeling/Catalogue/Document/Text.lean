import Catalogue.Base64
import Catalogue.Binary64.Shortest
import Catalogue.Document.Basic
import Catalogue.Json.Basic
import Catalogue.Time.Instant
import Catalogue.Unicode.Printable

set_option autoImplicit false

namespace Catalogue.Value

/-- A date with its time in universal time, the hour without a leading zero and the fraction without
trailing ones. Beyond the years of four digits the milliseconds stand for themselves. -/
def dateText (millis : Int64) : String :=
  let t := Instant.ofMillis millis.toInt
  let d := t.day
  if d.year < -9999 ∨ 9999 < d.year then toString millis.toInt
  else
    let s := t.secondOfDay
    let sign := if d.year < 0 then ['-'] else []
    let ms := t.nanos / 1000000
    let fraction :=
      if ms % 10 ≠ 0 then Instant.padded 3 ms
      else if ms % 100 ≠ 0 then Instant.padded 2 (ms / 10)
      else Instant.padded 1 (ms / 100)
    String.ofList (sign ++ Instant.padded 4 d.year.natAbs ++ '-' :: Instant.twoDigits d.month ++
      '-' :: Instant.twoDigits d.day ++ ' ' :: Nat.toDigits 10 (s / 3600) ++
      ':' :: Instant.twoDigits (s / 60 % 60) ++ ':' :: Instant.twoDigits (s % 60) ++
      '.' :: fraction) ++ " +00:00:00"

def byteText (b : UInt8) : List Char :=
  [ObjectId.hexChar (b.toNat / 16), ObjectId.hexChar b.toNat]

def binaryText (subtype : UInt8) (bytes : List UInt8) : String :=
  "Binary(0x" ++ String.ofList (Nat.toDigits 16 subtype.toNat) ++ ", " ++
    String.ofList (Base64.encode bytes) ++ ")"

mutual

/-- The text of a value in messages. Strings are not escaped. -/
def text : Value → String
  | null => "null"
  | boolean b => if b then "true" else "false"
  | int32 n => toString n.toInt
  | int64 n => toString n.toInt
  | double x => x.write .message
  | string s => "\"" ++ s ++ "\""
  | array items => "[" ++ textItems items ++ "]"
  | document fields => textDocument fields
  | objectId id => "ObjectId(\"" ++ id.text ++ "\")"
  | date millis => "DateTime(\"" ++ dateText millis ++ "\")"
  | timestamp t i => "Timestamp(" ++ toString t.toNat ++ ", " ++ toString i.toNat ++ ")"
  | symbol s => "Symbol(\"" ++ s ++ "\")"
  | undefined => "undefined"
  | minKey => "MinKey"
  | maxKey => "MaxKey"
  | decimal x => x.text
  | binary subtype bytes => binaryText subtype bytes
  | code source => source
  | scopedCode source _ => source
  | regex pattern options => "/" ++ pattern ++ "/" ++ options
  | pointer collection id => "DbPointer(" ++ collection ++ ", " ++ id.text ++ ")"

def textDocument : List (String × Value) → String
  | [] => "\x7b\x7d"
  | (k, v) :: rest => "\x7b \"" ++ k ++ "\": " ++ text v ++ textFields rest

def textItems : List Value → String
  | [] => ""
  | [v] => text v
  | v :: rest => text v ++ ", " ++ textItems rest

def textFields : List (String × Value) → String
  | [] => " \x7d"
  | (k, v) :: rest => ", \"" ++ k ++ "\": " ++ text v ++ textFields rest

end

mutual

def debugText : Value → String
  | null => "Null"
  | boolean b => "Boolean(" ++ (if b then "true" else "false") ++ ")"
  | int32 n => "Int32(" ++ toString n.toInt ++ ")"
  | int64 n => "Int64(" ++ toString n.toInt ++ ")"
  | double x => "Double(" ++ x.write .debug ++ ")"
  | string s => "String(" ++ Unicode.quoted s ++ ")"
  | array items => "Array([" ++ debugItems items ++ "])"
  | document fields => "Document(\x7b" ++ debugFields fields ++ "\x7d)"
  | objectId id => "ObjectId(\"" ++ id.text ++ "\")"
  | date millis => "DateTime(" ++ dateText millis ++ ")"
  | timestamp t i =>
    "Timestamp \x7b time: " ++ toString t.toNat ++ ", increment: " ++ toString i.toNat ++ " \x7d"
  | symbol s => "Symbol(" ++ Unicode.quoted s ++ ")"
  | undefined => "Undefined"
  | minKey => "MinKey"
  | maxKey => "MaxKey"
  | decimal x => "Decimal128(" ++ x.text ++ ")"
  | binary subtype bytes => binaryText subtype bytes
  | code source => "JavaScriptCode(" ++ Unicode.quoted source ++ ")"
  | scopedCode source scope =>
    "JavaScriptCodeWithScope \x7b code: " ++ Unicode.quoted source ++ ", scope: Document(\x7b" ++
      debugFields scope ++ "\x7d) \x7d"
  | regex pattern options =>
    "Regex \x7b pattern: " ++ Unicode.quoted pattern ++ ", options: " ++ Unicode.quoted options ++ " \x7d"
  | pointer collection id =>
    "DbPointer \x7b namespace: " ++ Unicode.quoted collection ++ ", id: ObjectId(\"" ++ id.text ++ "\") \x7d"

def debugItems : List Value → String
  | [] => ""
  | [v] => debugText v
  | v :: rest => debugText v ++ ", " ++ debugItems rest

def debugFields : List (String × Value) → String
  | [] => ""
  | [(k, v)] => Unicode.quoted k ++ ": " ++ debugText v
  | (k, v) :: rest => Unicode.quoted k ++ ": " ++ debugText v ++ ", " ++ debugFields rest

end

def debugOption : Option Value → String
  | none => "None"
  | some v => "Some(" ++ debugText v ++ ")"

mutual

/-- The JSON form: numbers are plain, bytes of no special kind are numbers, and other kinds are objects with
marked fields. -/
def toJson : Value → Json
  | null => .null
  | boolean b => .boolean b
  | int32 n => .integer n.toInt
  | int64 n => .integer n.toInt
  | double x => .double x
  | string s => .string s
  | array items => .array (itemsToJson items)
  | document fields => .object (fieldsToJson fields)
  | objectId id => .object [("$oid", .string id.text)]
  | date millis =>
    .object [("$date", .object [("$numberLong", .string (String.ofList (Json.integerText millis.toInt)))])]
  | timestamp t i =>
    .object [("$timestamp", .object [("t", .integer t.toNat), ("i", .integer i.toNat)])]
  | symbol s => .object [("$symbol", .string s)]
  | undefined => .object [("$undefined", .boolean true)]
  | minKey => .object [("$minKey", .integer 1)]
  | maxKey => .object [("$maxKey", .integer 1)]
  | decimal x => .object [("$numberDecimal", .string x.text)]
  | binary subtype bytes =>
    if subtype = 0 then .array (bytes.map fun b => .integer b.toNat)
    else
      .object [("$binary", .object
        [("base64", .string (String.ofList (Base64.encode bytes))),
          ("subType", .string (String.ofList (byteText subtype)))])]
  | code source => .object [("$code", .string source)]
  | scopedCode source scope =>
    .object [("$code", .string source), ("$scope", .object (fieldsToJson scope))]
  | regex pattern options =>
    .object [("$regularExpression", .object [("pattern", .string pattern), ("options", .string options)])]
  | pointer collection id =>
    .object [("$dbPointer", .object
      [("$ref", .string collection), ("$id", .object [("$oid", .string id.text)])])]

def itemsToJson : List Value → List Json
  | [] => []
  | v :: rest => toJson v :: itemsToJson rest

def fieldsToJson : List (String × Value) → List (String × Json)
  | [] => []
  | (k, v) :: rest => (k, toJson v) :: fieldsToJson rest

end

end Catalogue.Value

namespace Catalogue.Document

def toJson (d : Document) : Json := .object (Value.fieldsToJson d)

end Catalogue.Document
