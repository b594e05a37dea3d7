import Catalogue.Binary64.Reading
import Catalogue.Document.Text
import Catalogue.Json.Decode
import Catalogue.Time.Stamp

set_option autoImplicit false

namespace Catalogue.Value

open Json (Reading Error Found)

def refuse (expected : String) (found : String) : Error :=
  .refused ("BSON error. Kind: A deserialization-related error occurred. Message: invalid value: " ++
    found ++ ", expected " ++ expected ++ ".")

def refuseText (expected s : String) : Error := refuse expected (Found.string s).text

/-! ### Numbers -/

def parseInteger? (low high : Int) (s : String) : Option Int :=
  (Digits.integer? s.toList).filter fun n => decide (low ≤ n ∧ n < high)

def parseInt32? (s : String) : Option Int32 :=
  (parseInteger? (-2147483648) 2147483648 s).map Int32.ofInt

def parseInt64? (s : String) : Option Int64 :=
  (parseInteger? (-9223372036854775808) 9223372036854775808 s).map Int64.ofInt

def ofMark {α : Type} (expected : String) (parse : String → Option α) (r : Reading) :
    Except Error α := do
  let s ← Json.decodeString r
  match parse s with
  | some a => .ok a
  | none => .error (.invalidValue (.string s) expected)

def longText : String := "64-bit signed integer as a string"

/-- The end keys are marked by a one. -/
def decodeEndKey (name : String) (value : Value) (r : Reading) : Except Error Value := do
  let n ← Json.decodeInteger 0 256 "u8" r
  if n = 1 then .ok value
  else .error (refuse ("value of " ++ name ++ " should always be 1") (Found.integer n).text)

def decodeUndefined (r : Reading) : Except Error Value := do
  let b ← Json.decodeBoolean r
  if b then .ok .undefined
  else .error (refuse "$undefined should always be true" (Found.boolean b).text)

/-! ### Object ids -/

def parseObjectId? (s : String) : Option ObjectId :=
  let cs := s.toList
  if cs.length = 24 then
    match Digits.hexValue? cs with
    | some n => if h : n < 79228162514264337593543950336 then some ⟨n, h⟩ else none
    | none => none
  else none

def decodeObjectId : Reading → Except Error ObjectId
  | .string s =>
    match parseObjectId? s with
    | some id => .ok id
    | none => .error (.invalidValue (.string s) "24-character, big-endian hex string")
  | r => .error (Json.mismatch "hexstring or byte array" r)

/-- The first byte that is no hexadecimal digit, as the character of its number, and its place. -/
def strangeByte? (bytes : List UInt8) : Option (Char × Nat) :=
  (bytes.map fun b => Char.ofNat b.toNat).zipIdx.find? fun e => (Digits.hex? e.1).isNone

def objectIdFlaw (s : String) : Error :=
  let bytes := s.toUTF8.toList
  let length := "invalid hex string length " ++ toString bytes.length
  let reason :=
    if bytes.length % 2 = 1 then length
    else
      match strangeByte? bytes with
      | some (c, i) =>
        "invalid character '" ++ String.ofList [c] ++ "' encountered at index " ++ toString i
      | none => length
  .refused ("BSON error. Kind: An ObjectId-related error occurred: " ++ reason ++ ".")

/-! ### Records -/

structure TimestampFields where
  time : Option UInt32
  increment : Option UInt32

def timestampRecord : Json.Record TimestampFields where
  title := "TimestampBody"
  fields := ["t", "i"]
  strict := true
  optional _ := false
  blank := ⟨none, none⟩
  holds name s := if name = "t" then s.time.isSome else s.increment.isSome
  take name r s := do
    let n ← Json.decodeUInt32 r
    pure (if name = "t" then { s with time := some n } else { s with increment := some n })

def decodeTimestamp (r : Reading) : Except Error Value := do
  let s ← timestampRecord.decode r
  pure (.timestamp (← Json.required "t" s.time) (← Json.required "i" s.increment))

def pairRecord {α β : Type} (title first second : String) (decodeFirst : Json.Decoder α)
    (decodeSecond : Json.Decoder β) : Json.Record (Option α × Option β) where
  title := title
  fields := [first, second]
  strict := true
  optional _ := false
  blank := (none, none)
  holds name s := if name = first then s.1.isSome else s.2.isSome
  take name r s := do
    if name = first then pure (some (← decodeFirst r), s.2)
    else pure (s.1, some (← decodeSecond r))

def decodePair {α β : Type} (title first second : String) (decodeFirst : Json.Decoder α)
    (decodeSecond : Json.Decoder β) (r : Reading) : Except Error (α × β) := do
  let (a, b) ← (pairRecord title first second decodeFirst decodeSecond).decode r
  pure (← Json.required first a, ← Json.required second b)

def textRecord (title name : String) : Json.Record (Option String) where
  title := title
  fields := [name]
  strict := true
  optional _ := false
  blank := none
  holds _ s := s.isSome
  take _ r _ := (Json.decodeString r).map some

def decodeNamedText (title name : String) (r : Reading) : Except Error String := do
  Json.required name (← (textRecord title name).decode r)

/-! ### Bytes -/

def hexBytes? : List Char → Option (List UInt8)
  | [] => some []
  | [_] => none
  | a :: b :: rest => do
    let a ← Digits.hex? a
    let b ← Digits.hex? b
    let bytes ← hexBytes? rest
    some (UInt8.ofNat (a * 16 + b) :: bytes)

def decodeBinary (r : Reading) : Except Error Value := do
  let (content, subtype) ←
    decodePair "BinaryBody" "base64" "subType" Json.decodeString Json.decodeString r
  match Base64.decode? content.toList, hexBytes? subtype.toList with
  | none, _ => .error (refuseText "base64 encoded bytes" content)
  | _, none => .error (refuseText "hexadecimal number as a string" subtype)
  | some bytes, some [b] => .ok (.binary b bytes)
  | _, _ => .error (refuse "one byte subtype" "byte array")

/-- The sixteen bytes of a unique id: plain digits, or groups of them between hyphens, which may stand in
braces or behind the name of their kind. -/
def uuidBytes? (s : String) : Option (List UInt8) :=
  let grouped (cs : List Char) : Option (List UInt8) :=
    let isHyphen (e : Char × Nat) : Bool := e.2 == 8 || e.2 == 13 || e.2 == 18 || e.2 == 23
    if cs.length = 36 ∧ cs.zipIdx.all (fun e => !isHyphen e || e.1 == '-') then
      hexBytes? ((cs.zipIdx.filter (!isHyphen ·)).map (·.1))
    else none
  let cs := s.toList
  if cs.length = 32 then hexBytes? cs
  else if cs.length = 38 ∧ cs.head? = some '\x7b' ∧ cs.getLast? = some '\x7d' then
    grouped (cs.drop 1).dropLast
  else if cs.length = 45 ∧ "urn:uuid:".toList.isPrefixOf cs then grouped (cs.drop 9)
  else grouped cs

def decodeUuid (r : Reading) : Except Error Value := do
  let s ← Json.decodeString r
  match uuidBytes? s with
  | some bytes => .ok (.binary 4 bytes)
  | none =>
    .error (refuseText "$uuid value does not follow RFC 4122 format regarding length and hyphens" s)

/-! ### Patterns and pointers -/

def decodeRegex (r : Reading) : Except Error Value := do
  let (pattern, options) ←
    decodePair "RegexBody" "pattern" "options" Json.decodeString Json.decodeString r
  .ok (.regex pattern (String.ofList (options.toList.mergeSort (fun a b => decide (a ≤ b)))))

def decodePointer (r : Reading) : Except Error Value := do
  let (collection, id) ←
    decodePair "DbPointerBody" "$ref" "$id" Json.decodeString (decodeNamedText "ObjectId" "$oid") r
  match parseObjectId? id with
  | some id => .ok (.pointer collection id)
  | none => .error (objectIdFlaw id)

/-! ### Dates -/

def ofLongText (s : String) : Except Error Value :=
  match parseInt64? s with
  | some n => .ok (.date n)
  | none => .error (refuseText "i64 as a string" s)

/-- A date is marked by its milliseconds, as a number or as a marked text, or by its date and time. -/
def decodeDate (r : Reading) : Except Error Value := do
  match ← Json.decodeWhole r with
  | .integer n => if inInt64 n then .ok (.date (Int64.ofInt n)) else .error noDate
  | .string s =>
    match Stamp.millis? s.toList with
    | some n => .ok (.date (Int64.ofInt n))
    | none => .error (refuseText "rfc3339 formatted utc datetime" s)
  | .object [(.named "$numberLong", .string s)] none => ofLongText s
  | .array [.string s] none => ofLongText s
  | _ => .error noDate
where
  noDate : Error := .noVariant "DateTimeBody"

def ofMarked? (name : String) (r : Reading) : Option (Except Error Value) :=
  match name with
  | "$oid" => some ((decodeObjectId r).map objectId)
  | "$symbol" => some ((Json.decodeString r).map symbol)
  | "$numberInt" => some ((ofMark "32-bit signed integer as a string" parseInt32? r).map int32)
  | "$numberLong" => some ((ofMark longText parseInt64? r).map int64)
  | "$numberDouble" => some ((ofMark longText Binary64.parse? r).map double)
  | "$numberDecimal" => some ((ofMark "decimal128 as a string" StoredDecimal.parse? r).map decimal)
  | "$binary" => some (decodeBinary r)
  | "$uuid" => some (decodeUuid r)
  | "$regularExpression" => some (decodeRegex r)
  | "$dbPointer" => some (decodePointer r)
  | "$timestamp" => some (decodeTimestamp r)
  | "$date" => some (decodeDate r)
  | "$undefined" => some (decodeUndefined r)
  | "$minKey" => some (decodeEndKey name .minKey r)
  | "$maxKey" => some (decodeEndKey name .maxKey r)
  | _ => none

end Catalogue.Value
