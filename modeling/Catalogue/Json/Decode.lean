import Catalogue.Json.Basic
import Catalogue.Json.Reader
import Catalogue.Unicode.Printable

set_option autoImplicit false

namespace Catalogue.Json

inductive Found
  | null
  | boolean (b : Bool)
  | integer (n : Int)
  | double (x : Binary64)
  | string (s : String)
  | sequence
  | map

namespace Found

def text : Found → String
  | null => "null"
  | boolean b => "boolean `" ++ (if b then "true" else "false") ++ "`"
  | integer n => "integer `" ++ String.ofList (integerText n) ++ "`"
  | double x => "floating point `" ++ x.write .data ++ "`"
  | string s => "string " ++ Unicode.quoted s
  | sequence => "sequence"
  | map => "map"

end Found

inductive Error
  | fault (f : Fault)
  | invalidType (found : Found) (expected : String)
  | invalidValue (found : Found) (expected : String)
  | invalidLength (n : Nat) (expected : String)
  | missingField (name : String)
  | duplicateField (name : String)
  | unknownField (name : String) (expected : List String)
  | noVariant (type : String)
  | refused (reason : String)

namespace Error

inductive Category
  | malformed | unfinished | data
deriving DecidableEq, Repr

def category : Error → Category
  | fault f => if f.isEnd then .unfinished else .malformed
  | _ => .data

def oneOf : List String → String
  | [] => "there are no fields"
  | [a] => "expected `" ++ a ++ "`"
  | [a, b] => "expected `" ++ a ++ "` or `" ++ b ++ "`"
  | names => "expected one of " ++ ", ".intercalate (names.map fun n => "`" ++ n ++ "`")

def rawMessage : Error → String
  | fault f => f.message
  | invalidType found expected => "invalid type: " ++ found.text ++ ", expected " ++ expected
  | invalidValue found expected => "invalid value: " ++ found.text ++ ", expected " ++ expected
  | invalidLength n expected => "invalid length " ++ toString n ++ ", expected " ++ expected
  | missingField name => "missing field `" ++ name ++ "`"
  | duplicateField name => "duplicate field `" ++ name ++ "`"
  | unknownField name expected => "unknown field `" ++ name ++ "`, " ++ oneOf expected
  | noVariant type => "data did not match any variant of untagged enum " ++ type
  | refused reason => reason

/-- The digits that a text ends with and a word before them, dropped from the text, which is given back to
front. A number that needs more than sixty-four bits is none. -/
def dropCount? (word : String) (cs : List Char) : Option (List Char) :=
  let ds := cs.takeWhile Char.isDigit
  let rest := cs.dropWhile Char.isDigit
  let w := word.toList.reverse
  if ds ≠ [] ∧ Digits.value ds.reverse < 18446744073709551616 ∧ w.isPrefixOf rest then
    some (rest.drop w.length)
  else none

def dropPlace (s : String) : String :=
  match (dropCount? " column " s.toList.reverse).bind (dropCount? " at line ") with
  | some rest => String.ofList rest.reverse
  | none => s

/-- What the error says. Words that name a place at its end are taken for the place of the error, which is
not part of the message. -/
def message (e : Error) : String := dropPlace e.rawMessage

end Error

abbrev Decoder (α : Type) := Reading → Except Error α

def ofFault : Option Fault → Except Error Unit
  | none => .ok ()
  | some f => .error (.fault f)

/-- A value of another form than expected; a flawed value is reported for its flaw. -/
def mismatch (expected : String) : Reading → Error
  | .null => .invalidType .null expected
  | .boolean b => .invalidType (.boolean b) expected
  | .integer n => .invalidType (.integer n) expected
  | .double x => .invalidType (.double x) expected
  | .string s => .invalidType (.string s) expected
  | .array _ _ => .invalidType .sequence expected
  | .object _ _ => .invalidType .map expected
  | .flawed f _ => .fault f

def decodeString : Decoder String
  | .string s => .ok s
  | r => .error (mismatch "a string" r)

def decodeBoolean : Decoder Bool
  | .boolean b => .ok b
  | r => .error (mismatch "a boolean" r)

def decodeInteger (low high : Int) (expected : String) : Decoder Int
  | .integer n =>
    if low ≤ n ∧ n < high then .ok n else .error (.invalidValue (.integer n) expected)
  | r => .error (mismatch expected r)

def decodeInt64 (r : Reading) : Except Error Int64 :=
  (decodeInteger (-9223372036854775808) 9223372036854775808 "i64" r).map Int64.ofInt

def decodeUInt32 (r : Reading) : Except Error UInt32 :=
  (decodeInteger 0 4294967296 "u32" r).map fun n => UInt32.ofNat n.toNat

def decodeOption {α : Type} (d : Decoder α) : Decoder (Option α)
  | .null => .ok none
  | r => (d r).map some

def decodeItems {α : Type} (d : Decoder α) : List Reading → Option Fault → Except Error (List α)
  | [], stop => (ofFault stop).map fun _ => []
  | r :: rs, stop => do
    let a ← d r
    let as ← decodeItems d rs stop
    pure (a :: as)

def decodeList {α : Type} (d : Decoder α) : Decoder (List α)
  | .array items stop => decodeItems d items stop
  | r => .error (mismatch "a sequence" r)

def Key.take : Key → Except Error String
  | .named s => .ok s
  | .flawed f _ => .error (.fault f)

def decodeFields {α : Type} (d : Decoder α) :
    List (Key × Reading) → Option Fault → Except Error (List (String × α))
  | [], stop => (ofFault stop).map fun _ => []
  | (k, r) :: rest, stop => do
    let name ← k.take
    let a ← d r
    let as ← decodeFields d rest stop
    pure ((name, a) :: as)

def decodeEntries {α : Type} (expected : String) (d : Decoder α) : Decoder (List (String × α))
  | .object fields stop => decodeFields d fields stop
  | r => .error (mismatch expected r)

/-- The value as a whole, so that any flaw in it comes before any wrong form. -/
def decodeWhole (r : Reading) : Except Error Reading := (ofFault r.flaw).map fun _ => r

def closeObject : List (Key × Reading) → Option Fault → Except Error Unit
  | _ :: _, _ => .error (.fault .trailingComma)
  | [], none => .ok ()
  | [], some .expectedCommaOrBrace => .error (.fault .trailingCharacters)
  | [], some .endInObject => .error (.fault .endInObject)
  | [], some _ => .error (.fault .trailingComma)

def closeArray : List Reading → Option Fault → Except Error Unit
  | _ :: _, _ => .error (.fault .trailingCharacters)
  | [], none => .ok ()
  | [], some .trailingComma => .error (.fault .trailingComma)
  | [], some .endInList => .error (.fault .endInList)
  | [], some _ => .error (.fault .trailingCharacters)

/-! ### Records -/

/-- A record with named fields, filled in one at a time. It may also be given as an array of its fields
in order, the last of which may be missing if they are `optional`. -/
structure Record (σ : Type) where
  title : String
  fields : List String
  strict : Bool
  optional : String → Bool
  blank : σ
  holds : String → σ → Bool
  take : String → Reading → σ → Except Error σ

namespace Record

variable {σ : Type}

def size (rec : Record σ) : String :=
  "struct " ++ rec.title ++ " with " ++ toString rec.fields.length ++
    (if rec.fields.length = 1 then " element" else " elements")

def ofFields (rec : Record σ) : List (Key × Reading) → Option Fault → σ → Except Error σ
  | [], stop, s => (ofFault stop).map fun _ => s
  | (k, r) :: rest, stop, s => do
    let name ← k.take
    if rec.fields.contains name then
      if rec.holds name s then .error (.duplicateField name)
      else rec.ofFields rest stop (← rec.take name r s)
    else if rec.strict then .error (.unknownField name rec.fields)
    else
      ofFault r.skip
      rec.ofFields rest stop s

def ofItems (rec : Record σ) :
    List String → List Reading → Option Fault → Nat → σ → Except Error σ
  | [], items, stop, _, s => (closeArray items stop).map fun _ => s
  | name :: names, r :: rs, stop, n, s => do
    rec.ofItems names rs stop (n + 1) (← rec.take name r s)
  | name :: names, [], stop, n, s => do
    ofFault stop
    if rec.optional name then rec.ofItems names [] stop (n + 1) s
    else .error (.invalidLength n rec.size)

def decode (rec : Record σ) : Decoder σ
  | .object fields stop => rec.ofFields fields stop rec.blank
  | .array items stop => rec.ofItems rec.fields items stop 0 rec.blank
  | r => .error (mismatch ("struct " ++ rec.title) r)

end Record

def required {α : Type} (name : String) : Option α → Except Error α
  | some a => .ok a
  | none => .error (.missingField name)

def decodeText {α : Type} (d : Decoder α) (s : String) : Except Error α := do
  let (r, rest) := read s
  let a ← d r
  if rest.isEmpty then .ok a else .error (.fault .trailingCharacters)

end Catalogue.Json
