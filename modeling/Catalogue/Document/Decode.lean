import Catalogue.Document.Marked

/-!
Documents read from JSON. An object with a marked field stands for a value of another kind; the mark ends
it, but for a code, behind which its scope may stand. Numbers without a mark are 32 bits wide if they are
not negative and fit, else 64.
-/

set_option autoImplicit false

namespace Catalogue.Value

open Json (Key Reading Error Fault)

def ofInteger (n : Int) : Except Error Value :=
  if n < 0 then .ok (.int64 (Int64.ofInt n))
  else if n < 2147483648 then .ok (.int32 (Int32.ofInt n))
  else if n < 9223372036854775808 then .ok (.int64 (Int64.ofInt n))
  else .error (.refused ("cannot represent " ++ toString n ++ " as a signed number"))

def toDocument : Value → Except Error Document
  | .document d => .ok d
  | other =>
    .error (.invalidType .map
      ("expected document, found extended JSON data type: " ++ other.text))

def decodeCode (scope : Document) : List (Key × Reading) → Option Fault → Except Error Value
  | [], stop => do
    Json.ofFault stop
    .error (.missingField "$code")
  | (k, r) :: rest, stop => do
    let name ← k.take
    if name = "$code" then
      let source ← Json.decodeString r
      Json.closeObject rest stop
      pure (.scopedCode source scope)
    else .error (.unknownField name ["$code"])

mutual

def decode : Reading → Except Error Value
  | .null => .ok .null
  | .boolean b => .ok (.boolean b)
  | .integer n => ofInteger n
  | .double x => .ok (.double x)
  | .string s => .ok (.string s)
  | .array items stop => (decodeItems items stop).map array
  | .object fields stop => decodeObject [] fields stop
  | .flawed f _ => .error (.fault f)

def decodeItems : List Reading → Option Fault → Except Error (List Value)
  | [], stop => (Json.ofFault stop).map fun _ => []
  | r :: rs, stop => do
    let v ← decode r
    let vs ← decodeItems rs stop
    pure (v :: vs)

def decodeObject (d : Document) : List (Key × Reading) → Option Fault → Except Error Value
  | [], stop => (Json.ofFault stop).map fun _ => .document d
  | (k, r) :: rest, stop => do
    let name ← k.take
    if name = "$code" then
      let source ← Json.decodeString r
      decodeScope source rest stop
    else if name = "$scope" then
      let scope ← decodeDocument r
      decodeCode scope rest stop
    else
      match ofMarked? name r with
      | some result =>
        let v ← result
        Json.closeObject rest stop
        pure v
      | none => do
        let v ← decode r
        decodeObject (Fields.put d name v) rest stop

/-- What stands behind a code: nothing, or its scope. -/
def decodeScope (source : String) : List (Key × Reading) → Option Fault → Except Error Value
  | [], stop => (Json.ofFault stop).map fun _ => .code source
  | (k, r) :: rest, stop => do
    let name ← k.take
    if name = "$scope" then
      let scope ← decodeDocument r
      Json.closeObject rest stop
      pure (.scopedCode source scope)
    else .error (.unknownField name ["$scope"])

def decodeDocument : Reading → Except Error Document
  | .object fields stop => do toDocument (← decodeObject [] fields stop)
  | r => .error (Json.mismatch "a Bson" r)

end

end Catalogue.Value

namespace Catalogue.Document

def decode : Json.Decoder Document := Value.decodeDocument

end Catalogue.Document
