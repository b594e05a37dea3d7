import Catalogue.Failure
import Catalogue.Filter.Rule
import Catalogue.Filter.Value
import Catalogue.Json.Decode
import Catalogue.Time.Bound

set_option autoImplicit false

namespace Catalogue

open Json (Key Reading Error Fault)

/-! ### Rule tables -/

/-- A rule as it is declared: its kind alone, or an object with the kind and a mark for fields that have
one entry per language. -/
structure RuleDefinition where
  kind : String
  languageAware : Bool

namespace RuleDefinition

structure Parts where
  kind : Option String
  languageAware : Option Bool

def record : Json.Record Parts where
  title := "RuleDefinition"
  fields := ["type", "langAware"]
  strict := false
  optional _ := false
  blank := ⟨none, none⟩
  holds name p := if name = "type" then p.kind.isSome else p.languageAware.isSome
  take name r p :=
    if name = "type" then do pure { p with kind := some (← Json.decodeString r) }
    else do pure { p with languageAware := some (← Json.decodeBoolean r) }

def ofReading : Reading → Except Error RuleDefinition
  | .string s => .ok ⟨s, false⟩
  | .object fields stop => do
    let p ← record.ofFields fields stop record.blank
    pure ⟨← Json.required "type" p.kind, p.languageAware.getD false⟩
  | _ => .error (.noVariant "RuleDefinition")

def decode (r : Reading) : Except Error RuleDefinition := do
  match ofReading (← Json.decodeWhole r) with
  | .ok d => .ok d
  | .error _ => .error (.noVariant "RuleDefinition")

def rule (field : String) (d : RuleDefinition) : Except Failure FilterRule :=
  match FilterRule.ofKind? d.kind d.languageAware with
  | some r => .ok r
  | none => .error (.unknownRuleKind field d.kind)

end RuleDefinition

namespace RuleTable

/-- The table of the definitions in order; the first definition of an unknown kind is reported. -/
def ofDefinitions (entries : List (String × RuleDefinition)) : Except Failure RuleTable := do
  let rules ← entries.mapM fun e => do pure (e.1, ← e.2.rule e.1)
  pure (Fields.ofList rules)

def decodeDefinitions : Json.Decoder (List (String × RuleDefinition)) :=
  Json.decodeEntries "a map of field names" RuleDefinition.decode

def decode (r : Reading) : Except Error RuleTable := do
  (ofDefinitions (← decodeDefinitions r)).mapError Failure.toJsonError

/-- The table of a configuration text. The text is read to its end before the kinds are looked at. -/
def read (text : String) : Except Failure RuleTable := do
  let entries ← (Json.decodeText decodeDefinitions text).mapError Failure.invalidRuleTable
  ofDefinitions entries

end RuleTable

/-! ### Date ranges -/

namespace DateRange

structure Parts where
  lower : Option (Option Instant)
  upper : Option (Option Instant)

def decodeBound (r : Reading) : Except Error (Option Instant) := do
  match ← Json.decodeOption Json.decodeString r with
  | none => pure none
  | some s =>
    match Bound.read s.toList with
    | some t => pure (some t)
    | none => .error (.refused ("invalid date bound '" ++ s ++ "'"))

def record : Json.Record Parts where
  title := "DateRange"
  fields := ["from", "to"]
  strict := true
  optional _ := true
  blank := ⟨none, none⟩
  holds name p := if name = "from" then p.lower.isSome else p.upper.isSome
  take name r p := do
    let b ← decodeBound r
    pure (if name = "from" then { p with lower := some b } else { p with upper := some b })

def decode (r : Reading) : Except Error DateRange := do
  let p ← record.decode r
  pure ⟨p.lower.join, p.upper.join⟩

def toJson (r : DateRange) : Json :=
  let bound := Json.ofOption fun t => Json.string (String.ofList (Instant.text t))
  .object [("from", bound r.lower), ("to", bound r.upper)]

end DateRange

/-! ### Filter values -/

namespace FilterValue

mutual

/-- Integers are 64 bits wide; larger ones become doubles. -/
def ofReading? : Reading → Option FilterValue
  | .null => some null
  | .boolean b => some (boolean b)
  | .integer n =>
    some (if Value.inInt64 n then integer (Int64.ofInt n) else double (Binary64.ofInt n))
  | .double x => some (double x)
  | .string s => some (string s)
  | .array items _ => (ofItems? items).map list
  | .object fields stop => (DateRange.decode (.object fields stop)).toOption.map range
  | .flawed _ _ => none

def ofItems? : List Reading → Option (List FilterValue)
  | [] => some []
  | r :: rs => do
    let v ← ofReading? r
    let vs ← ofItems? rs
    pure (v :: vs)

end

def decode (r : Reading) : Except Error FilterValue := do
  match ofReading? (← Json.decodeWhole r) with
  | some v => .ok v
  | none => .error (.noVariant "FilterValue")

mutual

def toJson : FilterValue → Json
  | null => .null
  | boolean b => .boolean b
  | integer n => .integer n.toInt
  | double x => .double x
  | string s => .string s
  | list items => .array (itemsToJson items)
  | range r => r.toJson

def itemsToJson : List FilterValue → List Json
  | [] => []
  | v :: rest => toJson v :: itemsToJson rest

end

end FilterValue

namespace FilterSpec

/-- A field given twice has its last value. -/
def decode (r : Reading) : Except Error FilterSpec := do
  pure (Fields.ofList (← Json.decodeEntries "a map" FilterValue.decode r))

end FilterSpec

end Catalogue
