import Catalogue.Binary64.Shortest

/-!
JSON as it was read. A text is read once, up to the first place where reading cannot go on, and the
reason stays in the tree at that place. Whoever walks the tree in order of the text meets faults of the
text and values of a wrong form in the order in which they stand there.
-/

set_option autoImplicit false

namespace Catalogue.Json

inductive Fault
  | endInValue | endInString | endInList | endInObject
  | expectedValue | expectedWord | expectedColon | expectedCommaOrBrace | expectedCommaOrBracket
  | trailingComma | trailingCharacters | keyNotString
  | invalidNumber | numberOutOfRange
  | invalidEscape | surrogateUnpaired | surrogateLone | controlCharacter
  | nestedTooDeep
deriving DecidableEq, Repr

namespace Fault

def isEnd : Fault → Bool
  | endInValue | endInString | endInList | endInObject => true
  | _ => false

def message : Fault → String
  | endInValue => "EOF while parsing a value"
  | endInString => "EOF while parsing a string"
  | endInList => "EOF while parsing a list"
  | endInObject => "EOF while parsing an object"
  | expectedValue => "expected value"
  | expectedWord => "expected ident"
  | expectedColon => "expected `:`"
  | expectedCommaOrBrace => "expected `,` or `\x7d`"
  | expectedCommaOrBracket => "expected `,` or `]`"
  | trailingComma => "trailing comma"
  | trailingCharacters => "trailing characters"
  | keyNotString => "key must be a string"
  | invalidNumber => "invalid number"
  | numberOutOfRange => "number out of range"
  | invalidEscape => "invalid escape"
  | surrogateUnpaired => "unexpected end of hex escape"
  | surrogateLone => "lone leading surrogate in hex escape"
  | controlCharacter => "control character (\\u0000-\\u001F) found while parsing a string"
  | nestedTooDeep => "recursion limit exceeded"

end Fault

/-- A field's name. A flawed name cannot be taken; whoever only skips it may go on if `skipped` is none. -/
inductive Key
  | named (s : String)
  | flawed (taken : Fault) (skipped : Option Fault)

/-- A value as it was read. A flawed one cannot be taken, for the reason `taken`, and stops those who
skip it only if there is a reason `skipped`. The `stop` of an array or object says why reading it ended
before its bracket did, unless its last entry says so. -/
inductive Reading
  | null
  | boolean (b : Bool)
  | integer (n : Int)
  | double (x : Binary64)
  | string (s : String)
  | array (items : List Reading) (stop : Option Fault)
  | object (fields : List (Key × Reading)) (stop : Option Fault)
  | flawed (taken : Fault) (skipped : Option Fault)

namespace Key

def flaw : Key → Option Fault
  | named _ => none
  | flawed f _ => some f

def skip : Key → Option Fault
  | named _ => none
  | flawed _ g => g

end Key

/-- Skipping tells a closing bracket after a comma from a missing value or name only by what follows. -/
def Fault.skippingArray : Fault → Fault
  | .trailingComma => .expectedValue
  | f => f

def Fault.skippingObject : Fault → Fault
  | .trailingComma => .keyNotString
  | .endInValue => .endInObject
  | f => f

namespace Reading

mutual

def flaw : Reading → Option Fault
  | array items stop => flawItems items <|> stop
  | object fields stop => flawFields fields <|> stop
  | flawed f _ => some f
  | _ => none

def flawItems : List Reading → Option Fault
  | [] => none
  | r :: rs => flaw r <|> flawItems rs

def flawFields : List (Key × Reading) → Option Fault
  | [] => none
  | (k, r) :: rest => k.flaw <|> flaw r <|> flawFields rest

end

mutual

def skip : Reading → Option Fault
  | array items stop => skipItems items <|> stop.map Fault.skippingArray
  | object fields stop => skipFields fields <|> stop.map Fault.skippingObject
  | flawed _ g => g
  | _ => none

def skipItems : List Reading → Option Fault
  | [] => none
  | r :: rs => skip r <|> skipItems rs

def skipFields : List (Key × Reading) → Option Fault
  | [] => none
  | (k, r) :: rest => k.skip <|> skip r <|> skipFields rest

end

end Reading

end Catalogue.Json
