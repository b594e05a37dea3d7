import Catalogue.Digits
import Catalogue.Json.Reading

/-!
Reading JSON from its characters. Of two steps into the recursion at least one consumes a character, so
twice the length of the text bounds it. Containers may be nested 127 deep; a deeper one is read all the same and opens
with a flawed entry, so that it can be skipped but not entered.
-/

set_option autoImplicit false

namespace Catalogue.Json

def isBlank (c : Char) : Bool := c == ' ' || c == '\n' || c == '\t' || c == '\r'

def skipBlanks (cs : List Char) : List Char := cs.dropWhile isBlank

/-- What reading a token gave, and the text behind it unless reading stops. -/
abbrev Step := Reading × Option (List Char)

def stopAt (f : Fault) : Step := (.flawed f (some f), none)

/-! ### Words -/

def readWord (value : Reading) : List Char → List Char → Step
  | [], cs => (value, some cs)
  | _ :: _, [] => stopAt .endInValue
  | w :: ws, c :: cs => if w = c then readWord value ws cs else stopAt .expectedWord

/-! ### Numbers -/

/-- Appends digits to a significand for as long as it stays below `2 ^ 64`; the digits left over. -/
def takeSignificand : Nat → List Char → Nat × List Char
  | s, [] => (s, [])
  | s, c :: cs =>
    let next := s * 10 + (c.toNat - '0'.toNat)
    if next < 18446744073709551616 then takeSignificand next cs else (s, c :: cs)

/-- `s * 10 ^ e` as a significand and a power of ten that are rounded before they are combined; none
above the greatest double. Powers of ten end at 308, so a smaller exponent is applied in steps. -/
def combine : Nat → Binary64 → Int → Option Binary64
  | 0, x, _ => some x
  | fuel + 1, x, e =>
    if e.natAbs ≤ 308 then
      let power := Binary64.ofNat (Nat.pow 10 e.natAbs)
      if 0 ≤ e then
        let y := x.mul power
        if y.isInfinite then none else some y
      else some (x.div power)
    else if x.isZero then some x
    else if 0 ≤ e then none
    else combine fuel (x.div (Binary64.ofNat (Nat.pow 10 308))) (e + 308)

/-- The value of a number given by its digits. Whole numbers without exponent are integers as far as
sixty-four bits go; minus zero is a double. -/
def numberValue (negative : Bool) (whole fraction : List Char) (exponent : Option Int) : Reading :=
  let (s, dropped) := takeSignificand 0 whole
  if fraction.isEmpty && exponent.isNone && dropped.isEmpty &&
      (!negative || decide (1 ≤ s ∧ s ≤ 9223372036854775808)) then
    .integer (if negative then -(s : Int) else s)
  else
    let (s', left) := takeSignificand s fraction
    let scale : Int := dropped.length - (fraction.length - left.length : Nat)
    match combine 4 (Binary64.ofNat s') (scale + exponent.getD 0) with
    | some x => .double (if negative then x.negate else x)
    | none => .flawed .numberOutOfRange none

def brokenNumber : List Char → Step
  | [] => (.flawed .endInValue (some .invalidNumber), none)
  | _ :: _ => stopAt .invalidNumber

def readExponent (negative : Bool) (whole fraction cs : List Char) : Step :=
  let finish (x : Option Int) (rest : List Char) : Step :=
    (numberValue negative whole fraction x, some rest)
  match cs with
  | c :: rest =>
    if c = 'e' ∨ c = 'E' then
      let (minus, digits) := match rest with
        | '-' :: r => (true, r)
        | '+' :: r => (false, r)
        | r => (false, r)
      match digits.takeWhile Char.isDigit with
      | [] => brokenNumber digits
      | ds =>
        let n : Int := Digits.value ds
        finish (some (if minus then -n else n)) (digits.dropWhile Char.isDigit)
    else finish none cs
  | [] => finish none cs

def readNumber (negative : Bool) (cs : List Char) : Step :=
  let whole := cs.takeWhile Char.isDigit
  match whole with
  | [] => brokenNumber cs
  | '0' :: _ :: _ => stopAt .invalidNumber
  | _ =>
    match cs.dropWhile Char.isDigit with
    | '.' :: rest =>
      match rest.takeWhile Char.isDigit with
      | [] => brokenNumber rest
      | fraction => readExponent negative whole fraction (rest.dropWhile Char.isDigit)
    | rest => readExponent negative whole [] rest

/-! ### Strings -/

structure Scan where
  flaw : Option Fault
  text : List Char
  rest : Except Fault (List Char)

namespace Scan

def stop (f : Fault) : Scan := ⟨none, [], .error f⟩

def push (c : Char) (s : Scan) : Scan := { s with text := c :: s.text }

/-- A fault that only those meet who take the characters comes before all later ones. -/
def mark (f : Fault) (s : Scan) : Scan := { s with flaw := some f }

end Scan

/-- The four hexadecimal digits of an escape; the text must have four more bytes. -/
def hexUnit (cs : List Char) : Except Fault Nat :=
  match cs with
  | a :: b :: c :: d :: _ =>
    match Digits.hex? a, Digits.hex? b, Digits.hex? c, Digits.hex? d with
    | some a, some b, some c, some d => .ok (((a * 16 + b) * 16 + c) * 16 + d)
    | _, _, _, _ => .error .invalidEscape
  | short => .error (if String.utf8ByteSize (String.ofList short) < 4 then .endInString else .invalidEscape)

def simpleEscape? : Char → Option Char
  | '"' => some '"'
  | '\\' => some '\\'
  | '/' => some '/'
  | 'b' => some '\x08'
  | 'f' => some '\x0c'
  | 'n' => some '\n'
  | 'r' => some '\r'
  | 't' => some '\t'
  | _ => none

def isLeading (n : Nat) : Bool := decide (0xD800 ≤ n ∧ n ≤ 0xDBFF)

def isTrailing (n : Nat) : Bool := decide (0xDC00 ≤ n ∧ n ≤ 0xDFFF)

def joinSurrogates (n m : Nat) : Char := Char.ofNat ((n - 0xD800) * 1024 + (m - 0xDC00) + 0x10000)

def scanString : Nat → List Char → Scan
  | 0, _ => .stop .endInString
  | _ + 1, [] => .stop .endInString
  | fuel + 1, c :: cs =>
    if c = '"' then ⟨none, [], .ok cs⟩
    else if c.toNat < 32 then .stop .controlCharacter
    else if c ≠ '\\' then (scanString fuel cs).push c
    else
      match cs with
      | [] => .stop .endInString
      | 'u' :: digits =>
        match hexUnit digits with
        | .error f => .stop f
        | .ok n =>
          let rest := digits.drop 4
          if isTrailing n then (scanString fuel rest).mark .surrogateLone
          else if isLeading n then
            match rest with
            | [] | ['\\'] => .stop .endInString
            | '\\' :: 'u' :: more =>
              match hexUnit more with
              | .error f => .stop f
              | .ok m =>
                if isTrailing m then (scanString fuel (more.drop 4)).push (joinSurrogates n m)
                else (scanString fuel rest).mark .surrogateLone
            | _ => (scanString fuel rest).mark .surrogateUnpaired
          else (scanString fuel rest).push (Char.ofNat n)
      | e :: rest =>
        match simpleEscape? e with
        | some c => (scanString fuel rest).push c
        | none => .stop .invalidEscape

def readString (cs : List Char) : Step :=
  let s := scanString (cs.length + 1) cs
  match s.flaw, s.rest with
  | none, .ok rest => (.string (String.ofList s.text), some rest)
  | some f, .ok rest => (.flawed f none, some rest)
  | none, .error g => stopAt g
  | some f, .error g => (.flawed f (some g), none)

def readKey (cs : List Char) : Key × Option (List Char) :=
  let s := scanString (cs.length + 1) cs
  match s.flaw, s.rest with
  | none, .ok rest => (.named (String.ofList s.text), some rest)
  | some f, .ok rest => (.flawed f none, some rest)
  | none, .error g => (.flawed g (some g), none)
  | some f, .error g => (.flawed f (some g), none)

/-! ### Values -/

inductive Ending
  | closed (rest : List Char)
  | broken (f : Fault)
  | inside

namespace Ending

def stop : Ending → Option Fault
  | broken f => some f
  | _ => none

def rest : Ending → Option (List Char)
  | closed cs => some cs
  | _ => none

end Ending

def depthLimit : Nat := 127

mutual

def readValue : Nat → Nat → List Char → Step
  | 0, _, _ => stopAt .endInValue
  | fuel + 1, depth, text =>
    match skipBlanks text with
    | [] => stopAt .endInValue
    | c :: cs =>
      if c = 'n' then readWord .null ['u', 'l', 'l'] cs
      else if c = 't' then readWord (.boolean true) ['r', 'u', 'e'] cs
      else if c = 'f' then readWord (.boolean false) ['a', 'l', 's', 'e'] cs
      else if c = '"' then readString cs
      else if c = '-' then readNumber true cs
      else if c.isDigit then readNumber false (c :: cs)
      else if c = '[' then
        let (items, ending) := readItems fuel (depth + 1) true cs
        let items := if depth < depthLimit then items else .flawed .nestedTooDeep none :: items
        (.array items ending.stop, ending.rest)
      else if c = '\x7b' then
        let (fields, ending) := readFields fuel (depth + 1) true cs
        let fields :=
          if depth < depthLimit then fields else (.flawed .nestedTooDeep none, .null) :: fields
        (.object fields ending.stop, ending.rest)
      else stopAt .expectedValue

def readItems : Nat → Nat → Bool → List Char → List Reading × Ending
  | 0, _, _, _ => ([], .broken .endInList)
  | fuel + 1, depth, first, text =>
    let item (cs : List Char) : List Reading × Ending :=
      match readValue fuel depth cs with
      | (v, none) => ([v], .inside)
      | (v, some rest) =>
        let (vs, ending) := readItems fuel depth false rest
        (v :: vs, ending)
    match skipBlanks text with
    | [] => ([], .broken .endInList)
    | ']' :: rest => ([], .closed rest)
    | c :: cs =>
      if first then item (c :: cs)
      else if c = ',' then
        match skipBlanks cs with
        | [] => ([], .broken .endInValue)
        | ']' :: _ => ([], .broken .trailingComma)
        | more => item more
      else ([], .broken .expectedCommaOrBracket)

def readFields : Nat → Nat → Bool → List Char → List (Key × Reading) × Ending
  | 0, _, _, _ => ([], .broken .endInObject)
  | fuel + 1, depth, first, text =>
    let field (cs : List Char) : List (Key × Reading) × Ending :=
      match readKey cs with
      | (k, none) => ([(k, .null)], .inside)
      | (k, some rest) =>
        match skipBlanks rest with
        | [] => ([(k, .flawed .endInObject (some .endInObject))], .inside)
        | ':' :: more =>
          match readValue fuel depth more with
          | (v, none) => ([(k, v)], .inside)
          | (v, some rest) =>
            let (vs, ending) := readFields fuel depth false rest
            ((k, v) :: vs, ending)
        | _ => ([(k, .flawed .expectedColon (some .expectedColon))], .inside)
    match skipBlanks text with
    | [] => ([], .broken .endInObject)
    | '\x7d' :: rest => ([], .closed rest)
    | c :: cs =>
      if first then
        if c = '"' then field cs else ([], .broken .keyNotString)
      else if c = ',' then
        match skipBlanks cs with
        | [] => ([], .broken .endInValue)
        | '"' :: more => field more
        | '\x7d' :: _ => ([], .broken .trailingComma)
        | _ => ([], .broken .keyNotString)
      else ([], .broken .expectedCommaOrBrace)

end

def read (s : String) : Reading × List Char :=
  let cs := s.toList
  let (value, rest) := readValue (2 * cs.length + 2) 0 cs
  (value, skipBlanks (rest.getD []))

end Catalogue.Json
