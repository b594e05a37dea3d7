import Catalogue.Binary64.Shortest

set_option autoImplicit false

namespace Catalogue

inductive Json
  | null
  | boolean (b : Bool)
  | integer (n : Int)
  | double (x : Binary64)
  | string (s : String)
  | array (items : List Json)
  | object (fields : List (String × Json))

namespace Json

def ofOption {α : Type} (f : α → Json) : Option α → Json
  | none => null
  | some a => f a

def escapeChar (c : Char) : List Char :=
  if c = '"' then ['\\', '"']
  else if c = '\\' then ['\\', '\\']
  else if c = '\x08' then ['\\', 'b']
  else if c = '\x0c' then ['\\', 'f']
  else if c = '\n' then ['\\', 'n']
  else if c = '\r' then ['\\', 'r']
  else if c = '\t' then ['\\', 't']
  else if c.toNat < 32 then
    ['\\', 'u', '0', '0', Nat.digitChar (c.toNat / 16), Nat.digitChar (c.toNat % 16)]
  else [c]

def quote (s : String) : List Char := '"' :: s.toList.flatMap escapeChar ++ ['"']

def integerText (n : Int) : List Char :=
  if n < 0 then '-' :: Nat.toDigits 10 n.natAbs else Nat.toDigits 10 n.natAbs

/-- A double that is no finite number has no JSON form and is written as null. -/
def doubleText (x : Binary64) : List Char :=
  if x.isFinite then (x.write .data).toList else ['n', 'u', 'l', 'l']

def scalarText : Json → List Char
  | null => ['n', 'u', 'l', 'l']
  | boolean true => ['t', 'r', 'u', 'e']
  | boolean false => ['f', 'a', 'l', 's', 'e']
  | integer n => integerText n
  | double x => doubleText x
  | string s => quote s
  | array _ | object _ => []

mutual

def compact : Json → List Char
  | array items => '[' :: compactItems true items
  | object fields => '\x7b' :: compactFields true fields
  | j => scalarText j

def compactItems : Bool → List Json → List Char
  | _, [] => [']']
  | first, j :: js => (if first then [] else [',']) ++ compact j ++ compactItems false js

def compactFields : Bool → List (String × Json) → List Char
  | _, [] => ['\x7d']
  | first, (k, j) :: rest =>
    (if first then [] else [',']) ++ quote k ++ ':' :: compact j ++ compactFields false rest

end

def newline (depth : Nat) : List Char := '\n' :: List.replicate (2 * depth) ' '

mutual

/-- Each item and each field on a line of its own; what is empty stays on its line. -/
def indented (depth : Nat) : Json → List Char
  | array [] => ['[', ']']
  | array (j :: js) => '[' :: indentedItems (depth + 1) true (j :: js) ++ newline depth ++ [']']
  | object [] => ['\x7b', '\x7d']
  | object (f :: fs) => '\x7b' :: indentedFields (depth + 1) true (f :: fs) ++ newline depth ++ ['\x7d']
  | j => scalarText j

def indentedItems (depth : Nat) : Bool → List Json → List Char
  | _, [] => []
  | first, j :: js =>
    (if first then [] else [',']) ++ newline depth ++ indented depth j ++ indentedItems depth false js

def indentedFields (depth : Nat) : Bool → List (String × Json) → List Char
  | _, [] => []
  | first, (k, j) :: rest =>
    (if first then [] else [',']) ++ newline depth ++ quote k ++ ':' :: ' ' :: indented depth j ++
      indentedFields depth false rest

end

def write (j : Json) : String := String.ofList j.compact

def writeIndented (j : Json) : String := String.ofList (j.indented 0)

end Json

end Catalogue
