import Catalogue.Fields
import Catalogue.Unicode.Alphanumeric

/-!
Environment variables, and files that add to them. A file has lines `name=value`; a value may be quoted,
go on over several lines inside quotes, and mention variables. Variables that are there already win, and
the first line that cannot be read ends the file.
-/

set_option autoImplicit false

namespace Catalogue

abbrev Environment := Fields String

namespace Environment

/-! ### Lines -/

inductive Quoting
  | plain
  | escape
  | blank
  | strong
  | strongEscape
  | weak
  | weakEscape
deriving DecidableEq

namespace Quoting

def ofPlain (c : Char) : Quoting :=
  if c = '\\' then escape
  else if c = '"' then weak
  else if c = '\'' then strong
  else plain

/-- The state after a character; none if a comment begins with it. -/
def next? (q : Quoting) (c : Char) : Option Quoting :=
  match q with
  | plain => some (if Unicode.isBlank c && c != '\n' && c != '\r' then blank else ofPlain c)
  | blank => if c = '#' then none else some (ofPlain c)
  | escape => some plain
  | strong => some (if c = '\\' then strongEscape else if c = '\'' then plain else strong)
  | strongEscape => some strong
  | weak => some (if c = '\\' then weakEscape else if c = '"' then plain else weak)
  | weakEscape => some weak

def scan : Quoting → List Char → List Char × Option Quoting
  | q, [] => ([], some q)
  | q, c :: cs =>
    match q.next? c with
    | none => ([], none)
    | some q =>
      let (kept, final) := scan q cs
      (c :: kept, final)

end Quoting

def splitLine (cs : List Char) : List Char × List Char :=
  let line := cs.takeWhile (· != '\n')
  match cs.dropWhile (· != '\n') with
  | c :: rest => (line ++ [c], rest)
  | [] => (line, [])

def dropLineFeed (cs : List Char) : List Char :=
  match cs.reverse with
  | '\n' :: '\r' :: rest => rest.reverse
  | '\n' :: rest => rest.reverse
  | _ => cs

/-- The next logical line and the rest of the text; a line that starts with a comment is empty. None at
the end of the text, also if it comes inside quotes. -/
def nextLine? : Nat → Quoting → List Char → List Char → Option (List Char × List Char)
  | 0, _, _, _ => none
  | fuel + 1, q, before, cs =>
    if cs.isEmpty then none
    else
      let (line, rest) := splitLine cs
      let whole := before ++ line
      if (whole.dropWhile Unicode.isBlank).head? = some '#' then some ([], rest)
      else
        match q.scan line with
        | (kept, none) => some (before ++ kept, rest)
        | (_, some .plain) => some (dropLineFeed whole, rest)
        | (_, some q) => nextLine? fuel q whole rest

/-! ### Values -/

/-- Where reading stands in a value. `weak` says whether it is inside double quotes. -/
inductive Position
  | plain
  | weak
  | strong
  | escaped (weak : Bool)
  | name (weak : Bool) (n : List Char)
  | braced (weak : Bool) (n : List Char)
  | ending

namespace Position

def within (isWeak : Bool) : Position := if isWeak then weak else plain

end Position

def valueOf (env : Environment) (n : List Char) : List Char :=
  ((Fields.get? env (String.ofList n)).getD "").toList

def isGap (c : Char) : Bool := c == ' ' || c == '\t'

def unescape? (c : Char) : Option Char :=
  if ['\\', '\'', '"', '$', ' '].contains c then some c
  else if c = 'n' then some '\n'
  else none

/-- The value that a text stands for. The character that ends the name of a variable stands for itself. -/
def readValue (env : Environment) : Position → List Char → Option (List Char)
  | .plain, [] | .ending, [] | .escaped false, [] => some []
  | .name false n, [] => some (valueOf env n)
  | _, [] => none
  | .ending, c :: cs =>
    if isGap c then readValue env .ending cs else if c = '#' then some [] else none
  | .escaped isWeak, c :: cs => do
    let d ← unescape? c
    (readValue env (.within isWeak) cs).map (d :: ·)
  | .strong, c :: cs =>
    if c = '\'' then readValue env .plain cs else (readValue env .strong cs).map (c :: ·)
  | .name isWeak n, c :: cs =>
    if Unicode.isAlphanumeric c then readValue env (.name isWeak (n ++ [c])) cs
    else if c = '\x7b' ∧ n = [] then readValue env (.braced isWeak []) cs
    else if c = '$' then (readValue env (.name isWeak []) cs).map (valueOf env n ++ ·)
    else (readValue env (.within isWeak) cs).map (valueOf env n ++ c :: ·)
  | .braced isWeak n, c :: cs =>
    if c = '\x7d' then (readValue env (.within isWeak) cs).map (valueOf env n ++ ·)
    else readValue env (.braced isWeak (n ++ [c])) cs
  | .weak, c :: cs =>
    if c = '$' then readValue env (.name true []) cs
    else if c = '"' then readValue env .plain cs
    else if c = '\\' then readValue env (.escaped true) cs
    else (readValue env .weak cs).map (c :: ·)
  | .plain, c :: cs =>
    if c = '$' then readValue env (.name false []) cs
    else if c = '\'' then readValue env .strong cs
    else if c = '"' then readValue env .weak cs
    else if c = '\\' then readValue env (.escaped false) cs
    else if isGap c then readValue env .ending cs
    else (readValue env .plain cs).map (c :: ·)

/-! ### Entries -/

def startsName (c : Char) : Bool := c.isAlpha || c == '_'

def continuesName (c : Char) : Bool := c.isAlphanum || c == '_' || c == '.'

def readName? (cs : List Char) : Option (List Char × List Char) :=
  match cs with
  | c :: _ =>
    if startsName c then
      some (cs.takeWhile continuesName, (cs.dropWhile continuesName).dropWhile Unicode.isBlank)
    else none
  | [] => none

def trimEnd (cs : List Char) : List Char := (cs.reverse.dropWhile Unicode.isBlank).reverse

/-- The name that a line defines and the text of its value. A leading `export` is no name unless it is
defined itself. -/
def readDefinition? (cs : List Char) : Option (List Char × List Char) := do
  let (n, rest) ← readName? cs
  match rest with
  | '=' :: value => some (n, value.dropWhile Unicode.isBlank)
  | _ =>
    if n = "export".toList then
      match ← readName? rest with
      | (n, '=' :: value) => some (n, value.dropWhile Unicode.isBlank)
      | _ => none
    else none

inductive LineFault
  | unreadable
  | unusable
deriving DecidableEq, Repr

def addLine (env : Environment) (line : List Char) : Except LineFault Environment :=
  let cs := (trimEnd line).dropWhile Unicode.isBlank
  if cs.isEmpty || cs.head? == some '#' then .ok env
  else do
    let (n, text) ← (readDefinition? cs).elim (.error .unreadable) .ok
    let value ← if text.head? = some '#' then .ok []
      else (readValue env .plain text).elim (.error .unreadable) .ok
    let n := String.ofList n
    if (Fields.get? env n).isSome then .ok env
    else if value.contains '\x00' then .error .unusable
    else .ok (Fields.put env n (String.ofList value))

/-- The first line that cannot be read ends the text; none if a line is unusable. -/
def addLines : Nat → Environment → List Char → Option Environment
  | 0, env, _ => some env
  | fuel + 1, env, cs =>
    match nextLine? (cs.length + 1) .plain [] cs with
    | none => some env
    | some (line, rest) =>
      match addLine env line with
      | .error .unreadable => some env
      | .error .unusable => none
      | .ok env => addLines fuel env rest

def addFile (env : Environment) (text : String) : Option Environment :=
  let cs := match text.toList with
    | '\ufeff' :: cs => cs
    | cs => cs
  addLines (cs.length + 1) env cs

end Environment

end Catalogue
