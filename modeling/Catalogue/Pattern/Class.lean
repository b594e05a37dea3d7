import Catalogue.Digits
import Catalogue.Pattern.Basic

set_option autoImplicit false

namespace Catalogue.Pattern

/-- The flags in force, which hold up to the end of their group. Carriage returns end lines, too, if `returns`; blanks
and comments do not count if `spaced`; classes and words know only the basic letters if `basic`. -/
structure Flags where
  folded : Bool
  lines : Bool
  lineFeeds : Bool
  returns : Bool
  spaced : Bool
  basic : Bool

def depthLimit : Nat := 250

def dropComment (cs : List Char) : List Char := (cs.dropWhile (· != '\n')).drop 1

def skipGap : Nat → List Char → List Char
  | 0, cs => cs
  | fuel + 1, cs =>
    match cs.dropWhile Unicode.isBlank with
    | '#' :: rest => skipGap fuel (dropComment rest)
    | rest => rest

def Flags.gap (f : Flags) (cs : List Char) : List Char :=
  if f.spaced then skipGap cs.length cs else cs

def Flags.literal (f : Flags) (c : Char) : Option CharSet :=
  if !f.basic then some (.char f.folded c)
  else if !f.folded then some (.char false c)
  else if c.toNat < 128 then some (.ofChars [c.toLower, c.toUpper])
  else none

/-- A set as the flags allow it: without the other letters, only basic characters may be matched. -/
def Flags.allowed (f : Flags) (s : CharSet) : Option CharSet :=
  if f.basic && !s.isBasic then none else some s

def Flags.foldSet (f : Flags) (s : CharSet) : CharSet :=
  if !f.folded then s
  else if f.basic then .inter (.fold s) (.within [(0, 127)])
  else .fold s

/-! ### Escapes -/

inductive Escape
  | char (c : Char)
  | set (s : CharSet)
  | look (l : Look)

def charOfCode? (n : Nat) : Option Char :=
  if n < 0xD800 ∨ (0xDFFF < n ∧ n < 0x110000) then some (Char.ofNat n) else none

def readDigits (f : Flags) : Nat → Nat → List Char → Option (Nat × List Char)
  | 0, n, cs => some (n, cs)
  | left + 1, n, cs =>
    match f.gap cs with
    | c :: rest => do readDigits f left (n * 16 + (← Digits.hex? c)) rest
    | [] => none

def readBraced (f : Flags) : Nat → Bool → Nat → List Char → Option (Nat × List Char)
  | 0, _, _, _ => none
  | fuel + 1, started, n, cs =>
    match f.gap cs with
    | '\x7d' :: rest => if started ∧ n < 4294967296 then some (n, rest) else none
    | c :: rest => do readBraced f fuel true (n * 16 + (← Digits.hex? c)) rest
    | [] => none

def readCode (f : Flags) (width : Nat) (cs : List Char) : Option (Escape × List Char) := do
  let (n, rest) ← match f.gap cs with
    | '\x7b' :: rest => readBraced f (rest.length + 1) false 0 rest
    | cs => readDigits f width 0 cs
  some (.char (← charOfCode? n), rest)

def classOf (f : Flags) (full basic : List (Nat × Nat)) (negated : Bool) : Escape :=
  let s := CharSet.within (if f.basic then basic else full)
  .set (if negated then .complement s else s)

def edgeOfName : List Char → Option WordEdge
  | ['s', 't', 'a', 'r', 't'] => some .opening
  | ['e', 'n', 'd'] => some .closing
  | ['s', 't', 'a', 'r', 't', '-', 'h', 'a', 'l', 'f'] => some .noneBefore
  | ['e', 'n', 'd', '-', 'h', 'a', 'l', 'f'] => some .noneBehind
  | _ => none

def readEdgeName (f : Flags) : Nat → List Char → List Char × List Char
  | 0, cs => ([], cs)
  | fuel + 1, cs =>
    match cs with
    | c :: rest =>
      if c.isAlpha || c == '-' then
        let (more, rest) := readEdgeName f fuel (f.gap rest)
        (c :: more, rest)
      else ([], cs)
    | [] => ([], [])

/-- A word boundary. A brace behind it begins the name of its kind, unless it can only be a count. -/
def readEdge (f : Flags) (cs : List Char) : Option (Escape × List Char) :=
  let plain := some (.look (.word f.basic .edge), cs)
  match cs with
  | '\x7b' :: inner =>
    match f.gap inner with
    | [] => none
    | start =>
      match readEdgeName f start.length start with
      | ([], _) => plain
      | (name, '\x7d' :: rest) => (edgeOfName name).map fun e => (.look (.word f.basic e), rest)
      | _ => none
  | _ => plain

def basicBlanks : List (Nat × Nat) := [(0x9, 0xD), (0x20, 0x20)]

/-- The text behind a backslash. Letters and digits without a meaning are kept free for one. -/
def readEscape (f : Flags) : List Char → Option (Escape × List Char)
  | [] => none
  | c :: rest =>
    match c with
    | 'n' => some (.char '\n', rest)
    | 'r' => some (.char '\r', rest)
    | 't' => some (.char '\t', rest)
    | 'f' => some (.char '\x0c', rest)
    | 'v' => some (.char '\x0b', rest)
    | 'a' => some (.char '\x07', rest)
    | 'x' => readCode f 2 rest
    | 'u' => readCode f 4 rest
    | 'U' => readCode f 8 rest
    | 'd' => some (classOf f Unicode.digitRanges [(0x30, 0x39)] false, rest)
    | 'D' => some (classOf f Unicode.digitRanges [(0x30, 0x39)] true, rest)
    | 's' => some (classOf f Unicode.blankRanges basicBlanks false, rest)
    | 'S' => some (classOf f Unicode.blankRanges basicBlanks true, rest)
    | 'w' => some (classOf f Unicode.wordRanges Look.basicWord false, rest)
    | 'W' => some (classOf f Unicode.wordRanges Look.basicWord true, rest)
    | 'A' => some (.look .start, rest)
    | 'z' => some (.look .finish, rest)
    | 'b' => readEdge f rest
    | 'B' => some (.look (.word f.basic .noEdge), rest)
    | '<' => some (.look (.word f.basic .opening), rest)
    | '>' => some (.look (.word f.basic .closing), rest)
    | c => if c.isAlphanum || decide (128 ≤ c.toNat) then none else some (.char c, rest)

/-! ### Sets -/

structure SetDraft where
  set : CharSet
  depth : Nat

namespace SetDraft

def union : List SetDraft → SetDraft
  | [] => ⟨.empty, 0⟩
  | [d] => d
  | d :: ds => ⟨ds.foldl (fun s e => .union s e.set) d.set, ds.foldl (fun n e => max n e.depth) d.depth + 1⟩

def bracketed (f : Flags) (negated : Bool) (d : SetDraft) : SetDraft :=
  let s := f.foldSet d.set
  ⟨if negated then .complement s else s, d.depth + 1⟩

end SetDraft

inductive SetOperator
  | inter
  | diff
  | symmDiff

namespace SetOperator

def ofChars? : List Char → Option (SetOperator × List Char)
  | '&' :: '&' :: rest => some (inter, rest)
  | '-' :: '-' :: rest => some (diff, rest)
  | '~' :: '~' :: rest => some (symmDiff, rest)
  | _ => none

def apply : SetOperator → CharSet → CharSet → CharSet
  | inter => .inter
  | diff => .diff
  | symmDiff => .symmDiff

end SetOperator

abbrev Operand := Option (SetDraft × SetOperator)

def joinOperand (f : Flags) (left : Operand) (right : SetDraft) : SetDraft :=
  match left with
  | none => right
  | some (l, op) => ⟨op.apply (f.foldSet l.set) (f.foldSet right.set), max l.depth right.depth + 1⟩

def namedClass? : String → Option (List (Nat × Nat))
  | "alnum" => some [(0x30, 0x39), (0x41, 0x5A), (0x61, 0x7A)]
  | "alpha" => some [(0x41, 0x5A), (0x61, 0x7A)]
  | "ascii" => some [(0x0, 0x7F)]
  | "blank" => some [(0x9, 0x9), (0x20, 0x20)]
  | "cntrl" => some [(0x0, 0x1F), (0x7F, 0x7F)]
  | "digit" => some [(0x30, 0x39)]
  | "graph" => some [(0x21, 0x7E)]
  | "lower" => some [(0x61, 0x7A)]
  | "print" => some [(0x20, 0x7E)]
  | "punct" => some [(0x21, 0x2F), (0x3A, 0x40), (0x5B, 0x60), (0x7B, 0x7E)]
  | "space" => some basicBlanks
  | "upper" => some [(0x41, 0x5A)]
  | "word" => some Look.basicWord
  | "xdigit" => some [(0x30, 0x39), (0x41, 0x46), (0x61, 0x66)]
  | _ => none

def readNamedClass (f : Flags) (cs : List Char) : Option (CharSet × List Char) := do
  let (negated, cs) ← match cs with
    | ':' :: '^' :: rest => some (true, rest)
    | ':' :: rest => some (false, rest)
    | _ => none
  match cs.dropWhile (· != ':') with
  | ':' :: ']' :: rest =>
    let ranges ← namedClass? (String.ofList (cs.takeWhile (· != ':')))
    let s := f.foldSet (.within ranges)
    some (if negated then .complement s else s, rest)
  | _ => none

def readMember (f : Flags) : List Char → Option (Escape × List Char)
  | '\\' :: rest => readEscape f rest
  | c :: rest => some (.char c, rest)
  | [] => none

/-- A dash that stands for itself: before the end of a set or another dash. -/
def isLoneDash (f : Flags) (behind : List Char) : Bool :=
  match f.gap behind with
  | c :: _ => c == ']' || c == '-'
  | [] => false

def readRange (f : Flags) (cs : List Char) : Option (CharSet × List Char) := do
  let (low, rest) ← readMember f cs
  let alone (rest : List Char) := match low with
    | .char c => some (CharSet.ofChars [c], rest)
    | .set s => some (s, rest)
    | .look _ => none
  match f.gap rest with
  | '-' :: more =>
    if isLoneDash f more then alone ('-' :: more)
    else
      match low, ← readMember f (f.gap more) with
      | .char a, (.char b, rest) => if a ≤ b then some (.range a b, rest) else none
      | _, _ => none
  | rest => alone rest

/-- The start of a set behind its opening bracket: a caret negates it, and leading dashes, or a bracket
that would close an empty set, are members. -/
def openSet (f : Flags) (cs : List Char) : Bool × List SetDraft × List Char :=
  let (negated, cs) := match f.gap cs with
    | '^' :: rest => (true, f.gap rest)
    | cs => (false, cs)
  let (dashes, cs) := dashesOf cs.length cs
  match dashes, cs with
  | [], ']' :: rest => (negated, [⟨.ofChars [']'], 0⟩], rest)
  | dashes, cs => (negated, dashes, cs)
where
  dashesOf : Nat → List Char → List SetDraft × List Char
    | fuel + 1, '-' :: rest =>
      let (more, rest) := dashesOf fuel (f.gap rest)
      (⟨.ofChars ['-'], 0⟩ :: more, rest)
    | _, cs => ([], cs)

/-- The members of a set up to its closing bracket, in which sets may be nested `left` deep. -/
def readSet (f : Flags) : Nat → Nat → Bool → Operand → List SetDraft → List Char →
    Option (SetDraft × List Char)
  | 0, _, _, _, _, _ => none
  | fuel + 1, left, negated, operand, items, cs =>
    let found := joinOperand f operand (.union items.reverse)
    let item (s : CharSet) (depth : Nat) (rest : List Char) :=
      readSet f fuel left negated operand (⟨s, depth⟩ :: items) rest
    match f.gap cs with
    | [] => none
    | ']' :: rest => some (found.bracketed f negated, rest)
    | '[' :: rest =>
      match readNamedClass f rest, left with
      | some (s, rest), _ => item s 0 rest
      | none, 0 => none
      | none, left' + 1 => do
        let (inner, members, rest) := openSet f rest
        let (d, rest) ← readSet f fuel left' inner none members.reverse rest
        item d.set d.depth rest
    | cs =>
      match SetOperator.ofChars? cs with
      | some (op, rest) => readSet f fuel left negated (some (found, op)) [] rest
      | none => do
        let (s, rest) ← readRange f cs
        item s 0 rest

def readClass (f : Flags) (cs : List Char) : Option (SetDraft × List Char) := do
  let (negated, members, rest) := openSet f cs
  let (d, rest) ← readSet f (cs.length + 1) depthLimit negated none members.reverse rest
  some (⟨← f.allowed d.set, d.depth⟩, rest)

end Catalogue.Pattern
