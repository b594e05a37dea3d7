import Catalogue.Pattern.Class

/-!
Reading patterns: literals, escapes, anchors, the dot, sets, groups, alternatives, repetitions and flags.
Every step consumes a character, so the length of a pattern bounds them. Patterns that are nested too
deeply or would need too large an automaton are refused.
-/

set_option autoImplicit false

namespace Catalogue.Pattern

/-! ### Repetitions -/

def countLimit : Nat := 4294967296

def takeDigits (f : Flags) : Nat → List Char → List Char × List Char
  | 0, cs => ([], cs)
  | fuel + 1, cs =>
    match cs with
    | c :: rest =>
      if c.isDigit then
        let (more, rest) := takeDigits f fuel (f.gap rest)
        (c :: more, rest)
      else ([], cs)
    | [] => ([], [])

def readCount (f : Flags) (cs : List Char) : Option (Nat × List Char) :=
  let (ds, rest) := takeDigits f cs.length (cs.dropWhile Unicode.isBlank)
  let n := Digits.value ds
  if ds.isEmpty || decide (countLimit ≤ n) then none
  else some (n, f.gap (rest.dropWhile Unicode.isBlank))

def readBounds (f : Flags) (cs : List Char) : Option ((Nat × Option Nat) × List Char) := do
  let (low, cs) ← readCount f (f.gap cs)
  match cs with
  | '\x7d' :: rest => some ((low, some low), f.gap rest)
  | ',' :: rest =>
    match f.gap rest with
    | '\x7d' :: rest => some ((low, none), f.gap rest)
    | cs =>
      match ← readCount f cs with
      | (high, '\x7d' :: rest) => if low ≤ high then some ((low, some high), f.gap rest) else none
      | _ => none
  | _ => none

/-- A question mark after a repetition asks for the shortest match, which is a match all the same. -/
def dropLazy : List Char → List Char
  | '?' :: rest => rest
  | cs => cs

/-! ### Groups -/

def Flags.set? (f : Flags) (c : Char) (on : Bool) : Option Flags :=
  match c with
  | 'i' => some { f with folded := on }
  | 'm' => some { f with lines := on }
  | 's' => some { f with lineFeeds := on }
  | 'R' => some { f with returns := on }
  | 'x' => some { f with spaced := on }
  | 'u' => some { f with basic := !on }
  | 'U' => some f
  | _ => none

/-- The flags of a group opening with a question mark: those before a minus sign are set and those after
it cleared, each named once. What ends them is a colon or the closing parenthesis. -/
def readFlags : Flags → Bool → List Char → List Char → Option (Flags × List Char × List Char)
  | _, _, _, [] => none
  | f, on, named, c :: cs =>
    if c = ':' ∨ c = ')' then some (f, named, c :: cs)
    else if c = '-' then if on then readFlags f false ('-' :: named) cs else none
    else if named.contains c then none
    else
      match f.set? c on with
      | some f => readFlags f on (c :: named) cs
      | none => none

def startsName (c : Char) : Bool :=
  c == '_' || (Unicode.isAlphanumeric c && !Unicode.inRanges Unicode.digitRanges c.toNat)

def continuesName (c : Char) : Bool := Unicode.isAlphanumeric c || ['_', '.', '[', ']'].contains c

def readName (cs : List Char) : Option (List Char × List Char) :=
  let name := cs.takeWhile (· != '>')
  match name, cs.dropWhile (· != '>') with
  | c :: more, _ :: rest => if startsName c && more.all continuesName then some (name, rest) else none
  | _, _ => none

/-- How a group begins. If it is none, its flags are those for the rest of the group around it. -/
structure Opening where
  isGroup : Bool
  flags : Flags
  name : Option (List Char)

/-- The start of a group behind its parenthesis. Conditions on the text around a place are none. -/
def readOpening (f : Flags) (cs : List Char) : Option (Opening × List Char) :=
  match f.gap cs with
  | '?' :: 'P' :: '<' :: rest | '?' :: '<' :: rest => do
    let (name, rest) ← readName rest
    some (⟨true, f, some name⟩, rest)
  | '?' :: rest => do
    match ← readFlags f true [] rest with
    | (_, '-' :: _, _) => none
    | (f, _, ':' :: rest) => some (⟨true, f, none⟩, rest)
    | (_, [], _) => none
    | (f, _, rest) => some (⟨false, f, none⟩, rest.drop 1)
  | rest => some (⟨true, f, none⟩, rest)

/-! ### Patterns -/

structure Draft where
  pattern : Pattern
  depth : Nat

namespace Draft

def deepest (ds : List Draft) : Nat := ds.foldl (fun n d => max n d.depth) 0

/-- Several drafts joined, one level above the deepest; one alone is not joined. -/
def join (make : List Pattern → Pattern) : List Draft → Draft
  | [d] => d
  | ds => ⟨make (ds.map (·.pattern)), if ds.isEmpty then 0 else deepest ds + 1⟩

def ofSet (s : CharSet) : Draft := ⟨one s, 0⟩

def ofLook (l : Look) : Draft := ⟨look l, 0⟩

def repeated (d : Draft) (low : Nat) (high : Option Nat) : Draft :=
  ⟨.repeated d.pattern low high, d.depth + 1⟩

/-- A mere change of flags, which counts as an item but matches nothing. -/
def nothing : Draft := ⟨empty, 0⟩

end Draft

/-- What was read of a group: the branches before the last bar, the items behind it, the latest first, and
whether the last item can be repeated. -/
structure Body where
  branches : List Draft
  items : List Draft
  repeatable : Bool

namespace Body

def start : Body := ⟨[], [], false⟩

def add (b : Body) (d : Draft) : Body := ⟨b.branches, d :: b.items, true⟩

def addFlags (b : Body) : Body := ⟨b.branches, .nothing :: b.items, false⟩

def repeatLast (b : Body) (low : Nat) (high : Option Nat) : Option Body :=
  match b.items with
  | d :: ds => if b.repeatable then some { b with items := d.repeated low high :: ds } else none
  | [] => none

def lastBranch (b : Body) : Draft := .join sequence b.items.reverse

def branch (b : Body) : Body := ⟨b.lastBranch :: b.branches, [], false⟩

def finish (b : Body) : Draft := .join choice (b.lastBranch :: b.branches).reverse

end Body

def dot (f : Flags) : CharSet :=
  if f.lineFeeds then .all
  else if f.returns then .complement (.ofChars ['\n', '\r'])
  else .complement (.ofChars ['\n'])

def startLook (f : Flags) : Look :=
  if !f.lines then .start else if f.returns then .returnStart else .lineStart

def finishLook (f : Flags) : Look :=
  if !f.lines then .finish else if f.returns then .returnFinish else .lineFinish

def readItem (f : Flags) : List Char → Option (Draft × List Char)
  | [] => none
  | '[' :: rest => do
    let (d, rest) ← readClass f rest
    some (⟨one d.set, d.depth⟩, rest)
  | '\\' :: rest => do
    match ← readEscape f rest with
    | (.char c, rest) => some (.ofSet (← f.literal c), rest)
    | (.set s, rest) => some (.ofSet (← f.allowed s), rest)
    | (.look l, rest) => some (.ofLook l, rest)
  | '.' :: rest => do some (.ofSet (← f.allowed (dot f)), rest)
  | '^' :: rest => some (.ofLook (startLook f), rest)
  | '$' :: rest => some (.ofLook (finishLook f), rest)
  | c :: rest => do some (.ofSet (← f.literal c), rest)

structure Rest where
  draft : Draft
  names : List (List Char)
  text : List Char

/-- The rest of a group up to its closing parenthesis or the end. Groups may be nested `left` deep in it,
and have other names than `names`. -/
def readBody : Nat → Nat → Flags → List (List Char) → Body → List Char → Option Rest
  | 0, _, _, _, _, _ => none
  | fuel + 1, left, f, names, b, cs =>
    match f.gap cs with
    | [] => some ⟨b.finish, names, []⟩
    | ')' :: rest => some ⟨b.finish, names, ')' :: rest⟩
    | '|' :: rest => readBody fuel left f names b.branch rest
    | '*' :: rest => do readBody fuel left f names (← b.repeatLast 0 none) (dropLazy rest)
    | '+' :: rest => do readBody fuel left f names (← b.repeatLast 1 none) (dropLazy rest)
    | '?' :: rest => do readBody fuel left f names (← b.repeatLast 0 (some 1)) (dropLazy rest)
    | '\x7b' :: rest => do
      let ((low, high), rest) ← readBounds f rest
      readBody fuel left f names (← b.repeatLast low high) (dropLazy rest)
    | '(' :: rest => do
      let (opening, rest) ← readOpening f rest
      if !opening.isGroup then readBody fuel left opening.flags names b.addFlags rest
      else if opening.name.any names.contains then none
      else
        match left with
        | 0 => none
        | left' + 1 =>
          match ← readBody fuel left' opening.flags (opening.name.toList ++ names) .start rest with
          | ⟨d, names, ')' :: rest⟩ =>
            readBody fuel left f names (b.add ⟨d.pattern, d.depth + 1⟩) rest
          | _ => none
    | cs => do
      let (d, rest) ← readItem f cs
      readBody fuel left f names (b.add d) rest

def read? (folded : Bool) (cs : List Char) : Option Pattern :=
  match readBody (cs.length + 1) depthLimit ⟨folded, false, false, false, false, false⟩ [] .start cs with
  | some ⟨d, _, []⟩ => if d.depth ≤ depthLimit ∧ d.pattern.size ≤ sizeLimit then some d.pattern else none
  | _ => none

end Catalogue.Pattern
