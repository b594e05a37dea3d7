import Catalogue.Pattern.CharSet

/-!
Patterns and the texts that contain a match of one. The places of a text are those before, between and
behind its characters. A pattern takes a set of places where a match may start to the set of those where
it may end; a text contains a match if the set of all places is taken to one that is not empty.
-/

set_option autoImplicit false

namespace Catalogue

inductive WordEdge
  | edge
  | noEdge
  | opening
  | closing
  | noneBefore
  | noneBehind
deriving DecidableEq, Repr

namespace WordEdge

def holds : WordEdge → Bool → Bool → Bool
  | edge, before, behind => before != behind
  | noEdge, before, behind => before == behind
  | opening, before, behind => !before && behind
  | closing, before, behind => before && !behind
  | noneBefore, before, _ => !before
  | noneBehind, _, behind => !behind

end WordEdge

inductive Look
  | start
  | finish
  | lineStart
  | lineFinish
  /-- The start of a line, where a carriage return and a line feed may end lines, also together. -/
  | returnStart
  | returnFinish
  | word (basic : Bool) (e : WordEdge)
deriving DecidableEq, Repr

namespace Look

def basicWord : List (Nat × Nat) := [(0x30, 0x39), (0x41, 0x5A), (0x5F, 0x5F), (0x61, 0x7A)]

def isWord (basic : Bool) (c : Char) : Bool :=
  Unicode.inRanges (if basic then basicWord else Unicode.wordRanges) c.toNat

def holds (l : Look) (before behind : Option Char) : Bool :=
  match l with
  | start => before.isNone
  | finish => behind.isNone
  | lineStart => before.all (· == '\n')
  | lineFinish => behind.all (· == '\n')
  | returnStart => before.all (· == '\n') || (before == some '\r' && behind != some '\n')
  | returnFinish => behind.all (· == '\r') || (behind == some '\n' && before != some '\r')
  | word basic e => e.holds (before.any (isWord basic)) (behind.any (isWord basic))

end Look

inductive Pattern
  | empty
  | one (s : CharSet)
  | look (l : Look)
  | seq (p q : Pattern)
  | alt (p q : Pattern)
  | repeated (p : Pattern) (low : Nat) (high : Option Nat)

/-- A set of places of a text: whether each place, from the first on, is in it. -/
abbrev Places := List Bool

namespace Places

def all (n : Nat) : Places := List.replicate (n + 1) true

def isSome (ps : Places) : Bool := ps.any id

def union (ps qs : Places) : Places := List.zipWith (· || ·) ps qs

def diff (ps qs : Places) : Places := List.zipWith (fun p q => p && !q) ps qs

def step (s : CharSet) (cs : List Char) (ps : Places) : Places :=
  false :: List.zipWith (fun p c => p && s.contains c) ps cs

def run (s : CharSet) : Bool → List Char → Places → Places
  | _, _, [] => []
  | carried, [], p :: _ => [p || carried]
  | carried, c :: cs, p :: ps =>
    let here := p || carried
    here :: run s (here && s.contains c) cs ps

def filter (l : Look) : Option Char → List Char → Places → Places
  | _, _, [] => []
  | before, [], p :: _ => [p && l.holds before none]
  | before, c :: cs, p :: ps => (p && l.holds before (some c)) :: filter l (some c) cs ps

def iterate (f : Places → Places) : Nat → Places → Places
  | 0, ps => ps
  | n + 1, ps =>
    let next := f ps
    if next = ps then ps else iterate f n next

/-- The places of `seen` and those reached from `new` by at most a number of steps. -/
def spread (f : Places → Places) : Nat → Places → Places → Places
  | 0, seen, _ => seen
  | n + 1, seen, new =>
    let next := diff (f new) seen
    if next.isSome then spread f n (union seen next) next else seen

end Places

namespace Pattern

def sequence (ps : List Pattern) : Pattern := ps.foldr seq empty

def choice : List Pattern → Pattern
  | [] => empty
  | [p] => p
  | p :: q :: rest => alt p (choice (q :: rest))

def set? : Pattern → Option CharSet
  | one s => some s
  | alt p q =>
    match p.set?, q.set? with
    | some s, some t => some (.union s t)
    | _, _ => none
  | _ => none

/-- The places of `cs` where a match from one of the places may end. Repeating without bound reaches a
place of a text within as many steps as the text has characters, or not at all. -/
def after (cs : List Char) : Pattern → Places → Places
  | empty, ps => ps
  | one s, ps => Places.step s cs ps
  | look l, ps => Places.filter l none cs ps
  | seq p q, ps => q.after cs (p.after cs ps)
  | alt p q, ps => Places.union (p.after cs ps) (q.after cs ps)
  | repeated p low high, ps =>
    let ps := Places.iterate (p.after cs) low ps
    match p.set?, high with
    | some s, none => Places.run s false cs ps
    | _, some high => Places.spread (p.after cs) (min (high - low) (cs.length + 1)) ps ps
    | none, none => Places.spread (p.after cs) (cs.length + 1) ps ps

def occursIn (p : Pattern) (cs : List Char) : Bool := (p.after cs (Places.all cs.length)).isSome

theorem after_sequence_cons (cs : List Char) (p : Pattern) (ps : List Pattern) (places : Places) :
    (sequence (p :: ps)).after cs places = (sequence ps).after cs (p.after cs places) := rfl

/-! ### Size -/

def sizeLimit : Nat := 10485760

/-- About the bytes of the part of an automaton that steps over one character. -/
def setSize : CharSet → Nat
  | .char folded c => 32 * c.utf8Size + (if folded then 16 else 0)
  | s => if s.isBasic then 32 + 8 * s.pieces else 300 + 48 * s.pieces

def size : Pattern → Nat
  | empty | look _ => 0
  | one s => setSize s
  | seq p q => p.size + q.size
  | alt p q => p.size + q.size + 40
  | repeated p low none => low * p.size + p.size + 40
  | repeated p low (some high) => low * p.size + (high - low) * (p.size + 40)

end Pattern

end Catalogue
