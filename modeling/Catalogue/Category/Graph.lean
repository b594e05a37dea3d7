import Catalogue.Category.Basic

set_option autoImplicit false

namespace Catalogue

structure Graph where
  nodes : List Category
  ids_nodup : (nodes.map (·.id)).Nodup

structure Placed where
  category : Category
  depth : Nat
deriving DecidableEq

namespace Graph

def ofList (cs : List Category) : Graph :=
  ⟨Category.firstOccurrences cs, Category.firstOccurrences_nodup cs⟩

def find? (g : Graph) (id : String) : Option Category := g.nodes.find? (·.id == id)

def parent? (g : Graph) (c : Category) : Option Category :=
  match c.parent with
  | none => none
  | some p => if p = c.id then none else g.find? p

def children (g : Graph) (c : Category) : List Category :=
  Category.sortSiblings (g.nodes.filter fun d => d.parent == some c.id && d.id != c.id)

def roots (g : Graph) : List Category :=
  Category.sortSiblings (g.nodes.filter fun c => (g.parent? c).isNone)

/-! ### Walks -/

/-- Appends to `seen` the categories below and including `c` that satisfy `keep` and are not in it yet,
depth first. What does not satisfy `keep` is not passed through. -/
def walk (g : Graph) (keep : Category → Bool) : Nat → Nat → List Placed → Category → List Placed
  | 0, _, seen, _ => seen
  | fuel + 1, depth, seen, c =>
    if !keep c || seen.any (·.category.id == c.id) then seen
    else (g.children c).foldl (g.walk keep fuel (depth + 1)) (seen ++ [⟨c, depth⟩])

/-- No walk is longer than the number of categories. -/
def walkFrom (g : Graph) (keep : Category → Bool) (cs : List Category) : List Placed :=
  cs.foldl (g.walk keep g.nodes.length 0) []

def descendants (g : Graph) (id : String) : List Placed :=
  g.walkFrom (fun _ => true) (g.find? id).toList

def flat (g : Graph) : List Category := (g.walkFrom (fun _ => true) g.roots).map (·.category)

/-! ### Searches -/

def matching (g : Graph) (text language : String) : List Category :=
  g.nodes.filter (·.nameContains text language)

/-- The last ancestor of a category. Around a cycle the climb ends after as many steps as there are
categories. -/
def topAncestor (g : Graph) : Nat → Category → Category
  | 0, c => c
  | fuel + 1, c =>
    match g.parent? c with
    | some p => g.topAncestor fuel p
    | none => c

def idSet (ids : List String) : List String :=
  (ids.mergeSort fun a b => decide (a ≤ b)).eraseDups

def topMatches (g : Graph) (text language : String) : List String :=
  idSet ((g.matching text language).map fun c => (g.topAncestor g.nodes.length c).id)

/-- Adds the ids of the ancestors of `c` up to the first that is there already. -/
def markAncestors (g : Graph) : Nat → List String → Category → List String
  | 0, marked, _ => marked
  | fuel + 1, marked, c =>
    match g.parent? c with
    | some p => if marked.contains p.id then marked else g.markAncestors fuel (p.id :: marked) p
    | none => marked

def markMatch (g : Graph) (marked : List String) (c : Category) : List String :=
  let below := (g.walkFrom (fun _ => true) [c]).map (·.category.id)
  g.markAncestors g.nodes.length (marked ++ below.filter (!marked.contains ·)) c

def marked (g : Graph) (text language : String) : List String :=
  (g.matching text language).foldl g.markMatch []

/-- The matches with their descendants and ancestors, in the order of `flat`. -/
def search (g : Graph) (text language : String) : List Category :=
  let marked := g.marked text language
  (g.walkFrom (fun c => marked.contains c.id) g.roots).map (·.category)

end Graph

end Catalogue
