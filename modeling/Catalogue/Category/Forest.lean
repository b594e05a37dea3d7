import Catalogue.Category.Graph
import Catalogue.Category.Tree

/-!
The forest of a flat list of categories. Trees grow from the categories without a parent in the list;
what is left then lies on a cycle of parents or hangs off one, and trees grow from it in sibling order,
so that every category of the list is in the forest once.
-/

set_option autoImplicit false

namespace Catalogue.Graph

/-- The trees of those categories of `cs` that are not taken yet, each with its children that are not
taken before them, and the ids taken then. -/
def grow (g : Graph) : Nat → List String → List Category → List Tree × List String
  | 0, taken, _ => ([], taken)
  | fuel + 1, taken, cs =>
    cs.foldl
      (fun (trees, taken) c =>
        if taken.contains c.id then (trees, taken)
        else
          let (below, taken) := g.grow fuel (c.id :: taken) (g.children c)
          (trees ++ [.node c below], taken))
      ([], taken)

def forest (g : Graph) : List Tree :=
  let (rooted, taken) := g.grow g.nodes.length [] g.roots
  let stranded := Category.sortSiblings (g.nodes.filter fun c => !taken.contains c.id)
  rooted ++ (g.grow g.nodes.length taken stranded).1

end Catalogue.Graph

namespace Catalogue.Tree

/-- The forest of a flat list; of several categories with one id the first counts. -/
def rebuild (cs : List Category) : List Tree := (Graph.ofList cs).forest

end Catalogue.Tree
