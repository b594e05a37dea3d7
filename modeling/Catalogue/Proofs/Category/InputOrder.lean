import Catalogue.Proofs.Category.Conservation
import Catalogue.Proofs.Category.Marks

/-!
The order of a flat list does not matter. Two graphs of the same categories have the same roots, children
and parents, so every traversal of the one is step by step a traversal of the other; where a traversal goes
through the categories in their own order, only the set of its results counts.
-/

set_option autoImplicit false

namespace Catalogue

namespace Graph

variable {g h : Graph}

theorem walk_eq_of_perm (hgh : g.nodes.Perm h.nodes) (keep : Category → Bool) (fuel depth : Nat)
    (seen : List Placed) (c : Category) : g.walk keep fuel depth seen c = h.walk keep fuel depth seen c := by
  induction fuel generalizing depth seen c with
  | zero => rfl
  | succ fuel ih =>
    have hstep : g.walk keep fuel (depth + 1) = h.walk keep fuel (depth + 1) :=
      funext fun seen => funext fun d => ih (depth + 1) seen d
    simp only [walk, children_eq_of_perm hgh, hstep]

theorem walkFrom_eq_of_perm (hgh : g.nodes.Perm h.nodes) (keep : Category → Bool) (cs : List Category) :
    g.walkFrom keep cs = h.walkFrom keep cs := by
  have hstep : g.walk keep g.nodes.length 0 = h.walk keep h.nodes.length 0 := by
    rw [hgh.length_eq]
    exact funext fun seen => funext fun d => walk_eq_of_perm hgh keep _ 0 seen d
  rw [walkFrom, walkFrom, hstep]

theorem descendants_eq_of_perm (hgh : g.nodes.Perm h.nodes) (id : String) :
    g.descendants id = h.descendants id := by
  rw [descendants, descendants, find?_eq_of_perm hgh, walkFrom_eq_of_perm hgh]

theorem flat_eq_of_perm (hgh : g.nodes.Perm h.nodes) : g.flat = h.flat := by
  rw [flat, flat, roots_eq_of_perm hgh, walkFrom_eq_of_perm hgh]

/-! ### Searches -/

theorem matching_perm (hgh : g.nodes.Perm h.nodes) (text language : String) :
    (g.matching text language).Perm (h.matching text language) := hgh.filter _

theorem topAncestor_eq_of_perm (hgh : g.nodes.Perm h.nodes) (fuel : Nat) (c : Category) :
    g.topAncestor fuel c = h.topAncestor fuel c := by
  induction fuel generalizing c with
  | zero => rfl
  | succ fuel ih => simp only [topAncestor, parent?_eq_of_perm hgh, ih]

theorem topMatches_eq_of_perm (hgh : g.nodes.Perm h.nodes) (text language : String) :
    g.topMatches text language = h.topMatches text language := by
  unfold topMatches
  simp only [topAncestor_eq_of_perm hgh, hgh.length_eq]
  exact idSet_eq_of_mem_iff fun _ => ((matching_perm hgh text language).map _).mem_iff

theorem isBelow_iff_of_perm (hgh : g.nodes.Perm h.nodes) (d a : Category) : g.IsBelow d a ↔ h.IsBelow d a := by
  unfold IsBelow
  simp only [parent?_eq_of_perm hgh]

theorem mem_marked_iff_of_perm (hgh : g.nodes.Perm h.nodes) (text language id : String) :
    id ∈ g.marked text language ↔ id ∈ h.marked text language := by
  rw [mem_marked_iff, mem_marked_iff]
  simp only [Related, hgh.mem_iff, (matching_perm hgh text language).mem_iff, isBelow_iff_of_perm hgh]

theorem search_eq_of_perm (hgh : g.nodes.Perm h.nodes) (text language : String) :
    g.search text language = h.search text language := by
  have hkeep : (fun c : Category => (g.marked text language).contains c.id) =
      fun c => (h.marked text language).contains c.id := by
    funext c
    rw [Bool.eq_iff_iff, List.contains_iff_mem, List.contains_iff_mem, mem_marked_iff_of_perm hgh]
  simp only [search]
  rw [hkeep, roots_eq_of_perm hgh, walkFrom_eq_of_perm hgh]

/-! ### Forests -/

theorem grow_eq_of_perm (hgh : g.nodes.Perm h.nodes) (fuel : Nat) (taken : List String) (cs : List Category) :
    g.grow fuel taken cs = h.grow fuel taken cs := by
  induction fuel generalizing taken cs with
  | zero => rfl
  | succ fuel ih => simp only [grow, children_eq_of_perm hgh, ih]

theorem stranded_eq_of_perm (hgh : g.nodes.Perm h.nodes) (taken : List String) :
    g.stranded taken = h.stranded taken :=
  Category.sortSiblings_eq_of_perm (g.ids_filter_nodup _) (hgh.filter _)

theorem forest_eq_of_perm (hgh : g.nodes.Perm h.nodes) : g.forest = h.forest := by
  rw [forest_eq, forest_eq, roots_eq_of_perm hgh, hgh.length_eq]
  simp only [grow_eq_of_perm hgh, stranded_eq_of_perm hgh]

theorem nodes_ofList_perm {cs ds : List Category} (hids : (cs.map (·.id)).Nodup) (h : cs.Perm ds) :
    (ofList cs).nodes.Perm (ofList ds).nodes := by
  have hds : (ds.map (·.id)).Nodup := (h.map _).nodup_iff.1 hids
  change (Category.firstOccurrences cs).Perm (Category.firstOccurrences ds)
  rwa [Category.firstOccurrences_of_nodup hids, Category.firstOccurrences_of_nodup hds]

end Graph

namespace Tree

theorem rebuild_flatten_rebuild (cs : List Category) : rebuild (flatten (rebuild cs)) = rebuild cs := by
  have hperm : (Category.firstOccurrences cs).Perm (flatten (rebuild cs)) :=
    (Graph.ofList cs).flatten_forest_perm.symm
  have hids := Category.firstOccurrences_nodup cs
  refine (Graph.forest_eq_of_perm (Graph.nodes_ofList_perm hids hperm)).symm.trans ?_
  refine Graph.forest_eq_of_perm ?_
  change (Category.firstOccurrences (Category.firstOccurrences cs)).Perm (Category.firstOccurrences cs)
  rw [Category.firstOccurrences_of_nodup hids]

end Tree

/-- What is made of a list of categories does not depend on the order of the list. -/
theorem order_irrelevant (cs : List Category) :
    (∀ ds, (cs.map (·.id)).Nodup → cs.Perm ds →
      Tree.rebuild cs = Tree.rebuild ds ∧
        (Graph.ofList cs).flat = (Graph.ofList ds).flat ∧
        (∀ id, (Graph.ofList cs).descendants id = (Graph.ofList ds).descendants id) ∧
        ∀ text language,
          (Graph.ofList cs).search text language = (Graph.ofList ds).search text language ∧
          (Graph.ofList cs).topMatches text language = (Graph.ofList ds).topMatches text language) ∧
      Tree.rebuild (Tree.flatten (Tree.rebuild cs)) = Tree.rebuild cs := by
  refine ⟨?_, Tree.rebuild_flatten_rebuild cs⟩
  intro ds hids hperm
  have hgh := Graph.nodes_ofList_perm hids hperm
  refine ⟨Graph.forest_eq_of_perm hgh, Graph.flat_eq_of_perm hgh, Graph.descendants_eq_of_perm hgh, ?_⟩
  intro text language
  exact ⟨Graph.search_eq_of_perm hgh text language, Graph.topMatches_eq_of_perm hgh text language⟩

def sampleCycle : List Category :=
  [ { id := "b", parent := some "a" },
    { id := "c", parent := some "b" },
    { id := "a", parent := some "b", priority := 1 },
    { id := "x", parent := some "unknown" } ]

theorem order_irrelevant_sampleCycle : (sampleCycle.map (·.id)).Nodup ∧
    sampleCycle.Perm sampleCycle.reverse ∧ Tree.rebuild sampleCycle = Tree.rebuild sampleCycle.reverse := by
  have hids : (sampleCycle.map (·.id)).Nodup := by decide
  have hperm : sampleCycle.Perm sampleCycle.reverse := sampleCycle.reverse_perm.symm
  exact ⟨hids, hperm, ((order_irrelevant sampleCycle).1 _ hids hperm).1⟩

end Catalogue
