import Catalogue.Proofs.Category.Links

set_option autoImplicit false

namespace Catalogue.Graph

variable {g h : Graph} {c : Category}

theorem ids_sortSiblings_filter_nodup (g : Graph) (select : Category → Bool) :
    ((Category.sortSiblings (g.nodes.filter select)).map (·.id)).Nodup :=
  (((Category.sortSiblings_perm _).map _).nodup_iff).2 (g.ids_filter_nodup select)

theorem ids_children_nodup (g : Graph) (c : Category) : ((g.children c).map (·.id)).Nodup :=
  g.ids_sortSiblings_filter_nodup _

theorem ids_roots_nodup (g : Graph) : (g.roots.map (·.id)).Nodup := g.ids_sortSiblings_filter_nodup _

theorem mem_nodes_ofList_iff {cs : List Category} (hsub : cs ⊆ g.nodes) : c ∈ (ofList cs).nodes ↔ c ∈ cs := by
  constructor
  · exact Category.mem_of_mem_firstOccurrences
  · intro hc
    obtain ⟨d, hd, he⟩ := List.mem_map.1 (Category.mem_ids_firstOccurrences.2 (List.mem_map_of_mem hc))
    rwa [eq_of_id_eq (hsub hc) (hsub (Category.mem_of_mem_firstOccurrences hd)) he.symm]

theorem sortSiblings_filter_of_subset (hsub : h.nodes ⊆ g.nodes) (select : Category → Bool) :
    Category.sortSiblings (h.nodes.filter select) =
      (Category.sortSiblings (g.nodes.filter select)).filter (· ∈ h.nodes) := by
  have hids := (g.ids_sortSiblings_filter_nodup select).sublist
    ((List.filter_sublist (p := (· ∈ h.nodes))).map _)
  refine Category.sortSiblings_of_ascending hids ((Category.sortSiblings_ascending _).filter _) ?_
  refine (List.perm_ext_iff_of_nodup (h.nodes_nodup.filter _) (hids.of_map _)).2 fun c => ?_
  simp only [List.mem_filter, Category.mem_sortSiblings, decide_eq_true_eq]
  constructor
  · rintro ⟨hc, hselect⟩
    exact ⟨⟨hsub hc, hselect⟩, hc⟩
  · rintro ⟨⟨_, hselect⟩, hc⟩
    exact ⟨hc, hselect⟩

theorem children_of_subset (hsub : h.nodes ⊆ g.nodes) (c : Category) :
    h.children c = (g.children c).filter (· ∈ h.nodes) := sortSiblings_filter_of_subset hsub _

def IsUpward (g h : Graph) : Prop := ∀ c ∈ h.nodes, ∀ p, g.parent? c = some p → p ∈ h.nodes

theorem parent?_of_subset (hsub : h.nodes ⊆ g.nodes) (hup : g.IsUpward h) (hc : c ∈ h.nodes) :
    h.parent? c = g.parent? c := by
  refine Option.ext fun p => ?_
  rw [parent?_eq_some_iff, parent?_eq_some_iff]
  constructor
  · rintro ⟨hp, hlink⟩
    exact ⟨hsub hp, hlink⟩
  · rintro ⟨hp, hlink⟩
    exact ⟨hup c hc p (parent?_eq_some_iff.2 ⟨hp, hlink⟩), hlink⟩

theorem roots_of_subset (hsub : h.nodes ⊆ g.nodes) (hup : g.IsUpward h) :
    h.roots = g.roots.filter (· ∈ h.nodes) := by
  have hselect : (h.nodes.filter fun c => (h.parent? c).isNone) =
      h.nodes.filter fun c => (g.parent? c).isNone :=
    List.filter_congr fun c hc => by rw [parent?_of_subset hsub hup hc]
  rw [roots, hselect]
  exact sortSiblings_filter_of_subset hsub _

end Catalogue.Graph
