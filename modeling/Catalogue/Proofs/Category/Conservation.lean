import Catalogue.Proofs.Category.Growth
import Mathlib.Data.Finset.Card
import Mathlib.Data.Finset.Dedup

set_option autoImplicit false

namespace Catalogue

namespace Graph

theorem ids_forest_nodup (g : Graph) : ((Tree.flatten g.forest).map (·.id)).Nodup := by
  obtain ⟨rooted, taken, left, out, hrooted, hleft, hforest⟩ := g.exists_forest_eq
  have hout : out.Perm ((Tree.flatten left).map (·.id) ++ (Tree.flatten rooted).map (·.id)) := by
    have h := hleft.out_perm.trans (hrooted.out_perm.append_left _)
    rwa [List.append_nil] at h
  rw [hforest, Tree.flatten_append, List.map_append]
  refine (hout.trans List.perm_append_comm).nodup_iff.1 ?_
  exact hleft.out_nodup (hrooted.out_nodup List.nodup_nil)

theorem mem_flatten_forest_iff {g : Graph} {c : Category} : c ∈ Tree.flatten g.forest ↔ c ∈ g.nodes := by
  obtain ⟨rooted, taken, left, out, hrooted, hleft, hforest⟩ := g.exists_forest_eq
  rw [hforest, Tree.flatten_append, List.mem_append]
  constructor
  · rintro (hc | hc)
    · exact hrooted.mem_nodes c hc
    · exact hleft.mem_nodes c hc
  · intro hc
    have hid : c.id ∈ out := by
      by_cases htaken : c.id ∈ taken
      · exact hleft.subset_out htaken
      · exact hleft.covers c (mem_stranded_iff.2 ⟨hc, htaken⟩) rfl
    rcases hleft.mem_out_iff.1 hid with hid | hid
    · exact Or.inr (hleft.mem_flatten_of_id hc hid)
    · rcases hrooted.mem_out_iff.1 hid with hid | hid
      · exact Or.inl (hrooted.mem_flatten_of_id hc hid)
      · cases hid

theorem flatten_forest_perm (g : Graph) : (Tree.flatten g.forest).Perm g.nodes :=
  (List.perm_ext_iff_of_nodup (g.ids_forest_nodup.of_map _) g.nodes_nodup).2 fun _ =>
    mem_flatten_forest_iff

end Graph

namespace Category

theorem length_firstOccurrences (cs : List Category) :
    (firstOccurrences cs).length = (cs.map (·.id)).toFinset.card := by
  rw [← List.length_map (·.id), ← List.toFinset_card_of_nodup (firstOccurrences_nodup cs)]
  congr 1
  ext id
  rw [List.mem_toFinset, List.mem_toFinset, mem_ids_firstOccurrences]

end Category

namespace Tree

/-- The rebuilt forest holds the first category of every id once and unchanged, and nothing else, so the
sizes of its trees sum to the number of ids. -/
theorem rebuild_conserves (cs : List Category) :
    (flatten (rebuild cs)).Perm (Category.firstOccurrences cs) ∧
      (∀ c, c ∈ flatten (rebuild cs) ↔ cs.find? (·.id == c.id) = some c) ∧
      ((rebuild cs).map size).sum = (cs.map (·.id)).toFinset.card := by
  have hperm : (flatten (rebuild cs)).Perm (Category.firstOccurrences cs) :=
    (Graph.ofList cs).flatten_forest_perm
  refine ⟨hperm, ?_, ?_⟩
  · intro c
    rw [hperm.mem_iff, Category.mem_firstOccurrences_iff]
  · rw [sum_size, ← length_flatten, hperm.length_eq, Category.length_firstOccurrences]

end Tree

end Catalogue
