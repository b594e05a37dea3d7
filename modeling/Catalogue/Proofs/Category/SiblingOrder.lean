import Catalogue.Proofs.Category.Promotion

set_option autoImplicit false

namespace Catalogue

namespace Graph

variable {g : Graph} {c : Category}

theorem roots_precede (g : Graph) : g.roots.Pairwise Category.Precedes := g.sortSiblings_filter_precedes _

theorem children_forest_precede (g : Graph) :
    ∀ t ∈ Tree.subtreesAll g.forest, (t.children.map Tree.category).Pairwise Category.Precedes := by
  intro t ht
  have hchildren : (g.children t.category).Pairwise Category.Precedes := g.sortSiblings_filter_precedes _
  exact hchildren.sublist (g.children_forest_sublist t ht)

theorem category_subtrees_forest_nodup (g : Graph) :
    ((Tree.subtreesAll g.forest).map Tree.category).Nodup := by
  rw [Tree.category_subtreesAll]
  exact g.ids_forest_nodup.of_map _

theorem category_child_not_mem_roots (g : Graph) {t u : Tree} (ht : t ∈ Tree.subtreesAll g.forest)
    (hu : u ∈ t.children) : u.category ∉ g.forest.map Tree.category := by
  intro hroot
  have hnodup := ((Tree.subtreesAll_perm g.forest).map Tree.category).nodup_iff.1 g.category_subtrees_forest_nodup
  rw [List.map_append] at hnodup
  have hbelow : u ∈ (Tree.subtreesAll g.forest).flatMap Tree.children := List.mem_flatMap.2 ⟨t, ht, hu⟩
  exact List.disjoint_of_nodup_append hnodup hroot (List.mem_map_of_mem hbelow)

theorem mem_children_forest_iff {t : Tree} (ht : t ∈ Tree.subtreesAll g.forest) :
    c ∈ t.children.map Tree.category ↔
      c ∈ g.nodes ∧ g.parent? c = some t.category ∧ c ∉ g.forest.map Tree.category := by
  constructor
  · intro hc
    obtain ⟨u, hu, rfl⟩ := List.mem_map.1 hc
    have hnode := mem_flatten_forest_iff.1 (Tree.category_mem_flatten (Tree.mem_subtreesAll_of_mem_children ht hu))
    exact ⟨hnode, g.parent?_children_forest t ht u hu, g.category_child_not_mem_roots ht hu⟩
  · rintro ⟨hc, hparent, hroot⟩
    obtain ⟨s, hs, _, hchild⟩ := exists_parent_of_not_root hc hroot
    obtain ⟨u, hu, rfl⟩ := List.mem_map.1 hchild
    have hcategory : s.category = t.category :=
      Option.some.inj ((g.parent?_children_forest s hs u hu).symm.trans hparent)
    exact List.inj_on_of_nodup_map g.category_subtrees_forest_nodup hs ht hcategory ▸ hchild

theorem exists_promoted (g : Graph) : ∃ promoted, g.forest.map Tree.category = g.roots ++ promoted ∧
    (∀ c ∈ promoted, g.parent? c ≠ none) ∧ promoted.Pairwise Category.Precedes := by
  obtain ⟨left, taken, hforest, hsub, hparent⟩ := g.exists_forest_eq_rooted_append
  refine ⟨left.map Tree.category, ?_, ?_, ?_⟩
  · rw [hforest, List.map_append, category_rooted]
  · intro c hc
    obtain ⟨t, ht, rfl⟩ := List.mem_map.1 hc
    exact hparent t ht
  · have hstranded : (g.stranded taken).Pairwise Category.Precedes := g.sortSiblings_filter_precedes _
    exact hstranded.sublist hsub

theorem LeadsToCycle.parent?_ne_none (h : g.LeadsToCycle c) : g.parent? c ≠ none := by
  obtain ⟨a, hbelow, hcycle⟩ := h
  rcases hbelow.cases_head with rfl | ⟨p, hparent, _⟩
  · exact parent?_ne_none_of_cycle hcycle .refl
  · exact Option.ne_none_iff_exists'.2 ⟨p, hparent⟩

theorem mem_promoted_iff {promoted : List Category} (hroots : g.forest.map Tree.category = g.roots ++ promoted)
    (hparent : ∀ d ∈ promoted, g.parent? d ≠ none) :
    c ∈ promoted ↔ c ∈ g.nodes ∧ (g.IsLeastOnCycle c ∨ g.IsAheadOfCycle c) := by
  have hmem := mem_category_forest_iff (g := g) (c := c)
  rw [hroots, List.mem_append, promoted_iff] at hmem
  constructor
  · intro hc
    obtain ⟨hnode, htop⟩ := hmem.1 (Or.inr hc)
    exact ⟨hnode, htop.resolve_left (hparent c hc)⟩
  · rintro ⟨hnode, hfirst⟩
    refine (hmem.2 ⟨hnode, Or.inr hfirst⟩).resolve_left fun hroot => ?_
    exact (promoted_iff.2 hfirst).1.parent?_ne_none (mem_roots_iff.1 hroot).2

theorem promoted_eq_nil_iff {promoted : List Category} (hroots : g.forest.map Tree.category = g.roots ++ promoted) :
    promoted = [] ↔ g.IsAcyclic := by
  constructor
  · intro hnil c hcycle
    obtain ⟨r, ⟨hr, hbelow, _⟩, _⟩ := existsUnique_root_of_cycle hcycle
    rw [hroots, hnil, List.append_nil] at hr
    exact parent?_ne_none_of_cycle hcycle hbelow (mem_roots_iff.1 hr).2
  · intro hacyclic
    rw [forest_eq_rooted_of_isAcyclic hacyclic, category_rooted] at hroots
    exact List.self_eq_append_right.1 hroots

end Graph

/-- In a rebuilt forest the children of each category ascend; they are those of the list that are no roots. The roots
are the categories without a parent in the list, which ascend, and then the promoted ones, which ascend too and of
which there are some just where there is a cycle. All roots ascend together if and only if the ones without a parent
stand before the promoted ones in sibling order. -/
theorem siblings_of_rebuild (cs : List Category) :
    let g := Graph.ofList cs
    (∀ t ∈ Tree.subtreesAll (Tree.rebuild cs), (t.children.map Tree.category).Pairwise Category.Precedes) ∧
      (∀ t ∈ Tree.subtreesAll (Tree.rebuild cs), ∀ c, c ∈ t.children.map Tree.category ↔
        c ∈ Category.firstOccurrences cs ∧ g.parent? c = some t.category ∧
          c ∉ (Tree.rebuild cs).map Tree.category) ∧
      ∃ parentless promoted, (Tree.rebuild cs).map Tree.category = parentless ++ promoted ∧
        (∀ c, c ∈ parentless ↔ c ∈ Category.firstOccurrences cs ∧ g.parent? c = none) ∧
        (∀ c, c ∈ promoted ↔
          c ∈ Category.firstOccurrences cs ∧ (g.IsLeastOnCycle c ∨ g.IsAheadOfCycle c)) ∧
        (∀ c ∈ promoted, g.parent? c ≠ none) ∧
        parentless.Pairwise Category.Precedes ∧ promoted.Pairwise Category.Precedes ∧
        (promoted = [] ↔ g.IsAcyclic) ∧
        (((Tree.rebuild cs).map Tree.category).Pairwise Category.Precedes ↔
          ∀ c ∈ parentless, ∀ p ∈ promoted, c.Precedes p) := by
  intro g
  refine ⟨g.children_forest_precede, fun t ht c => Graph.mem_children_forest_iff ht, ?_⟩
  obtain ⟨promoted, hroots, hparent, hpromoted⟩ := g.exists_promoted
  have hforest : (Tree.rebuild cs).map Tree.category = g.roots ++ promoted := hroots
  refine ⟨g.roots, promoted, hforest, fun c => Graph.mem_roots_iff,
    fun c => Graph.mem_promoted_iff hroots hparent, hparent, g.roots_precede, hpromoted,
    Graph.promoted_eq_nil_iff hroots, ?_⟩
  rw [hforest, List.pairwise_append]
  exact ⟨fun h => h.2.2, fun h => ⟨g.roots_precede, hpromoted, h⟩⟩

def lateCycle : List Category :=
  [{ id := "x" }, { id := "b", parent := some "a" }, { id := "a", parent := some "b" }]

theorem rebuild_lateCycle : Tree.rebuild lateCycle =
    [ .leaf { id := "x" },
      .node { id := "a", parent := some "b" } [.leaf { id := "b", parent := some "a" }] ] := by
  rw [Tree.rebuild, Graph.forest, Graph.roots_eq]
  cbv

theorem not_all_roots_ascending : ¬∀ cs : List Category,
    ((Tree.rebuild cs).map Tree.category).Pairwise Category.Precedes ∧
      ∀ t ∈ Tree.subtreesAll (Tree.rebuild cs), (t.children.map Tree.category).Pairwise Category.Precedes := by
  intro h
  have hroots := (h lateCycle).1
  rw [rebuild_lateCycle] at hroots
  have hfirst : ({ id := "x" } : Category).Precedes { id := "a", parent := some "b" } :=
    List.rel_of_pairwise_cons hroots List.mem_cons_self
  exact absurd hfirst (by decide)

end Catalogue
