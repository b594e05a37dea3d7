import Catalogue.Proofs.Category.Cycles

set_option autoImplicit false

namespace Catalogue

namespace Tree

mutual

/-- A tree whose root is selected stays as it is. Of another one the root stays above what is left of its
children, if anything is. -/
def prune (select : Category → Bool) : Tree → Option Tree
  | node c ts =>
    if select c then some (node c ts)
    else
      match pruneAll select ts with
      | [] => none
      | u :: us => some (node c (u :: us))

def pruneAll (select : Category → Bool) : List Tree → List Tree
  | [] => []
  | t :: ts => (prune select t).toList ++ pruneAll select ts

end

variable {select : Category → Bool} {c : Category} {below ts : List Tree}

theorem pruneAll_eq_filterMap (select : Category → Bool) (ts : List Tree) :
    pruneAll select ts = ts.filterMap (prune select) := by
  induction ts with
  | nil => rfl
  | cons t ts ih =>
    rw [pruneAll, List.filterMap_cons, ih]
    cases prune select t <;> rfl

theorem pruneAll_cons_of_select (h : select c = true) :
    pruneAll select (node c below :: ts) = node c below :: pruneAll select ts := by
  rw [pruneAll, prune, if_pos h]
  rfl

theorem pruneAll_cons_of_nil (h : select c = false) (hbelow : pruneAll select below = []) :
    pruneAll select (node c below :: ts) = pruneAll select ts := by
  rw [pruneAll, prune, if_neg (Bool.eq_false_iff.1 h), hbelow]
  rfl

theorem pruneAll_cons_of_ne_nil (h : select c = false) (hbelow : pruneAll select below ≠ []) :
    pruneAll select (node c below :: ts) = node c (pruneAll select below) :: pruneAll select ts := by
  obtain ⟨u, us, hus⟩ := List.exists_cons_of_ne_nil hbelow
  rw [pruneAll, prune, if_neg (Bool.eq_false_iff.1 h), hus]
  rfl

theorem pruneAll_ne_nil_iff : pruneAll select ts ≠ [] ↔ ∃ d ∈ flatten ts, select d = true := by
  induction ts using forest_induction with
  | nil => simp [pruneAll, flatten]
  | cons c below ts ihbelow ihrest =>
    cases hc : select c with
    | true =>
      rw [pruneAll_cons_of_select hc]
      exact iff_of_true (List.cons_ne_nil _ _) ⟨c, mem_flatten_cons.2 (Or.inl rfl), hc⟩
    | false =>
      by_cases hnil : pruneAll select below = []
      · rw [pruneAll_cons_of_nil hc hnil, ihrest]
        constructor
        · rintro ⟨d, hd, hselect⟩
          exact ⟨d, mem_flatten_cons.2 (Or.inr (Or.inr hd)), hselect⟩
        · rintro ⟨d, hd, hselect⟩
          rcases mem_flatten_cons.1 hd with rfl | hd | hd
          · rw [hc] at hselect
            cases hselect
          · exact absurd hnil (ihbelow.2 ⟨d, hd, hselect⟩)
          · exact ⟨d, hd, hselect⟩
      · rw [pruneAll_cons_of_ne_nil hc hnil]
        obtain ⟨d, hd, hselect⟩ := ihbelow.1 hnil
        exact iff_of_true (List.cons_ne_nil _ _) ⟨d, mem_flatten_cons.2 (Or.inr (Or.inl hd)), hselect⟩

end Tree

namespace Graph

variable {g : Graph} {select keep : Category → Bool} {ts : List Tree}

/-! ### Trees that hold all children -/

theorem mem_flatten_of_mem_children (h : Tree.HasChildren g.children ts) {c d : Category}
    (hc : c ∈ Tree.flatten ts) (hd : d ∈ g.children c) : d ∈ Tree.flatten ts := by
  rw [← Tree.category_subtreesAll] at hc
  obtain ⟨t, ht, rfl⟩ := List.mem_map.1 hc
  rw [← h t ht] at hd
  obtain ⟨u, hu, rfl⟩ := List.mem_map.1 hd
  exact Tree.category_mem_flatten (Tree.mem_subtreesAll_of_mem_children ht hu)

theorem mem_flatten_iff_of_hasChildren (h : Tree.HasChildren g.children ts)
    (hroots : ∀ c ∈ ts.map Tree.category, c ∈ g.nodes) {d : Category} :
    d ∈ Tree.flatten ts ↔ d ∈ g.nodes ∧ ∃ c ∈ ts.map Tree.category, g.IsBelow d c := by
  constructor
  · intro hd
    induction ts using Tree.forest_induction with
    | nil => cases hd
    | cons c below ts ihbelow ihrest =>
      obtain ⟨hbelow, hchildren, hrest⟩ := Tree.hasChildren_cons_iff.1 h
      have hc : c ∈ g.nodes := hroots c List.mem_cons_self
      rcases Tree.mem_flatten_cons.1 hd with rfl | hd | hd
      · exact ⟨hc, d, List.mem_cons_self, .refl⟩
      · rw [hbelow] at ihbelow
        obtain ⟨hnode, e, he, hd⟩ := ihbelow hchildren (fun _ => mem_nodes_of_mem_children) hd
        exact ⟨hnode, c, List.mem_cons_self, hd.of_mem_children hc he⟩
      · obtain ⟨hnode, e, he, hd⟩ := ihrest hrest (fun e he => hroots e (List.mem_cons_of_mem _ he)) hd
        exact ⟨hnode, e, List.mem_cons_of_mem _ he, hd⟩
  · rintro ⟨hd, c, hc, hbelow⟩
    -- The chain of parents from `d` up to `c` is followed from its upper end.
    induction hbelow using Relation.ReflTransGen.head_induction_on with
    | refl =>
      obtain ⟨t, ht, rfl⟩ := List.mem_map.1 hc
      exact Tree.category_mem_flatten (Tree.mem_subtreesAll_of_mem ht)
    | @head x y hparent _ ih =>
      have hy := mem_nodes_of_parent? hparent
      exact mem_flatten_of_mem_children h (ih hy) ((mem_children_iff_parent? hy).2 ⟨hd, hparent⟩)

theorem mem_tree_iff_isBelow {c d : Category} {below : List Tree} (hc : c ∈ g.nodes)
    (hbelow : below.map Tree.category = g.children c) (hchildren : Tree.HasChildren g.children below) :
    d = c ∨ d ∈ Tree.flatten below ↔ d ∈ g.nodes ∧ g.IsBelow d c := by
  have hsingle : Tree.HasChildren g.children [.node c below] :=
    Tree.hasChildren_cons_iff.2 ⟨hbelow, hchildren, Tree.hasChildren_nil⟩
  have hroots : ∀ e ∈ [Tree.node c below].map Tree.category, e ∈ g.nodes := by
    intro e he
    rwa [List.mem_singleton.1 he]
  have hiff := mem_flatten_iff_of_hasChildren hsingle hroots (d := d)
  rw [Tree.mem_flatten_cons] at hiff
  simpa [Tree.flatten, Tree.category] using hiff

/-! ### Marks as pruning -/

def KeepsRelated (g : Graph) (keep select : Category → Bool) : Prop :=
  ∀ c ∈ g.nodes, keep c = true ↔ ∃ m ∈ g.nodes, select m = true ∧ (g.IsBelow c m ∨ g.IsBelow m c)

section

variable {c : Category} {below : List Tree} (hkeep : g.KeepsRelated keep select) (hc : c ∈ g.nodes)
  (hbelow : below.map Tree.category = g.children c) (hchildren : Tree.HasChildren g.children below)

include hkeep hc hbelow hchildren

theorem restrictAll_of_select (hselect : select c = true) :
    Tree.restrictAll keep (.node c below :: ts) = .node c below :: Tree.restrictAll keep ts := by
  have hkept : ∀ d, d = c ∨ d ∈ Tree.flatten below → keep d = true := by
    intro d hd
    obtain ⟨hnode, hdown⟩ := (mem_tree_iff_isBelow hc hbelow hchildren).1 hd
    exact (hkeep d hnode).2 ⟨c, hc, hselect, Or.inl hdown⟩
  have hwhole : Tree.restrictAll keep below = below :=
    (Tree.restrictAll_congr fun d hd => hkept d (Or.inr hd)).trans (Tree.restrictAll_true below)
  rw [Tree.restrictAll_cons_of_keep (hkept c (Or.inl rfl)), hwhole]

theorem keep_iff_pruneAll_ne_nil (hselect : select c = false)
    (habove : ∀ m, select m = true → ¬g.IsBelow c m) : keep c = true ↔ Tree.pruneAll select below ≠ [] := by
  have hmem : ∀ d, d = c ∨ d ∈ Tree.flatten below ↔ d ∈ g.nodes ∧ g.IsBelow d c :=
    fun _ => mem_tree_iff_isBelow hc hbelow hchildren
  rw [hkeep c hc, Tree.pruneAll_ne_nil_iff]
  constructor
  · rintro ⟨m, hm, hmatch, hup | hdown⟩
    · exact absurd hup (habove m hmatch)
    · rcases (hmem m).2 ⟨hm, hdown⟩ with rfl | hin
      · rw [hselect] at hmatch
        cases hmatch
      · exact ⟨m, hin, hmatch⟩
  · rintro ⟨m, hm, hmatch⟩
    obtain ⟨hnode, hdown⟩ := (hmem m).1 (Or.inr hm)
    exact ⟨m, hnode, hmatch, Or.inr hdown⟩

end

/-- Cutting trees down to what is related to something selected is pruning them, as long as nothing above their
roots is selected. -/
theorem restrictAll_eq_pruneAll (hkeep : g.KeepsRelated keep select) (h : Tree.HasChildren g.children ts)
    (hroots : ∀ c ∈ ts.map Tree.category, c ∈ g.nodes)
    (habove : ∀ c ∈ ts.map Tree.category, ∀ m, select m = true → g.IsBelow c m → m = c) :
    Tree.restrictAll keep ts = Tree.pruneAll select ts := by
  induction ts using Tree.forest_induction with
  | nil => rfl
  | cons c below ts ihbelow ihrest =>
    obtain ⟨hbelow, hchildren, hrest⟩ := Tree.hasChildren_cons_iff.1 h
    have hc : c ∈ g.nodes := hroots c List.mem_cons_self
    have htail := ihrest hrest (fun d hd => hroots d (List.mem_cons_of_mem _ hd))
      fun d hd => habove d (List.mem_cons_of_mem _ hd)
    cases hselect : select c with
    | true =>
      rw [restrictAll_of_select hkeep hc hbelow hchildren hselect, Tree.pruneAll_cons_of_select hselect, htail]
    | false =>
      have hfree : ∀ m, select m = true → ¬g.IsBelow c m := by
        intro m hmatch hup
        rw [habove c List.mem_cons_self m hmatch hup, hselect] at hmatch
        cases hmatch
      have hkept := keep_iff_pruneAll_ne_nil hkeep hc hbelow hchildren hselect hfree
      have hinner : Tree.restrictAll keep below = Tree.pruneAll select below := by
        rw [hbelow] at ihbelow
        refine ihbelow hchildren (fun _ => mem_nodes_of_mem_children) ?_
        intro d hd m hmatch hup
        by_contra hne
        exact hfree m hmatch (hup.parent_of_ne ((mem_children_iff_parent? hc).1 hd).2 (Ne.symm hne))
      by_cases hnil : Tree.pruneAll select below = []
      · have hdrop : keep c = false := Bool.eq_false_iff.2 fun hk => hkept.1 hk hnil
        rw [Tree.restrictAll_cons_of_drop hdrop, Tree.pruneAll_cons_of_nil hselect hnil, htail]
      · rw [Tree.restrictAll_cons_of_keep (hkept.2 hnil), Tree.pruneAll_cons_of_ne_nil hselect hnil, hinner, htail]

section

variable (g) (text language : String)

theorem mem_marked_iff_isBelow {c : Category} (hc : c ∈ g.nodes) : c.id ∈ g.marked text language ↔
    ∃ m ∈ g.nodes, m.nameContains text language = true ∧ (g.IsBelow c m ∨ g.IsBelow m c) := by
  rw [mem_marked_iff]
  constructor
  · rintro ⟨x, hx, he, m, hm, hrel⟩
    rw [eq_of_id_eq hx hc he] at hrel
    exact ⟨m, (mem_matching_iff.1 hm).1, (mem_matching_iff.1 hm).2, hrel⟩
  · rintro ⟨m, hm, hmatch, hrel⟩
    exact ⟨c, hc, rfl, m, mem_matching_iff.2 ⟨hm, hmatch⟩, hrel⟩

theorem restrictAll_marked : Tree.restrictAll (fun c => (g.marked text language).contains c.id) g.rooted =
    Tree.pruneAll (·.nameContains text language) g.rooted := by
  have hroots : ∀ c ∈ g.rooted.map Tree.category, c ∈ g.roots := by
    rw [category_rooted]
    exact fun _ hc => hc
  refine restrictAll_eq_pruneAll (fun c hc => ?_) g.hasChildren_rooted
    (fun c hc => mem_nodes_of_mem_roots (hroots c hc)) ?_
  · rw [List.contains_iff_mem]
    exact g.mem_marked_iff_isBelow text language hc
  · exact fun c hc m _ hup => hup.eq_of_mem_roots (hroots c hc)

theorem marked_parent {x p : Category} (hx : x ∈ g.nodes) (hp : g.parent? x = some p)
    (hm : (g.marked text language).contains x.id = true) : (g.marked text language).contains p.id = true := by
  rw [List.contains_iff_mem, mem_marked_iff] at hm ⊢
  exact hm.parent hx hp

theorem search_eq_flatten : g.search text language =
    Tree.flatten (Tree.restrictAll (fun c => (g.marked text language).contains c.id) g.rooted) :=
  g.walkFrom_roots _

theorem rebuild_search : Tree.rebuild (g.search text language) =
    Tree.pruneAll (·.nameContains text language) g.rooted := by
  rw [search_eq_flatten, rebuild_restrictAll, restrictAll_marked]
  exact fun x hx p hp => g.marked_parent text language hx hp

theorem idSet_roots_search (hacyclic : g.IsAcyclic) :
    idSet ((Tree.rebuild (g.search text language)).map (·.category.id)) = g.topMatches text language := by
  have hroots : (Tree.rebuild (g.search text language)).map (·.category.id) =
      (g.roots.filter fun c => (g.marked text language).contains c.id).map (·.id) := by
    rw [rebuild_search, ← restrictAll_marked, ← category_rooted, ← Tree.category_restrictAll, List.map_map]
    rfl
  rw [hroots]
  refine idSet_eq_of_mem_iff fun id => ?_
  simp only [List.mem_map, List.mem_filter, List.contains_iff_mem]
  constructor
  · rintro ⟨r, ⟨hr, hmarked⟩, rfl⟩
    obtain ⟨m, hm, hmatch, hrel⟩ :=
      (g.mem_marked_iff_isBelow text language (mem_nodes_of_mem_roots hr)).1 hmarked
    have hbelow : g.IsBelow m r := by
      rcases hrel with hup | hdown
      · rw [hup.eq_of_mem_roots hr]
        exact .refl
      · exact hdown
    have htop := (g.isBelow_topAncestor g.nodes.length m).root_unique hbelow (topAncestor_mem_roots hacyclic hm) hr
    exact ⟨m, mem_matching_iff.2 ⟨hm, hmatch⟩, congrArg Category.id htop⟩
  · rintro ⟨m, hm, rfl⟩
    obtain ⟨hnode, hmatch⟩ := mem_matching_iff.1 hm
    have htop := topAncestor_mem_roots hacyclic hnode
    refine ⟨_, ⟨htop, (g.mem_marked_iff_isBelow text language (mem_nodes_of_mem_roots htop)).2 ?_⟩, rfl⟩
    exact ⟨m, hnode, hmatch, Or.inr (g.isBelow_topAncestor _ m)⟩

end

end Graph

/-- Where there are no cycles, a search rebuilt is the rebuilt forest with every tree pruned to its matches, and
its roots are the top-level categories that the search reports. -/
theorem rebuild_search_eq_prune {cs : List Category} (hacyclic : (Graph.ofList cs).IsAcyclic)
    (text language : String) :
    Tree.rebuild ((Graph.ofList cs).search text language) =
        (Tree.rebuild cs).filterMap (Tree.prune (·.nameContains text language)) ∧
      Graph.idSet ((Tree.rebuild ((Graph.ofList cs).search text language)).map (·.category.id)) =
        (Graph.ofList cs).topMatches text language := by
  have hforest : Tree.rebuild cs = (Graph.ofList cs).rooted := Graph.forest_eq_rooted_of_isAcyclic hacyclic
  refine ⟨?_, Graph.idSet_roots_search _ text language hacyclic⟩
  rw [Graph.rebuild_search, hforest, Tree.pruneAll_eq_filterMap]

def sampleShelf : List Category :=
  [ { id := "c", names := [("en", "Citrus")], parent := some "b" },
    { id := "b", names := [("en", "Fresh")], parent := some "a" },
    { id := "a", names := [("en", "Fruit")], priority := 1 },
    { id := "b", names := [("en", "Tools")], parent := some "c" },
    { id := "d", names := [("en", "Dried")], parent := some "a" },
    { id := "s", names := [("en", "Rusk")], parent := some "s" } ]

theorem rebuild_sampleShelf : Tree.rebuild sampleShelf =
    [ .leaf { id := "s", names := [("en", "Rusk")], parent := some "s" },
      .node { id := "a", names := [("en", "Fruit")], priority := 1 }
        [ .node { id := "b", names := [("en", "Fresh")], parent := some "a" }
            [.leaf { id := "c", names := [("en", "Citrus")], parent := some "b" }],
          .leaf { id := "d", names := [("en", "Dried")], parent := some "a" } ] ] := by
  rw [Tree.rebuild, Graph.forest, Graph.roots_eq]
  cbv

theorem isAcyclic_sampleShelf : (Graph.ofList sampleShelf).IsAcyclic := by
  have hflat : (Graph.ofList sampleShelf).flat = Tree.flatten (Tree.rebuild sampleShelf) := by
    rw [rebuild_sampleShelf, Graph.flat, Graph.roots_eq]
    cbv
  exact (Graph.ofList sampleShelf).flat_eq_flatten_forest_iff.1 hflat

theorem rebuild_search_sampleShelf : (Graph.ofList sampleShelf).IsAcyclic ∧
    Tree.rebuild ((Graph.ofList sampleShelf).search "US" "en") =
      [ .leaf { id := "s", names := [("en", "Rusk")], parent := some "s" },
        .node { id := "a", names := [("en", "Fruit")], priority := 1 }
          [.node { id := "b", names := [("en", "Fresh")], parent := some "a" }
            [.leaf { id := "c", names := [("en", "Citrus")], parent := some "b" }]] ] ∧
    (Graph.ofList sampleShelf).topMatches "US" "en" = ["a", "s"] := by
  obtain ⟨hforest, hroots⟩ := rebuild_search_eq_prune isAcyclic_sampleShelf "US" "en"
  rw [rebuild_sampleShelf] at hforest
  refine ⟨isAcyclic_sampleShelf, hforest, ?_⟩
  rw [← hroots, hforest]
  change Graph.idSet ["s", "a"] = ["a", "s"]
  cbv

end Catalogue
