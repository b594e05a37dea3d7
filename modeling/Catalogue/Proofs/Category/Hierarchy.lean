import Catalogue.Proofs.Category.Expansion
import Catalogue.Proofs.Category.Pruning

/-!
The forest of stored categories. The rows for the categories without a parent hold, put together, whole trees of
the collection: all of a tree if its root has no parent, and nothing of the others. What starts on a cycle, or
below a parent that is missing, is in no row.
-/

set_option autoImplicit false

namespace Catalogue

theorem Tree.restrictAll_eq_filter {keep : Category → Bool} {ts : List Tree}
    (h : ∀ t ∈ ts, ∀ c ∈ preorder t, keep c = keep t.category) :
    restrictAll keep ts = ts.filter fun t => keep t.category := by
  induction ts with
  | nil => rfl
  | cons t ts ih =>
    obtain ⟨c, below⟩ := t
    have hrest := ih fun u hu => h u (List.mem_cons_of_mem _ hu)
    cases hc : keep c with
    | true =>
      have hbelow : restrictAll keep below = below := by
        refine (restrictAll_congr fun d hd => ?_).trans (restrictAll_true below)
        exact (h _ List.mem_cons_self d (List.mem_cons_of_mem _ hd)).trans hc
      rw [restrictAll_cons_of_keep hc, hbelow, hrest, List.filter_cons, category, if_pos hc]
    | false =>
      rw [restrictAll_cons_of_drop hc, hrest, List.filter_cons, category, if_neg (Bool.eq_false_iff.1 hc)]

theorem Store.equalsOption_null (d : Document) (name : String) :
    equalsOption (Fields.get? d name) .null = (Category.optionalField d name).isNone := by
  unfold Category.optionalField
  cases Fields.get? d name with
  | none => rfl
  | some v => cases v <;> rfl

theorem Store.isMatch_parent_null (d : Document) :
    isMatch d Expansion.rootsPredicate = .ok (Category.optionalField d "parent").isNone := by
  have hmeets : equalsOption (Document.lookup d "parent") .null = (Category.optionalField d "parent").isNone := by
    rw [Expansion.lookup_parent, equalsOption_null]
  simp only [isMatch, Expansion.rootsPredicate, List.allM, meets, operators?, hmeets, bind, Except.bind]
  cases (Category.optionalField d "parent").isNone <;> rfl

namespace Graph

variable {g h : Graph}

theorem mem_preorder_rooted_iff {t : Tree} (ht : t ∈ g.rooted) {c : Category} :
    c ∈ Tree.preorder t ↔ c ∈ g.nodes ∧ g.IsBelow c t.category := by
  have hroot := category_mem_roots ht
  have hroots : ∀ d ∈ [t].map Tree.category, d ∈ g.nodes := by simpa using mem_nodes_of_mem_roots hroot
  have hiff := mem_flatten_iff_of_hasChildren (hasChildren_of_mem_rooted ht) hroots (d := c)
  simpa [Tree.flatten] using hiff

/-- If a part holds what is below the categories without a parent, its trees from the roots are the trees of the
whole that start at these. -/
theorem rooted_of_parentless
    (hnodes : ∀ c, c ∈ h.nodes ↔ c ∈ g.nodes ∧ ∃ r ∈ g.nodes, r.parent = none ∧ g.IsBelow c r) :
    h.rooted = g.forest.filter fun t => t.category.parent.isNone := by
  have hroots : ∀ r ∈ g.nodes, r.parent = none → r ∈ g.roots := fun r hr hnone => by
    refine mem_roots_iff.2 ⟨hr, ?_⟩
    rw [parent?, hnone]
  have hup : g.IsUpward h := by
    intro c hc p hp
    obtain ⟨_, r, hr, hnone, hbelow⟩ := (hnodes c).1 hc
    exact (hnodes p).2
      ⟨mem_nodes_of_parent? hp, r, hr, hnone, hbelow.parent_of_mem_roots hp (hroots r hr hnone)⟩
  -- There is one root above a category at most, so a tree is in the part with all its categories or with none.
  have hwhole : ∀ t ∈ g.rooted, ∀ c ∈ Tree.preorder t, c ∈ h.nodes ↔ t.category.parent = none := by
    intro t ht c hc
    obtain ⟨hnode, hbelow⟩ := (mem_preorder_rooted_iff ht).1 hc
    have hroot := category_mem_roots ht
    rw [hnodes]
    constructor
    · rintro ⟨_, r, hr, hnone, habove⟩
      rw [hbelow.root_unique habove hroot (hroots r hr hnone), hnone]
    · exact fun hnone => ⟨hnode, _, mem_nodes_of_mem_roots hroot, hnone, hbelow⟩
  have hself : ∀ t : Tree, t.category ∈ Tree.preorder t := fun t => by
    cases t
    exact List.mem_cons_self
  have hkeep : ∀ t ∈ g.rooted, ∀ c ∈ Tree.preorder t, decide (c ∈ h.nodes) = t.category.parent.isNone := by
    intro t ht c hc
    rw [Bool.eq_iff_iff, decide_eq_true_eq, Option.isNone_iff_eq_none]
    exact hwhole t ht c hc
  rw [rooted_of_subset (fun c hc => ((hnodes c).1 hc).1) hup, Tree.restrictAll_eq_filter fun t ht c hc =>
    (hkeep t ht c hc).trans (hkeep t ht _ (hself t)).symm]
  rw [g.filter_forest fun c => c.parent.isNone]
  · exact List.filter_congr fun t ht => hkeep t ht _ (hself t)
  · intro c hnone
    rw [parent?, Option.isNone_iff_eq_none.1 hnone]

end Graph

/-! ### Rows of several matches -/

namespace IsCategoryCollection

variable {docs roots : List Document} (h : IsCategoryCollection docs) (collection : String)

include h

theorem graph_extend (hroots : roots ⊆ docs) :
    Expansion.graph (roots.map ((Expansion.lookup collection).extend docs)) =
      .ok (Graph.ofList (Expansion.members collection docs roots)) := by
  rw [Expansion.graph, h.mapM_readRow collection hroots]
  change Except.ok (Graph.ofList (List.flatMap _ (roots.map _))) = _
  rw [List.flatMap_map]
  rfl

theorem mem_members_iff (hroots : roots ⊆ docs) {c : Category} :
    c ∈ Expansion.members collection docs roots ↔
      c ∈ (Graph.ofDocuments docs).nodes ∧ ∃ r ∈ roots, (Graph.ofDocuments docs).IsBelow c r.category := by
  rw [Expansion.members, List.mem_flatMap]
  constructor
  · rintro ⟨r, hr, hc⟩
    obtain ⟨hnode, hbelow⟩ := (h.mem_row_iff collection (hroots hr)).1 hc
    exact ⟨hnode, r, hr, hbelow⟩
  · rintro ⟨hnode, r, hr, hbelow⟩
    exact ⟨r, hr, (h.mem_row_iff collection (hroots hr)).2 ⟨hnode, hbelow⟩⟩

theorem mem_nodes_members_iff (hroots : roots ⊆ docs) {c : Category} :
    c ∈ (Graph.ofList (Expansion.members collection docs roots)).nodes ↔
      c ∈ (Graph.ofDocuments docs).nodes ∧ ∃ r ∈ roots, (Graph.ofDocuments docs).IsBelow c r.category := by
  have hsub : Expansion.members collection docs roots ⊆ (Graph.ofDocuments docs).nodes :=
    fun c hc => ((h.mem_members_iff collection hroots).1 hc).1
  rw [Graph.mem_nodes_ofList_iff hsub, h.mem_members_iff collection hroots]

/-! ### The rows without a parent -/

theorem isMatch_rootsPredicate {d : Document} (hd : d ∈ docs) :
    Store.isMatch d Expansion.rootsPredicate = .ok d.category.parent.isNone := by
  rw [Store.isMatch_parent_null, h.optionalField_parent hd, Option.isNone_map]

theorem mem_satisfying_rootsPredicate_iff {d : Document} :
    d ∈ Store.satisfying Expansion.rootsPredicate docs ↔ d ∈ docs ∧ d.category.parent = none := by
  rw [Store.satisfying, List.mem_filter]
  refine and_congr_right fun hd => ?_
  rw [h.isMatch_rootsPredicate hd]
  cases d.category.parent <;> simp [Except.toOption]

theorem rooted_members : (Graph.ofList (Expansion.members collection docs
      (Store.satisfying Expansion.rootsPredicate docs))).rooted =
    (Tree.rebuild (docs.map Document.category)).filter fun t => t.category.parent.isNone := by
  refine Graph.rooted_of_parentless fun c => ?_
  rw [h.mem_nodes_members_iff collection (Store.satisfying_subset _ docs)]
  refine and_congr_right fun _ => ?_
  constructor
  · rintro ⟨r, hr, hbelow⟩
    obtain ⟨hr, hnone⟩ := h.mem_satisfying_rootsPredicate_iff.1 hr
    exact ⟨r.category, h.category_mem_nodes hr, hnone, hbelow⟩
  · rintro ⟨_, hnode, hnone, hbelow⟩
    obtain ⟨r, hr, rfl⟩ := h.mem_nodes_iff.1 hnode
    exact ⟨r, h.mem_satisfying_rootsPredicate_iff.2 ⟨hr, hnone⟩, hbelow⟩

end IsCategoryCollection

theorem StoredCategories.forest_eq_rebuild {m : Type → Type} [Monad m] [LawfulMonad m] {db : Database}
    {settings : Settings} {predicate : Document}
    (h : IsCategoryCollection (db.collection settings.categoryCollection))
    (hmatch : ∀ d ∈ db.collection settings.categoryCollection, ∃ b, Store.isMatch d predicate = .ok b)
    (search : Option NameSearch) :
    let docs := db.collection settings.categoryCollection
    let g := Graph.ofList (Expansion.members settings.categoryCollection docs (Store.satisfying predicate docs))
    (⟨Store.ofDatabase db, settings⟩ : StoredCategories m).forest predicate search =
      pure (.ok (Tree.rebuild (match search with
        | some s => g.search s.text (s.language.getD settings.defaultLanguage)
        | none => g.flat))) := by
  intro docs g
  have hgraph := h.graph_extend settings.categoryCollection (Store.satisfying_subset predicate docs)
  rw [StoredCategories.forest, StoredCategories.list, Expansion.traverse_eq hmatch, hgraph, pure_bind]
  rfl

/-- The forest of a stored collection is made of the trees, in the rebuilt forest of all its categories, whose root
has no parent, and a search leaves of it what is left when these trees are pruned to the matches. -/
theorem forest_eq_parentless {m : Type → Type} [Monad m] [LawfulMonad m] {db : Database} {settings : Settings}
    (h : IsCategoryCollection (db.collection settings.categoryCollection)) :
    let docs := db.collection settings.categoryCollection
    let trees := (Tree.rebuild (docs.map Document.category)).filter fun t => t.category.parent.isNone
    let stored : StoredCategories m := ⟨Store.ofDatabase db, settings⟩
    stored.forest Expansion.rootsPredicate none = pure (.ok trees) ∧
      ∀ s : NameSearch, stored.forest Expansion.rootsPredicate (some s) =
        pure (.ok (trees.filterMap
          (Tree.prune (·.nameContains s.text (s.language.getD settings.defaultLanguage))))) := by
  intro docs trees stored
  have hmatch : ∀ d ∈ docs, ∃ b, Store.isMatch d Expansion.rootsPredicate = .ok b :=
    fun d hd => ⟨_, h.isMatch_rootsPredicate hd⟩
  have hrooted := h.rooted_members settings.categoryCollection
  constructor
  · rw [StoredCategories.forest_eq_rebuild h hmatch, Graph.rebuild_flat, hrooted]
  · intro s
    rw [StoredCategories.forest_eq_rebuild h hmatch, Graph.rebuild_search, Tree.pruneAll_eq_filterMap, hrooted]

theorem rebuild_sampleStock :
    (Tree.rebuild (sampleStock.map Document.category)).filter (fun t => t.category.parent.isNone) =
      [ .node { id := "a" }
          [ .leaf { id := "d", parent := some "a", priority := 1 },
            .node { id := "b", parent := some "a", priority := 2 }
              [.leaf { id := "c", names := [("en", "Lemon")], parent := some "b" }] ],
        .leaf { id := "t" } ] := by
  rw [category_sampleStock, Tree.rebuild, Graph.forest, Graph.roots_eq]
  simp only [← Option.not_isSome]
  cbv

theorem forest_sampleStock : IsCategoryCollection sampleStock ∧
    (⟨Store.ofDatabase [("categories", sampleStock)], {}⟩ : StoredCategories Id).forest Expansion.rootsPredicate
        (some ⟨"LEMON", none⟩) =
      pure (.ok
        [ .node { id := "a" }
            [.node { id := "b", parent := some "a", priority := 2 }
              [.leaf { id := "c", names := [("en", "Lemon")], parent := some "b" }]] ]) := by
  have hstock : IsCategoryCollection (Database.collection [("categories", sampleStock)]
      ({} : Settings).categoryCollection) := isCategoryCollection_sampleStock
  obtain ⟨_, hsearch⟩ := forest_eq_parentless (m := Id) hstock
  refine ⟨isCategoryCollection_sampleStock, (hsearch ⟨"LEMON", none⟩).trans ?_⟩
  change pure (Except.ok (((Tree.rebuild (sampleStock.map Document.category)).filter
    fun t => t.category.parent.isNone).filterMap (Tree.prune (·.nameContains "LEMON" "en")))) = _
  rw [rebuild_sampleStock]
  rfl

end Catalogue
