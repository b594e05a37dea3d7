import Catalogue.Proofs.Category.Cycles

/-!
Which categories become roots. The trees from the roots leave the cycles and what hangs off them; this is gone
through in sibling order, and whatever comes first takes along all that is below it. So a category that is left
becomes a root if and only if it stands before everything above it. On a cycle that is the first member alone,
but a category that hangs off the cycle can stand before all of it too.
-/

set_option autoImplicit false

namespace Catalogue

namespace Category

def Precedes (a b : Category) : Prop := siblingOrder a b = .lt

instance (a b : Category) : Decidable (a.Precedes b) := inferInstanceAs (Decidable (siblingOrder a b = .lt))

theorem Precedes.asymm {a b : Category} (h : a.Precedes b) : ¬b.Precedes a := by
  have hswap : siblingOrder b a = (siblingOrder a b).swap := Std.OrientedCmp.eq_swap
  unfold Precedes at h ⊢
  rw [hswap, h]
  decide

theorem precedes_of_ne_gt {a b : Category} (hne : a.id ≠ b.id) (h : siblingOrder a b ≠ .gt) : a.Precedes b := by
  unfold Precedes
  cases ho : siblingOrder a b with
  | lt => rfl
  | eq => exact absurd (id_eq_of_siblingOrder ho) hne
  | gt => exact absurd ho h

theorem precedes_of_not_precedes {a b : Category} (hne : a.id ≠ b.id) (h : ¬a.Precedes b) : b.Precedes a := by
  refine precedes_of_ne_gt hne.symm fun hgt => h ?_
  exact Std.OrientedCmp.lt_of_gt hgt

end Category

namespace Graph

variable {g : Graph} {taken out : List String} {cs : List Category} {ts : List Tree} {c : Category}

/-! ### What is taken with its descendants -/

def ChildrenTaken (g : Graph) (taken : List String) : Prop :=
  ∀ x ∈ g.nodes, ∀ p, g.parent? x = some p → p.id ∈ taken → x.id ∈ taken

theorem ChildrenTaken.of_isBelow {x a : Category} (h : g.ChildrenTaken taken) (hx : x ∈ g.nodes)
    (hbelow : g.IsBelow x a) (ha : a.id ∈ taken) : x.id ∈ taken := by
  induction hbelow using Relation.ReflTransGen.head_induction_on with
  | refl => exact ha
  | @head x p hparent _ ih => exact h x hx p hparent (ih (mem_nodes_of_parent? hparent))

theorem Grows.childrenTaken (h : Grows g (fun _ => true) taken cs ts out) (htaken : g.ChildrenTaken taken) :
    g.ChildrenTaken out := by
  intro x hx p hparent hp
  have hpnode := mem_nodes_of_parent? hparent
  rcases h.mem_out_iff.1 hp with hp | hp
  · exact h.closed p (h.mem_flatten_of_id hpnode hp) x ((mem_children_iff_parent? hpnode).2 ⟨hx, hparent⟩) rfl
  · exact h.subset_out (htaken x hx p hparent hp)

theorem Grows.mem_out_singleton_iff {a : Category} (h : Grows g (fun _ => true) taken [a] ts out)
    (htaken : g.ChildrenTaken taken) (hc : c ∈ g.nodes) :
    c.id ∈ out ↔ c.id ∈ taken ∨ g.IsBelow c a := by
  constructor
  · intro hout
    rcases h.mem_out_iff.1 hout with hin | hin
    · obtain ⟨d, hd, hbelow⟩ := h.isBelow c (h.mem_flatten_of_id hc hin)
      exact Or.inr (List.mem_singleton.1 hd ▸ hbelow)
    · exact Or.inl hin
  · rintro (hin | hbelow)
    · exact h.subset_out hin
    · exact (h.childrenTaken htaken).of_isBelow hc hbelow (h.covers a List.mem_cons_self rfl)

/-- From an ascending list trees grow at those categories that are neither taken nor below an earlier one. -/
theorem Grows.mem_category_iff (h : Grows g (fun _ => true) taken cs ts out) (hnodes : ∀ c ∈ cs, c ∈ g.nodes)
    (hascending : cs.Pairwise Category.Precedes) (htaken : g.ChildrenTaken taken) :
    c ∈ ts.map Tree.category ↔
      c ∈ cs ∧ c.id ∉ taken ∧ ∀ d ∈ cs, d.Precedes c → ¬g.IsBelow c d := by
  induction h with
  | nil taken => simp
  | @skip taken out a cs ts ha rest ih =>
    have ha : a.id ∈ taken := ha.resolve_left (by decide)
    obtain ⟨_, htail⟩ := List.pairwise_cons.1 hascending
    rw [ih (fun d hd => hnodes d (List.mem_cons_of_mem _ hd)) htail htaken]
    constructor
    · rintro ⟨hc, hfree, hfirst⟩
      refine ⟨List.mem_cons_of_mem _ hc, hfree, fun d hd hbefore hbelow => ?_⟩
      rcases List.mem_cons.1 hd with rfl | hd
      · exact hfree (htaken.of_isBelow (hnodes c (List.mem_cons_of_mem _ hc)) hbelow ha)
      · exact hfirst d hd hbefore hbelow
    · rintro ⟨hc, hfree, hfirst⟩
      have hc : c ∈ cs := (List.mem_cons.1 hc).resolve_left fun he => hfree (he ▸ ha)
      exact ⟨hc, hfree, fun d hd => hfirst d (List.mem_cons_of_mem _ hd)⟩
  | @take taken mid out a cs below ts hnode _ ha branch rest _ ih =>
    obtain ⟨hbefore, htail⟩ := List.pairwise_cons.1 hascending
    -- the first category alone grows its tree, so the others start with it and all below it taken
    have hone : Grows g (fun _ => true) taken [a] [.node a below] mid := .take hnode rfl ha branch (.nil mid)
    rw [List.map_cons, List.mem_cons, ih (fun d hd => hnodes d (List.mem_cons_of_mem _ hd)) htail
      (hone.childrenTaken htaken)]
    constructor
    · rintro (rfl | ⟨hc, hfree, hfirst⟩)
      · refine ⟨List.mem_cons_self, ha, fun d hd hlt => ?_⟩
        rcases List.mem_cons.1 hd with rfl | hd
        · exact absurd hlt hlt.asymm
        · exact absurd hlt (hbefore d hd).asymm
      · rw [hone.mem_out_singleton_iff htaken (hnodes c (List.mem_cons_of_mem _ hc)), not_or] at hfree
        refine ⟨List.mem_cons_of_mem _ hc, hfree.1, fun d hd => ?_⟩
        rcases List.mem_cons.1 hd with rfl | hd
        · exact fun _ => hfree.2
        · exact hfirst d hd
    · rintro ⟨hc, hfree, hfirst⟩
      rcases List.mem_cons.1 hc with rfl | hc
      · exact Or.inl rfl
      · have habove := hfirst a List.mem_cons_self (hbefore c hc)
        refine Or.inr ⟨hc, fun hm => ?_, fun d hd => hfirst d (List.mem_cons_of_mem _ hd)⟩
        rw [hone.mem_out_singleton_iff htaken (hnodes c (List.mem_cons_of_mem _ hc))] at hm
        exact hm.elim hfree habove

/-! ### Categories without a root above them -/

/-- The parents of the category lead to a cycle, on which it may lie itself. -/
def LeadsToCycle (g : Graph) (c : Category) : Prop := ∃ a, g.IsBelow c a ∧ g.IsOnCycle a

theorem IsOnCycle.mem_nodes (h : g.IsOnCycle c) : c ∈ g.nodes := by
  obtain ⟨_, _, hparent⟩ := Relation.TransGen.tail'_iff.1 h
  exact mem_nodes_of_parent? hparent

theorem not_mem_flatten_rooted_iff (hc : c ∈ g.nodes) : c ∉ Tree.flatten g.rooted ↔ g.LeadsToCycle c := by
  rw [mem_flatten_rooted_iff]
  constructor
  · intro hfree
    have hbelow := g.isBelow_topAncestor g.nodes.length c
    refine ⟨_, hbelow, (parent?_topAncestor_or_cycle hc).resolve_left fun htop => hfree ⟨hc, ?_⟩⟩
    exact ⟨_, mem_roots_iff.2 ⟨hbelow.mem_nodes hc, htop⟩, hbelow⟩
  · rintro ⟨a, habove, hcycle⟩ ⟨_, r, hr, hbelow⟩
    have htop := (mem_roots_iff.1 hr).2
    rcases habove.total hbelow with hup | hup
    · exact parent?_ne_none_of_cycle hcycle hup htop
    · exact parent?_ne_none_of_cycle hcycle (hup.eq_of_mem_roots hr ▸ .refl) htop

/-! ### Promoted categories -/

theorem sortSiblings_filter_precedes (g : Graph) (select : Category → Bool) :
    (Category.sortSiblings (g.nodes.filter select)).Pairwise Category.Precedes := by
  have hids := List.pairwise_map.1 (g.ids_sortSiblings_filter_nodup select)
  exact (hids.and (Category.sortSiblings_ascending _)).imp fun h => Category.precedes_of_ne_gt h.1 h.2

theorem mem_category_forest_iff : c ∈ g.forest.map Tree.category ↔ c ∈ g.nodes ∧
    (g.parent? c = none ∨ g.LeadsToCycle c ∧ ∀ a, a ≠ c → g.IsBelow c a → c.Precedes a) := by
  obtain ⟨taken, hrooted⟩ := g.exists_grows_rooted
  obtain ⟨left, out, hleft⟩ :=
    g.exists_grows (fun _ => true) taken (g.stranded taken) fun _ hd => (mem_stranded_iff.1 hd).1
  have htaken : g.ChildrenTaken taken := hrooted.childrenTaken fun _ _ _ _ hm => absurd hm List.not_mem_nil
  -- what the roots leave is what leads to a cycle, so the second pass is the one that promotes
  have hstranded : ∀ d ∈ g.nodes, d.id ∉ taken ↔ g.LeadsToCycle d := by
    intro d hd
    rw [← not_mem_flatten_rooted_iff hd, hrooted.mem_out_iff, or_iff_left List.not_mem_nil]
    exact not_congr ⟨hrooted.mem_flatten_of_id hd, fun hm => List.mem_map_of_mem hm⟩
  rw [forest_eq_of_grows hrooted hleft, List.map_append, List.mem_append, category_rooted, mem_roots_iff,
    hleft.mem_category_iff (fun d hd => (mem_stranded_iff.1 hd).1) (g.sortSiblings_filter_precedes _) htaken,
    and_or_left]
  refine or_congr_right ?_
  constructor
  · rintro ⟨hc, hfree, hfirst⟩
    have hnode := (mem_stranded_iff.1 hc).1
    refine ⟨hnode, (hstranded c hnode).1 hfree, fun a hne habove => ?_⟩
    have ha := habove.mem_nodes hnode
    have hfree' : a.id ∉ taken := fun hm => hfree (htaken.of_isBelow hnode habove hm)
    refine Category.precedes_of_not_precedes (fun he => hne (eq_of_id_eq ha hnode he)) fun hbefore => ?_
    exact hfirst a (mem_stranded_iff.2 ⟨ha, hfree'⟩) hbefore habove
  · rintro ⟨hnode, hleads, hfirst⟩
    have hfree := (hstranded c hnode).2 hleads
    refine ⟨mem_stranded_iff.2 ⟨hnode, hfree⟩, hfree, fun d _ hbefore hbelow => ?_⟩
    by_cases hd : d = c
    · exact (hd ▸ hbefore).asymm (hd ▸ hbefore)
    · exact (hfirst d hd hbelow).asymm hbefore

/-- The category lies on a cycle and stands before all others on it. -/
def IsLeastOnCycle (g : Graph) (c : Category) : Prop :=
  g.IsOnCycle c ∧ ∀ a, a ≠ c → g.IsBelow c a → g.IsBelow a c → c.Precedes a

/-- The category hangs off a cycle without lying on it, and stands before everything above it. -/
def IsAheadOfCycle (g : Graph) (c : Category) : Prop :=
  ¬g.IsOnCycle c ∧ g.LeadsToCycle c ∧ ∀ a, a ≠ c → g.IsBelow c a → c.Precedes a

theorem promoted_iff : (g.LeadsToCycle c ∧ ∀ a, a ≠ c → g.IsBelow c a → c.Precedes a) ↔
    g.IsLeastOnCycle c ∨ g.IsAheadOfCycle c := by
  by_cases hcycle : g.IsOnCycle c
  · have hleads : g.LeadsToCycle c := ⟨c, .refl, hcycle⟩
    rw [or_iff_left fun h : g.IsAheadOfCycle c => h.1 hcycle, and_iff_right hleads]
    constructor
    · exact fun h => ⟨hcycle, fun a hne habove _ => h a hne habove⟩
    · exact fun h a hne habove => h.2 a hne habove (hcycle.isBelow_symm habove)
  · rw [or_iff_right fun h : g.IsLeastOnCycle c => hcycle h.1]
    exact (and_iff_right hcycle).symm

theorem exists_isLeastOnCycle (h : g.IsOnCycle c) : ∃ r, g.IsBelow c r ∧ g.IsLeastOnCycle r := by
  classical
  have hmem : c ∈ Category.sortSiblings (g.nodes.filter fun a => decide (g.IsBelow c a)) := by
    rw [Category.mem_sortSiblings, List.mem_filter, decide_eq_true_eq]
    exact ⟨h.mem_nodes, .refl⟩
  obtain ⟨r, rest, hsorted⟩ := List.exists_cons_of_ne_nil (List.ne_nil_of_mem hmem)
  have hiff : ∀ a, a ∈ r :: rest ↔ a ∈ g.nodes ∧ g.IsBelow c a := by
    intro a
    rw [← hsorted, Category.mem_sortSiblings, List.mem_filter, decide_eq_true_eq]
  have hascending := g.sortSiblings_filter_precedes fun a => decide (g.IsBelow c a)
  rw [hsorted, List.pairwise_cons] at hascending
  have hr : g.IsBelow c r := ((hiff r).1 List.mem_cons_self).2
  refine ⟨r, hr, h.of_isBelow hr, fun a hne habove _ => hascending.1 a ?_⟩
  have ha := (hiff a).2 ⟨habove.mem_nodes (h.of_isBelow hr).mem_nodes, hr.trans habove⟩
  exact (List.mem_cons.1 ha).resolve_left hne

theorem existsUnique_root_of_cycle (h : g.IsOnCycle c) :
    ∃! r, r ∈ g.forest.map Tree.category ∧ g.IsBelow c r ∧ g.IsBelow r c := by
  obtain ⟨r, hr, hleast⟩ := exists_isLeastOnCycle h
  have hroot : r ∈ g.forest.map Tree.category :=
    mem_category_forest_iff.2 ⟨hleast.1.mem_nodes, Or.inr (promoted_iff.2 (Or.inl hleast))⟩
  refine ⟨r, ⟨hroot, hr, h.isBelow_symm hr⟩, ?_⟩
  rintro s ⟨hs, hbelow, habove⟩
  have hcycle := h.of_isBelow hbelow
  obtain ⟨_, hfirst⟩ :=
    (mem_category_forest_iff.1 hs).2.resolve_left (parent?_ne_none_of_cycle hcycle .refl)
  by_contra hne
  have hrs : g.IsBelow r s := (h.isBelow_symm hr).trans hbelow
  exact (hfirst r (Ne.symm hne) (habove.trans hr)).asymm (hleast.2 s hne hrs (habove.trans hr))

/-! ### Categories that stay below their parents -/

theorem Grows.children_sublist {keep : Category → Bool} (h : Grows g keep taken cs ts out) :
    ∀ t ∈ Tree.subtreesAll ts, (t.children.map Tree.category).Sublist (g.children t.category) := by
  induction h with
  | nil taken => simp [Tree.subtreesAll]
  | skip _ _ ih => exact ih
  | take _ _ _ branch _ ihbranch ihrest =>
    intro t ht
    rw [Tree.subtreesAll, Tree.subtrees, List.cons_append, List.mem_cons, List.mem_append] at ht
    rcases ht with rfl | ht | ht
    · exact branch.category_sublist
    · exact ihbranch t ht
    · exact ihrest t ht

theorem children_forest_sublist (g : Graph) :
    ∀ t ∈ Tree.subtreesAll g.forest, (t.children.map Tree.category).Sublist (g.children t.category) := by
  obtain ⟨rooted, taken, left, out, hrooted, hleft, hforest⟩ := g.exists_forest_eq
  intro t ht
  rw [hforest] at ht
  obtain ⟨r, hr, ht⟩ := Tree.mem_subtreesAll_iff.1 ht
  rcases List.mem_append.1 hr with hr | hr
  · exact hrooted.children_sublist t (Tree.mem_subtreesAll_iff.2 ⟨r, hr, ht⟩)
  · exact hleft.children_sublist t (Tree.mem_subtreesAll_iff.2 ⟨r, hr, ht⟩)

theorem parent?_children_forest (g : Graph) :
    ∀ t ∈ Tree.subtreesAll g.forest, ∀ u ∈ t.children, g.parent? u.category = some t.category := by
  intro t ht u hu
  have hnode : t.category ∈ g.nodes := mem_flatten_forest_iff.1 (Tree.category_mem_flatten ht)
  have hchild := (g.children_forest_sublist t ht).subset (List.mem_map_of_mem hu)
  exact ((mem_children_iff_parent? hnode).1 hchild).2

theorem exists_parent_of_not_root (hc : c ∈ g.nodes) (hroot : c ∉ g.forest.map Tree.category) :
    ∃ t ∈ Tree.subtreesAll g.forest, c.parent = some t.category.id ∧ c ∈ t.children.map Tree.category := by
  have hin := mem_flatten_forest_iff.2 hc
  rw [← Tree.category_subtreesAll] at hin
  obtain ⟨u, hu, rfl⟩ := List.mem_map.1 hin
  rcases Tree.mem_or_mem_children _ u hu with htop | ⟨t, ht, hut⟩
  · exact absurd (List.mem_map_of_mem htop) hroot
  · have hparent := g.parent?_children_forest t ht u hut
    exact ⟨t, ht, (parent?_eq_some_iff.1 hparent).2.1, List.mem_map_of_mem hut⟩

theorem parent?_eq_none_iff : g.parent? c = none ↔
    ∀ p, c.parent = some p → p = c.id ∨ p ∉ g.nodes.map (·.id) := by
  rw [Option.eq_none_iff_forall_ne_some]
  constructor
  · intro hnone p hparent
    rw [or_iff_not_imp_left]
    rintro hne hm
    obtain ⟨q, hq, rfl⟩ := List.mem_map.1 hm
    exact hnone q (parent?_eq_some_iff.2 ⟨hq, hparent, hne⟩)
  · intro h q hq
    obtain ⟨hnode, hparent, hne⟩ := parent?_eq_some_iff.1 hq
    exact (h q.id hparent).elim hne fun hm => hm (List.mem_map_of_mem hnode)

end Graph

/-- The rebuilt forest has as roots the categories without a parent in the list, the first member of each cycle,
and what hangs off a cycle and stands before everything above it. All others are below their parents. -/
theorem roots_of_rebuild (cs : List Category) :
    (∀ c, c ∈ (Tree.rebuild cs).map Tree.category ↔ c ∈ Category.firstOccurrences cs ∧
        ((∀ p, c.parent = some p → p = c.id ∨ p ∉ cs.map (·.id)) ∨ (Graph.ofList cs).IsLeastOnCycle c ∨
          (Graph.ofList cs).IsAheadOfCycle c)) ∧
      (∀ c, (Graph.ofList cs).IsOnCycle c → ∃! r, r ∈ (Tree.rebuild cs).map Tree.category ∧
        (Graph.ofList cs).IsBelow c r ∧ (Graph.ofList cs).IsBelow r c) ∧
      ∀ c ∈ Category.firstOccurrences cs, c ∉ (Tree.rebuild cs).map Tree.category →
        ∃ t ∈ Tree.subtreesAll (Tree.rebuild cs), c.parent = some t.category.id ∧
          c ∈ t.children.map Tree.category := by
  refine ⟨fun c => ?_, fun c => Graph.existsUnique_root_of_cycle,
    fun c => Graph.exists_parent_of_not_root (g := Graph.ofList cs)⟩
  have hids : ∀ p, p ∈ (Graph.ofList cs).nodes.map (·.id) ↔ p ∈ cs.map (·.id) :=
    fun p => Category.mem_ids_firstOccurrences
  have hroots := Graph.mem_category_forest_iff (g := Graph.ofList cs) (c := c)
  rw [Graph.promoted_iff, Graph.parent?_eq_none_iff] at hroots
  simp only [hids] at hroots
  exact hroots

def aheadOfCycle : List Category :=
  [ { id := "a", parent := some "b" },
    { id := "b", parent := some "a" },
    { id := "c", parent := some "a", priority := -1 } ]

theorem rebuild_aheadOfCycle : Tree.rebuild aheadOfCycle =
    [ .leaf { id := "c", parent := some "a", priority := -1 },
      .node { id := "a", parent := some "b" } [.leaf { id := "b", parent := some "a" }] ] := by
  rw [Tree.rebuild, Graph.forest, Graph.roots_eq]
  cbv

theorem not_only_cycle_members : ¬∀ cs : List Category, (cs.map (·.id)).Nodup → ∀ c ∈ cs,
    c ∈ (Tree.rebuild cs).map Tree.category →
      (∀ p, c.parent = some p → p = c.id ∨ p ∉ cs.map (·.id)) ∨ (Graph.ofList cs).IsLeastOnCycle c := by
  intro h
  let a : Category := { id := "a", parent := some "b" }
  let b : Category := { id := "b", parent := some "a" }
  let c : Category := { id := "c", parent := some "a", priority := -1 }
  have hc : c ∈ (Tree.rebuild aheadOfCycle).map Tree.category := by
    rw [rebuild_aheadOfCycle]
    exact List.mem_cons_self
  rcases h aheadOfCycle (by decide) c (by decide) hc with hfree | ⟨hcycle, _⟩
  · exact absurd (hfree "a" rfl) (by decide)
  · have habove : ∀ x, Relation.TransGen (fun x y => (Graph.ofList aheadOfCycle).parent? x = some y) c x →
        x = a ∨ x = b := by
      intro x hx
      induction hx with
      | single hx =>
        exact Or.inl (Option.some.inj hx).symm
      | tail _ hstep ih =>
        rcases ih with rfl | rfl
        · exact Or.inr (Option.some.inj hstep).symm
        · exact Or.inl (Option.some.inj hstep).symm
    exact absurd (habove c hcycle) (by decide)

end Catalogue
