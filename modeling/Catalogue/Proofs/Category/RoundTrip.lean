import Catalogue.Proofs.Category.Growth
import Mathlib.Data.List.Nodup

set_option autoImplicit false

namespace Catalogue

namespace Tree

/-! ### Subtrees -/

mutual

def subtrees : Tree → List Tree
  | node c ts => node c ts :: subtreesAll ts

def subtreesAll : List Tree → List Tree
  | [] => []
  | t :: ts => subtrees t ++ subtreesAll ts

end

mutual

theorem category_subtrees (t : Tree) : (subtrees t).map category = preorder t := by
  cases t with
  | node c ts => simp only [subtrees, preorder, List.map_cons, category, category_subtreesAll]

theorem category_subtreesAll (ts : List Tree) : (subtreesAll ts).map category = flatten ts := by
  cases ts with
  | nil => rfl
  | cons t ts => simp only [subtreesAll, flatten, List.map_append, category_subtrees, category_subtreesAll]

end

theorem mem_subtrees_self (t : Tree) : t ∈ subtrees t := by
  cases t with
  | node c ts => exact List.mem_cons_self

theorem mem_subtreesAll_iff {t : Tree} {ts : List Tree} :
    t ∈ subtreesAll ts ↔ ∃ u ∈ ts, t ∈ subtrees u := by
  induction ts with
  | nil => simp [subtreesAll]
  | cons u ts ih => simp [subtreesAll, ih]

theorem mem_subtreesAll_of_mem {t : Tree} {ts : List Tree} (ht : t ∈ ts) : t ∈ subtreesAll ts :=
  mem_subtreesAll_iff.2 ⟨t, ht, t.mem_subtrees_self⟩

theorem category_mem_flatten {t : Tree} {ts : List Tree} (ht : t ∈ subtreesAll ts) :
    t.category ∈ flatten ts := by
  rw [← category_subtreesAll]
  exact List.mem_map_of_mem ht

theorem sublist_subtreesAll (ts : List Tree) : ts.Sublist (subtreesAll ts) := by
  induction ts with
  | nil => exact .slnil
  | cons t ts ih =>
    have ht : [t].Sublist (subtrees t) := List.singleton_sublist.2 t.mem_subtrees_self
    exact ht.append ih

mutual

theorem subtreesAll_children_sublist (t : Tree) :
    ∀ u ∈ subtrees t, (subtreesAll u.children).Sublist (subtrees t) := by
  cases t with
  | node c ts =>
    intro u hu
    rw [subtrees, List.mem_cons] at hu
    rcases hu with rfl | hu
    · exact List.sublist_cons_self _ _
    · exact (subtreesAll_sublist ts u hu).cons _

theorem subtreesAll_sublist (ts : List Tree) :
    ∀ u ∈ subtreesAll ts, (subtreesAll u.children).Sublist (subtreesAll ts) := by
  cases ts with
  | nil => simp [subtreesAll]
  | cons t ts =>
    intro u hu
    rw [subtreesAll, List.mem_append] at hu
    rcases hu with hu | hu
    · exact (subtreesAll_children_sublist t u hu).trans (List.sublist_append_left _ _)
    · exact (subtreesAll_sublist ts u hu).trans (List.sublist_append_right _ _)

end

theorem mem_subtreesAll_of_mem_children {t u : Tree} {ts : List Tree} (ht : t ∈ subtreesAll ts)
    (hu : u ∈ t.children) : u ∈ subtreesAll ts :=
  (subtreesAll_sublist ts t ht).subset (mem_subtreesAll_of_mem hu)

theorem size_le_sizes {u : Tree} {ts : List Tree} (hu : u ∈ ts) : size u ≤ sizes ts := by
  induction ts with
  | nil => cases hu
  | cons t ts ih =>
    rw [sizes]
    rcases List.mem_cons.1 hu with rfl | hu
    · exact Nat.le_add_right _ _
    · exact Nat.le_trans (ih hu) (Nat.le_add_left _ _)

theorem size_lt_of_mem_children {t u : Tree} (hu : u ∈ t.children) : size u < size t := by
  cases t with
  | node c ts =>
    have hle := size_le_sizes hu
    rw [size]
    change size u ≤ sizes ts at hle
    omega

mutual

theorem subtrees_perm (t : Tree) : (subtrees t).Perm (t :: (subtrees t).flatMap children) := by
  cases t with
  | node c ts =>
    rw [subtrees, List.flatMap_cons]
    exact (subtreesAll_perm ts).cons _

theorem subtreesAll_perm (ts : List Tree) :
    (subtreesAll ts).Perm (ts ++ (subtreesAll ts).flatMap children) := by
  cases ts with
  | nil => exact .nil
  | cons t ts =>
    rw [subtreesAll, List.flatMap_append]
    refine ((subtrees_perm t).append (subtreesAll_perm ts)).trans ?_
    exact (List.perm_append_comm_assoc _ ts _).cons t

end

theorem mem_or_mem_children (ts : List Tree) :
    ∀ u ∈ subtreesAll ts, u ∈ ts ∨ ∃ v ∈ subtreesAll ts, u ∈ v.children := by
  intro u hu
  rwa [(subtreesAll_perm ts).mem_iff, List.mem_append, List.mem_flatMap] at hu

/-! ### Hierarchies -/

/-- A forest in sibling order whose parent ids say where its trees hang. The parent of a root may be absent,
the root itself, or unknown. -/
structure IsHierarchy (ts : List Tree) : Prop where
  ids_nodup : ((flatten ts).map (·.id)).Nodup
  parent_root : ∀ t ∈ ts, ∀ p, t.category.parent = some p →
    p = t.category.id ∨ p ∉ (flatten ts).map (·.id)
  parent_child : ∀ t ∈ subtreesAll ts, ∀ u ∈ t.children, u.category.parent = some t.category.id
  roots_ascending : (ts.map category).Pairwise fun a b => Category.siblingOrder a b ≠ .gt
  children_ascending : ∀ t ∈ subtreesAll ts,
    (t.children.map category).Pairwise fun a b => Category.siblingOrder a b ≠ .gt

namespace IsHierarchy

variable {ts : List Tree} {t u : Tree}

theorem nodes_eq (h : IsHierarchy ts) : (Graph.ofList (flatten ts)).nodes = flatten ts :=
  Category.firstOccurrences_of_nodup h.ids_nodup

theorem subtree_ids_nodup (h : IsHierarchy ts) : ((subtreesAll ts).map (·.category.id)).Nodup := by
  have hids := h.ids_nodup
  rwa [← category_subtreesAll, List.map_map] at hids

theorem eq_of_id_eq (h : IsHierarchy ts) (ht : t ∈ subtreesAll ts) (hu : u ∈ subtreesAll ts)
    (he : t.category.id = u.category.id) : t = u :=
  List.inj_on_of_nodup_map h.subtree_ids_nodup ht hu he

theorem category_mem_nodes (h : IsHierarchy ts) (ht : t ∈ subtreesAll ts) :
    t.category ∈ (Graph.ofList (flatten ts)).nodes := by
  rw [h.nodes_eq]
  exact category_mem_flatten ht

theorem exists_subtree (h : IsHierarchy ts) {c : Category}
    (hc : c ∈ (Graph.ofList (flatten ts)).nodes) : ∃ u ∈ subtreesAll ts, u.category = c := by
  rw [h.nodes_eq, ← category_subtreesAll] at hc
  exact List.mem_map.1 hc

theorem parent?_root (h : IsHierarchy ts) (ht : t ∈ ts) :
    (Graph.ofList (flatten ts)).parent? t.category = none := by
  refine Option.eq_none_iff_forall_ne_some.2 fun p hp => ?_
  obtain ⟨hnode, hparent, hne⟩ := Graph.parent?_eq_some_iff.1 hp
  rcases h.parent_root t ht p.id hparent with he | hunknown
  · exact hne he
  · rw [h.nodes_eq] at hnode
    exact hunknown (List.mem_map_of_mem hnode)

theorem parent?_child (h : IsHierarchy ts) (ht : t ∈ subtreesAll ts) (hu : u ∈ t.children) :
    (Graph.ofList (flatten ts)).parent? u.category = some t.category := by
  refine Graph.parent?_eq_some_iff.2 ⟨h.category_mem_nodes ht, h.parent_child t ht u hu, ?_⟩
  intro he
  have heq : t = u := h.eq_of_id_eq ht (mem_subtreesAll_of_mem_children ht hu) he
  have hless := size_lt_of_mem_children hu
  rw [heq] at hless
  exact Nat.lt_irrefl _ hless

theorem sortSiblings_filter (h : IsHierarchy ts) {us : List Tree} {select : Category → Bool}
    (hus : us.Sublist (subtreesAll ts))
    (hasc : (us.map category).Pairwise fun a b => Category.siblingOrder a b ≠ .gt)
    (hmem : ∀ c ∈ (Graph.ofList (flatten ts)).nodes, select c = true ↔ c ∈ us.map category) :
    Category.sortSiblings ((Graph.ofList (flatten ts)).nodes.filter select) = us.map category := by
  have hids : ((us.map category).map (·.id)).Nodup := by
    rw [List.map_map]
    exact h.subtree_ids_nodup.sublist (hus.map _)
  refine Category.sortSiblings_of_ascending hids hasc ?_
  refine (List.perm_ext_iff_of_nodup ((Graph.nodes_nodup _).filter _) (hids.of_map _)).2 fun c => ?_
  rw [List.mem_filter]
  constructor
  · rintro ⟨hc, hselect⟩
    exact (hmem c hc).1 hselect
  · intro hc
    obtain ⟨u, hu, rfl⟩ := List.mem_map.1 hc
    have hnode := h.category_mem_nodes (hus.subset hu)
    exact ⟨hnode, (hmem _ hnode).2 hc⟩

theorem roots_eq (h : IsHierarchy ts) : (Graph.ofList (flatten ts)).roots = ts.map category := by
  refine h.sortSiblings_filter (sublist_subtreesAll ts) h.roots_ascending fun c hc => ?_
  obtain ⟨u, hu, rfl⟩ := h.exists_subtree hc
  rw [Option.isNone_iff_eq_none]
  constructor
  · intro hnone
    rcases mem_or_mem_children ts u hu with hroot | ⟨v, hv, huv⟩
    · exact List.mem_map_of_mem hroot
    · rw [h.parent?_child hv huv] at hnone
      cases hnone
  · intro hroot
    obtain ⟨v, hv, he⟩ := List.mem_map.1 hroot
    rw [← he]
    exact h.parent?_root hv

theorem children_eq (h : IsHierarchy ts) (ht : t ∈ subtreesAll ts) :
    (Graph.ofList (flatten ts)).children t.category = t.children.map category := by
  have hsub : t.children.Sublist (subtreesAll ts) :=
    (sublist_subtreesAll t.children).trans (subtreesAll_sublist ts t ht)
  refine h.sortSiblings_filter hsub (h.children_ascending t ht) fun c hc => ?_
  have hlink : (c.parent == some t.category.id && c.id != t.category.id) = true ↔
      (Graph.ofList (flatten ts)).parent? c = some t.category := by
    rw [Graph.parent?_eq_some_iff, Bool.and_eq_true, beq_iff_eq, bne_iff_ne]
    exact ⟨fun hl => ⟨h.category_mem_nodes ht, hl.1, hl.2.symm⟩, fun hl => ⟨hl.2.1, hl.2.2.symm⟩⟩
  rw [hlink]
  obtain ⟨u, hu, rfl⟩ := h.exists_subtree hc
  constructor
  · intro hparent
    rcases mem_or_mem_children ts u hu with hroot | ⟨v, hv, huv⟩
    · rw [h.parent?_root hroot] at hparent
      cases hparent
    · rw [h.parent?_child hv huv, Option.some.injEq] at hparent
      rw [h.eq_of_id_eq hv ht (congrArg Category.id hparent)] at huv
      exact List.mem_map_of_mem huv
  · intro hchild
    obtain ⟨v, hv, he⟩ := List.mem_map.1 hchild
    rw [← he]
    exact h.parent?_child ht hv

end IsHierarchy

/-! ### Growing the same trees -/

theorem exists_grows_self {g : Graph} (us : List Tree) (taken : List String)
    (hchildren : ∀ t ∈ subtreesAll us, g.children t.category = t.children.map category)
    (hnodes : ∀ c ∈ flatten us, c ∈ g.nodes) (hids : ((flatten us).map (·.id)).Nodup)
    (hnew : ∀ id ∈ (flatten us).map (·.id), id ∉ taken) :
    ∃ out, Graph.Grows g (fun _ => true) taken (us.map category) us out := by
  match us with
  | [] => exact ⟨taken, .nil taken⟩
  | node c below :: us =>
    simp only [flatten, preorder, List.cons_append, List.map_cons, List.map_append, List.nodup_cons,
      List.nodup_append, List.mem_append, List.mem_cons] at hids hnew hnodes
    obtain ⟨hc, hbelow, hus, hdisjoint⟩ := hids
    obtain ⟨mid, branch⟩ := exists_grows_self below (c.id :: taken)
      (fun t ht => hchildren t (List.mem_append_left _ (List.mem_cons_of_mem _ ht)))
      (fun d hd => hnodes d (Or.inr (Or.inl hd))) hbelow
      (fun id hid hm => by
        rcases List.mem_cons.1 hm with rfl | hm
        · exact hc (Or.inl hid)
        · exact hnew id (Or.inr (Or.inl hid)) hm)
    obtain ⟨out, rest⟩ := exists_grows_self us mid
      (fun t ht => hchildren t (List.mem_append_right _ ht))
      (fun d hd => hnodes d (Or.inr (Or.inr hd))) hus
      (fun id hid hm => by
        rcases branch.mem_out_iff.1 hm with hm | hm
        · exact hdisjoint id hm id hid rfl
        · rcases List.mem_cons.1 hm with rfl | hm
          · exact hc (Or.inr hid)
          · exact hnew id (Or.inr (Or.inr hid)) hm)
    have hroot : g.children c = below.map category :=
      hchildren (node c below) (List.mem_append_left _ List.mem_cons_self)
    refine ⟨out, .take (hnodes c (Or.inl rfl)) rfl (hnew c.id (Or.inl rfl)) ?_ rest⟩
    change Graph.Grows g (fun _ => true) (c.id :: taken) (g.children c) below mid
    rw [hroot]
    exact branch
termination_by sizes us
decreasing_by all_goals simp only [sizes, size]; omega

theorem rebuild_flatten {ts : List Tree} (h : IsHierarchy ts) : rebuild (flatten ts) = ts := by
  have hnodes : ∀ c ∈ flatten ts, c ∈ (Graph.ofList (flatten ts)).nodes := by
    intro c hc
    rwa [h.nodes_eq]
  obtain ⟨taken, hrooted⟩ := exists_grows_self (g := Graph.ofList (flatten ts)) ts []
    (fun t ht => h.children_eq ht) hnodes h.ids_nodup (fun _ _ => List.not_mem_nil)
  rw [← h.roots_eq] at hrooted
  have hstranded : (Graph.ofList (flatten ts)).stranded taken = [] := by
    refine List.eq_nil_iff_forall_not_mem.2 fun c hc => ?_
    obtain ⟨hnode, htaken⟩ := Graph.mem_stranded_iff.1 hc
    rw [h.nodes_eq] at hnode
    exact htaken (hrooted.mem_out_iff.2 (Or.inl (List.mem_map_of_mem hnode)))
  have hleft : Graph.Grows (Graph.ofList (flatten ts)) (fun _ => true) taken
      ((Graph.ofList (flatten ts)).stranded taken) [] taken := by
    rw [hstranded]
    exact .nil taken
  have hforest := Graph.forest_eq_of_grows hrooted hleft
  rw [List.append_nil] at hforest
  exact hforest

def sampleForest : List Tree :=
  [ leaf { id := "x", parent := some "unknown", priority := -1 },
    node { id := "a", priority := 1 }
      [ leaf { id := "d", parent := some "a", priority := 1 },
        node { id := "b", parent := some "a", priority := 2 } [leaf { id := "c", parent := some "b" }] ],
    leaf { id := "s", parent := some "s", priority := 1 } ]

theorem isHierarchy_sampleForest : IsHierarchy sampleForest where
  ids_nodup := by decide
  parent_root := by simp [sampleForest, leaf, category, flatten, preorder]
  parent_child := by decide
  roots_ascending := by decide
  children_ascending := by decide

theorem rebuild_flatten_sampleForest :
    IsHierarchy sampleForest ∧ rebuild (flatten sampleForest) = sampleForest :=
  ⟨isHierarchy_sampleForest, rebuild_flatten isHierarchy_sampleForest⟩

end Tree

end Catalogue
