import Catalogue.Proofs.Category.Pruning

set_option autoImplicit false

namespace Catalogue

namespace Graph

variable {g h : Graph} {keep : Category → Bool} {c a : Category} {ts : List Tree}

def IsRelated (g : Graph) (text language : String) (c : Category) : Prop :=
  ∃ m ∈ g.nodes, m.nameContains text language = true ∧ (g.IsBelow c m ∨ g.IsBelow m c)

theorem IsBelow.keeps (hkeep : ∀ x ∈ g.nodes, ∀ p, g.parent? x = some p → keep x = true → keep p = true)
    (hbelow : g.IsBelow c a) (hc : c ∈ g.nodes) (hkept : keep c = true) : keep a = true := by
  induction hbelow with
  | refl => exact hkept
  | @tail x p hx hparent ih => exact hkeep x (IsBelow.mem_nodes hx hc) p hparent ih

theorem flatten_restrictAll
    (hkeep : ∀ x ∈ g.nodes, ∀ p, g.parent? x = some p → keep x = true → keep p = true)
    (hts : Tree.HasChildren g.children ts) (hroots : ∀ c ∈ ts.map Tree.category, c ∈ g.nodes) :
    Tree.flatten (Tree.restrictAll keep ts) = (Tree.flatten ts).filter keep := by
  induction ts using Tree.forest_induction with
  | nil => rfl
  | cons c below ts ihbelow ihrest =>
    obtain ⟨hbelow, hchildren, hrest⟩ := Tree.hasChildren_cons_iff.1 hts
    have hc : c ∈ g.nodes := hroots c List.mem_cons_self
    have htail := ihrest hrest fun d hd => hroots d (List.mem_cons_of_mem _ hd)
    rw [hbelow] at ihbelow
    have hinner := ihbelow hchildren fun _ => mem_nodes_of_mem_children
    rw [Tree.flatten, Tree.preorder, List.cons_append, List.filter_cons, List.filter_append]
    cases hkept : keep c with
    | true =>
      rw [Tree.restrictAll_cons_of_keep hkept, Tree.flatten, Tree.preorder, hinner, htail, if_pos rfl]
      rfl
    | false =>
      have hdropped : (Tree.flatten below).filter keep = [] := by
        refine List.filter_eq_nil_iff.2 fun d hd hkd => ?_
        obtain ⟨hnode, hdown⟩ := (mem_tree_iff_isBelow hc hbelow hchildren).1 (Or.inr hd)
        rw [hdown.keeps hkeep hnode hkd] at hkept
        cases hkept
      rw [Tree.restrictAll_cons_of_drop hkept, htail, hdropped, if_neg Bool.false_ne_true, List.nil_append]

theorem IsBelow.of_isUpward (hsub : h.nodes ⊆ g.nodes) (hup : g.IsUpward h) (hc : c ∈ h.nodes)
    (hbelow : g.IsBelow c a) : a ∈ h.nodes ∧ h.IsBelow c a := by
  induction hbelow with
  | refl => exact ⟨hc, .refl⟩
  | @tail x p _ hparent ih =>
    refine ⟨hup x ih.1 p hparent, ih.2.tail ?_⟩
    rw [parent?_of_subset hsub hup ih.1, hparent]

/-! ### What a search keeps -/

section

variable (g) (text language : String)

theorem search_eq_filter_marked :
    g.search text language = g.flat.filter fun c => (g.marked text language).contains c.id := by
  rw [search_eq_flatten, flat_eq]
  refine flatten_restrictAll (fun x hx p hp => g.marked_parent text language hx hp) g.hasChildren_rooted ?_
  intro c hc
  rw [category_rooted] at hc
  exact mem_nodes_of_mem_roots hc

theorem mem_flat_iff : c ∈ g.flat ↔ c ∈ g.nodes ∧ ∃ r ∈ g.roots, g.IsBelow c r := by
  rw [flat_eq, mem_flatten_rooted_iff]

open Classical in
theorem search_eq_filter_related : g.search text language = g.flat.filter (g.IsRelated text language ·) := by
  rw [search_eq_filter_marked]
  refine List.filter_congr fun c hc => ?_
  rw [Bool.eq_iff_iff, List.contains_iff_mem, decide_eq_true_eq]
  exact g.mem_marked_iff_isBelow text language ((g.mem_flat_iff).1 hc).1

open Classical in
theorem mem_search_iff : c ∈ g.search text language ↔ c ∈ g.flat ∧ g.IsRelated text language c := by
  rw [search_eq_filter_related, List.mem_filter, decide_eq_true_eq]

theorem ids_search_nodup : ((g.search text language).map (·.id)).Nodup := by
  rw [search_eq_filter_marked]
  exact g.ids_flat_nodup.sublist (List.filter_sublist.map _)

/-! ### Searching once more -/

theorem nodes_search : (ofList (g.search text language)).nodes = g.search text language := by
  rw [search_eq_flatten, nodes_flatten_restrictAll]

theorem flat_search : (ofList (g.search text language)).flat = g.search text language := by
  rw [flat_eq, search_eq_flatten,
    rooted_flatten_restrictAll fun x hx p hp => g.marked_parent text language hx hp]

theorem isUpward_search : g.IsUpward (ofList (g.search text language)) := by
  rw [search_eq_flatten]
  exact isUpward_flatten_restrictAll fun x hx p hp => g.marked_parent text language hx hp

theorem isRelated_search (hc : c ∈ g.search text language) :
    (ofList (g.search text language)).IsRelated text language c := by
  have hup := g.isUpward_search text language
  have hnodes := g.nodes_search text language
  have hsub : (ofList (g.search text language)).nodes ⊆ g.nodes := by
    intro d hd
    rw [hnodes, mem_search_iff, mem_flat_iff] at hd
    exact hd.1.1
  obtain ⟨hflat, m, hm, hmatch, hrel⟩ := (g.mem_search_iff text language).1 hc
  rcases hrel with hup' | hdown
  · rw [← hnodes] at hc
    obtain ⟨hin, hbelow⟩ := hup'.of_isUpward hsub hup hc
    exact ⟨m, hin, hmatch, Or.inl hbelow⟩
  · obtain ⟨_, r, hr, hroot⟩ := g.mem_flat_iff.1 hflat
    have hmflat : m ∈ g.flat := g.mem_flat_iff.2 ⟨hm, r, hr, hdown.trans hroot⟩
    have hin : m ∈ (ofList (g.search text language)).nodes := by
      rw [hnodes, mem_search_iff]
      exact ⟨hmflat, m, hm, hmatch, Or.inl .refl⟩
    exact ⟨m, hin, hmatch, Or.inr (hdown.of_isUpward hsub hup hin).2⟩

open Classical in
theorem search_search :
    (ofList (g.search text language)).search text language = g.search text language := by
  rw [search_eq_filter_related, flat_search, List.filter_eq_self]
  exact fun c hc => decide_eq_true (g.isRelated_search text language hc)

end

end Graph

open Classical in
/-- A search lists, of the flat listing and in its order, the matches with all categories above and below them. It
lists no id twice, and a second search among what it has listed lists the same. -/
theorem search_eq_related_part (cs : List Category) (text language : String) :
    let g := Graph.ofList cs
    g.search text language = g.flat.filter (fun c => g.IsRelated text language c) ∧
      ((g.search text language).map (·.id)).Nodup ∧
      (Graph.ofList (g.search text language)).search text language = g.search text language :=
  ⟨Graph.search_eq_filter_related _ text language, Graph.ids_search_nodup _ text language,
    Graph.search_search _ text language⟩

end Catalogue
