import Catalogue.Category.Graph
import Catalogue.Proofs.Sorting
import Mathlib.Data.List.Nodup

set_option autoImplicit false

namespace Catalogue

namespace Category

instance transCmp_siblingOrder : Std.TransCmp siblingOrder :=
  inferInstanceAs (Std.TransCmp (compareLex (compareOn Category.priority) (compareOn Category.id)))

theorem id_eq_of_siblingOrder {a b : Category} (h : siblingOrder a b = .eq) : a.id = b.id := by
  unfold siblingOrder at h
  rw [Ordering.then_eq_eq] at h
  exact Std.LawfulEqOrd.eq_of_compare h.2

theorem eq_of_siblingOrder {cs : List Category} (hids : (cs.map (·.id)).Nodup) :
    ∀ a ∈ cs, ∀ b ∈ cs, siblingOrder a b = .eq → a = b := by
  intro a ha b hb h
  exact List.inj_on_of_nodup_map hids ha hb (id_eq_of_siblingOrder h)

theorem sortSiblings_perm (cs : List Category) : (sortSiblings cs).Perm cs := List.mergeSort_perm _ _

theorem mem_sortSiblings {c : Category} {cs : List Category} : c ∈ sortSiblings cs ↔ c ∈ cs :=
  (sortSiblings_perm cs).mem_iff

theorem sortSiblings_ascending (cs : List Category) :
    (sortSiblings cs).Pairwise fun a b => siblingOrder a b ≠ .gt := pairwise_mergeSort cs

theorem sortSiblings_of_ascending {cs ds : List Category} (hids : (ds.map (·.id)).Nodup)
    (hds : ds.Pairwise fun a b => siblingOrder a b ≠ .gt) (h : cs.Perm ds) : sortSiblings cs = ds :=
  mergeSort_eq_of_perm (eq_of_siblingOrder hids) hds h

theorem sortSiblings_eq_of_perm {cs ds : List Category} (hids : (cs.map (·.id)).Nodup)
    (h : cs.Perm ds) : sortSiblings cs = sortSiblings ds := by
  have hsorted := (sortSiblings_perm ds).trans h.symm
  have hnodup : ((sortSiblings ds).map (·.id)).Nodup := ((hsorted.map _).nodup_iff).2 hids
  exact sortSiblings_of_ascending hnodup (sortSiblings_ascending ds) hsorted.symm

end Category

namespace Graph

variable {g h : Graph} {c d p : Category}

theorem eq_of_id_eq (hc : c ∈ g.nodes) (hd : d ∈ g.nodes) (he : c.id = d.id) : c = d :=
  List.inj_on_of_nodup_map g.ids_nodup hc hd he

theorem nodes_nodup (g : Graph) : g.nodes.Nodup := g.ids_nodup.of_map _

theorem find?_eq_some_iff {id : String} : g.find? id = some c ↔ c ∈ g.nodes ∧ c.id = id := by
  constructor
  · intro hf
    exact ⟨List.mem_of_find?_eq_some hf, by simpa using List.find?_some hf⟩
  · rintro ⟨hc, rfl⟩
    have hsome : (g.find? c.id).isSome := List.find?_isSome.2 ⟨c, hc, by simp⟩
    obtain ⟨d, hd⟩ := Option.isSome_iff_exists.1 hsome
    have hid : d.id = c.id := by simpa using List.find?_some hd
    rw [hd, eq_of_id_eq (List.mem_of_find?_eq_some hd) hc hid]

theorem parent?_eq_some_iff :
    g.parent? c = some p ↔ p ∈ g.nodes ∧ c.parent = some p.id ∧ p.id ≠ c.id := by
  unfold parent?
  cases hparent : c.parent with
  | none => simp
  | some q =>
    by_cases hq : q = c.id
    · simp only [hq, if_true, Option.some.injEq]
      constructor
      · intro hf
        cases hf
      · rintro ⟨_, he, hne⟩
        exact absurd he.symm hne
    · simp only [hq, if_false, find?_eq_some_iff, Option.some.injEq]
      constructor
      · rintro ⟨hp, rfl⟩
        exact ⟨hp, rfl, hq⟩
      · rintro ⟨hp, he, _⟩
        exact ⟨hp, he.symm⟩

theorem mem_nodes_of_parent? (hp : g.parent? c = some p) : p ∈ g.nodes := (parent?_eq_some_iff.1 hp).1

theorem mem_children_iff :
    d ∈ g.children c ↔ d ∈ g.nodes ∧ d.parent = some c.id ∧ d.id ≠ c.id := by
  simp [children, Category.mem_sortSiblings]

theorem mem_nodes_of_mem_children (hd : d ∈ g.children c) : d ∈ g.nodes := (mem_children_iff.1 hd).1

theorem mem_children_iff_parent? (hc : c ∈ g.nodes) :
    d ∈ g.children c ↔ d ∈ g.nodes ∧ g.parent? d = some c := by
  rw [mem_children_iff, parent?_eq_some_iff]
  constructor
  · rintro ⟨hd, hparent, hne⟩
    exact ⟨hd, hc, hparent, hne.symm⟩
  · rintro ⟨hd, _, hparent, hne⟩
    exact ⟨hd, hparent, hne.symm⟩

theorem mem_roots_iff : c ∈ g.roots ↔ c ∈ g.nodes ∧ g.parent? c = none := by
  simp [roots, Category.mem_sortSiblings]

/-- The form in which the roots of a given graph are evaluated. -/
theorem roots_eq (g : Graph) :
    g.roots = Category.sortSiblings (g.nodes.filter fun c => !(g.parent? c).isSome) := by
  simp only [roots, Option.not_isSome]

theorem mem_nodes_of_mem_roots (hc : c ∈ g.roots) : c ∈ g.nodes := (mem_roots_iff.1 hc).1

theorem mem_matching_iff {text language : String} :
    c ∈ g.matching text language ↔ c ∈ g.nodes ∧ c.nameContains text language = true := by
  simp [matching]

theorem ids_filter_nodup (g : Graph) (keep : Category → Bool) :
    ((g.nodes.filter keep).map (·.id)).Nodup :=
  g.ids_nodup.sublist (List.filter_sublist.map _)

/-! ### Sets of ids -/

theorem eraseDups_ascending (ids : List String) (h : ids.Pairwise (· ≤ ·)) :
    ids.eraseDups.Pairwise fun a b => a ≤ b ∧ a ≠ b := by
  match ids with
  | [] => exact .nil
  | id :: ids =>
    obtain ⟨hle, htail⟩ := List.pairwise_cons.1 h
    rw [List.eraseDups_cons, List.pairwise_cons]
    refine ⟨fun b hb => ?_, eraseDups_ascending _ (htail.filter _)⟩
    obtain ⟨hmem, hne⟩ := List.mem_filter.1 (List.mem_eraseDups.1 hb)
    exact ⟨hle b hmem, fun he => by simp [he] at hne⟩
termination_by ids.length
decreasing_by exact Nat.lt_succ_of_le (List.length_filter_le _ _)

theorem idSet_ascending (ids : List String) : (idSet ids).Pairwise fun a b => a ≤ b ∧ a ≠ b := by
  refine eraseDups_ascending _ ?_
  have hsorted : (ids.mergeSort fun a b => decide (a ≤ b)).Pairwise fun a b => (decide (a ≤ b)) = true := by
    refine List.pairwise_mergeSort (fun a b c => ?_) (fun a b => ?_) ids
    · simpa only [decide_eq_true_eq] using String.le_trans
    · simpa only [Bool.or_eq_true, decide_eq_true_eq] using String.le_total a b
  exact hsorted.imp fun hab => of_decide_eq_true hab

theorem mem_idSet_iff {id : String} {ids : List String} : id ∈ idSet ids ↔ id ∈ ids := by
  rw [idSet, List.mem_eraseDups, (List.mergeSort_perm _ _).mem_iff]

theorem idSet_eq_of_mem_iff {ids others : List String} (h : ∀ id, id ∈ ids ↔ id ∈ others) :
    idSet ids = idSet others := by
  have hnodup : ∀ l, (idSet l).Nodup := fun l => (idSet_ascending l).imp fun hab => hab.2
  have hperm : (idSet ids).Perm (idSet others) := by
    refine (List.perm_ext_iff_of_nodup (hnodup ids) (hnodup others)).2 fun id => ?_
    rw [mem_idSet_iff, mem_idSet_iff, h]
  refine hperm.eq_of_pairwise ?_ (idSet_ascending ids) (idSet_ascending others)
  intro a b _ _ hab hba
  exact String.le_antisymm hab.1 hba.1

/-! ### Graphs of the same categories -/

theorem find?_eq_of_perm (hgh : g.nodes.Perm h.nodes) (id : String) : g.find? id = h.find? id := by
  refine Option.ext fun c => ?_
  rw [find?_eq_some_iff, find?_eq_some_iff, hgh.mem_iff]

theorem parent?_eq_of_perm (hgh : g.nodes.Perm h.nodes) (c : Category) : g.parent? c = h.parent? c := by
  refine Option.ext fun p => ?_
  rw [parent?_eq_some_iff, parent?_eq_some_iff, hgh.mem_iff]

theorem children_eq_of_perm (hgh : g.nodes.Perm h.nodes) (c : Category) :
    g.children c = h.children c :=
  Category.sortSiblings_eq_of_perm (g.ids_filter_nodup _) (hgh.filter _)

theorem roots_eq_of_perm (hgh : g.nodes.Perm h.nodes) : g.roots = h.roots := by
  unfold roots
  simp only [parent?_eq_of_perm hgh]
  exact Category.sortSiblings_eq_of_perm (g.ids_filter_nodup _) (hgh.filter _)

end Graph

end Catalogue
