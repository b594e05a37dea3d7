import Catalogue.Proofs.Category.Growth

/-!
The categories that a search marks. Climbing from a match stops at the first ancestor that is marked
already, and still no ancestor is missed: at every moment what is marked contains the parents of all that
is marked, so the marks are the matches with everything below and above them, in whatever order the matches
come.
-/

set_option autoImplicit false

namespace Catalogue.Graph

variable {g : Graph} {ms : List Category} {marked : List String}

theorem mem_ids_walkFrom_iff {c : Category} (hc : c ∈ g.nodes) {id : String} :
    id ∈ (g.walkFrom (fun _ => true) [c]).map (·.category.id) ↔
      ∃ d ∈ g.nodes, d.id = id ∧ g.IsBelow d c := by
  have hcs : ∀ d ∈ [c], d ∈ g.nodes := by simpa using hc
  obtain ⟨ts, out, hgrows⟩ := g.exists_grows (fun _ => true) [] [c] hcs
  rw [hgrows.walkFrom_eq, Tree.ids_placedAll, List.mem_map]
  simp only [hgrows.mem_flatten_iff fun _ _ _ _ _ => rfl, true_and, List.mem_singleton, exists_eq_left]
  constructor
  · rintro ⟨d, ⟨hd, hbelow⟩, he⟩
    exact ⟨d, hd, he, hbelow⟩
  · rintro ⟨d, hd, he, hbelow⟩
    exact ⟨d, ⟨hd, hbelow⟩, he⟩

/-! ### Climbing -/

def ParentMarked (g : Graph) (marked : List String) (c : Category) : Prop :=
  ∀ p, g.parent? c = some p → p.id ∈ marked

theorem subset_markAncestors (g : Graph) (fuel : Nat) (marked : List String) (c : Category) :
    marked ⊆ g.markAncestors fuel marked c := by
  induction fuel generalizing marked c with
  | zero => exact List.Subset.refl _
  | succ fuel ih =>
    unfold markAncestors
    split
    · split
      · exact List.Subset.refl _
      · exact List.Subset.trans (List.subset_cons_self _ _) (ih _ _)
    · exact List.Subset.refl _

theorem isBelow_of_mem_markAncestors (fuel : Nat) (c : Category) {id : String}
    (h : id ∈ g.markAncestors fuel marked c) :
    id ∈ marked ∨ ∃ a ∈ g.nodes, a.id = id ∧ g.IsBelow c a := by
  induction fuel generalizing marked c with
  | zero => exact Or.inl h
  | succ fuel ih =>
    unfold markAncestors at h
    split at h
    · next p hp =>
      split at h
      · exact Or.inl h
      · rcases ih p h with hm | ⟨a, ha, he, habove⟩
        · rcases List.mem_cons.1 hm with rfl | hm
          · exact Or.inr ⟨p, mem_nodes_of_parent? hp, rfl, .single hp⟩
          · exact Or.inl hm
        · exact Or.inr ⟨a, ha, he, .head hp habove⟩
    · exact Or.inl h

/-- If only the parent of `c` may be missing among the marks, the climb from `c` closes the gap. -/
theorem parentMarked_markAncestors (fuel : Nat) {c : Category} (hc : c ∈ g.nodes)
    (hclosed : ∀ x ∈ g.nodes, x.id ∈ marked → x ≠ c → g.ParentMarked marked x)
    (hfuel : g.untaken marked ≤ fuel) :
    ∀ x ∈ g.nodes, x.id ∈ g.markAncestors fuel marked c →
      g.ParentMarked (g.markAncestors fuel marked c) x := by
  induction fuel generalizing marked c with
  | zero =>
    intro x _ _ p hp
    by_contra hm
    have hless := untaken_cons_lt (mem_nodes_of_parent? hp) hm
    simp only [markAncestors] at hless
    omega
  | succ fuel ih =>
    unfold markAncestors
    cases hparent : g.parent? c with
    | none =>
      intro x hx hm p hp
      by_cases hxc : x = c
      · rw [hxc, hparent] at hp
        cases hp
      · exact hclosed x hx hm hxc p hp
    | some q =>
      have hq : q ∈ g.nodes := mem_nodes_of_parent? hparent
      by_cases hqm : q.id ∈ marked
      · simp only [List.contains_eq_mem, hqm, decide_true, if_true]
        intro x hx hm p hp
        by_cases hxc : x = c
        · rw [hxc, hparent, Option.some.injEq] at hp
          exact hp ▸ hqm
        · exact hclosed x hx hm hxc p hp
      · simp only [List.contains_eq_mem, hqm, decide_false, Bool.false_eq_true, if_false]
        have hless := untaken_cons_lt hq hqm
        refine ih hq ?_ (by omega)
        intro x hx hm hne p hp
        by_cases hxc : x = c
        · rw [hxc, hparent, Option.some.injEq] at hp
          exact hp ▸ List.mem_cons_self
        · rcases List.mem_cons.1 hm with he | hm
          · exact absurd (eq_of_id_eq hx hq he) hne
          · exact List.mem_cons_of_mem _ (hclosed x hx hm hxc p hp)

/-! ### Marks of several matches -/

def Related (g : Graph) (ms : List Category) (id : String) : Prop :=
  ∃ x ∈ g.nodes, x.id = id ∧ ∃ m ∈ ms, g.IsBelow x m ∨ g.IsBelow m x

theorem IsBelow.parent {x m p : Category} (h : g.IsBelow x m) (hp : g.parent? x = some p) :
    g.IsBelow p m ∨ g.IsBelow m p := by
  by_cases hxm : x = m
  · exact Or.inr (hxm ▸ .single hp)
  · exact Or.inl (h.parent_of_ne hp hxm)

theorem Related.parent {x p : Category} (hx : x ∈ g.nodes) (h : g.Related ms x.id)
    (hp : g.parent? x = some p) : g.Related ms p.id := by
  obtain ⟨y, hy, he, m, hm, hrel⟩ := h
  rw [eq_of_id_eq hy hx he] at hrel
  refine ⟨p, mem_nodes_of_parent? hp, rfl, m, hm, ?_⟩
  rcases hrel with hbelow | habove
  · exact hbelow.parent hp
  · exact Or.inr (habove.tail hp)

theorem mem_of_isBelow {m a : Category} (hm : m ∈ g.nodes) (hself : m.id ∈ marked)
    (hparents : ∀ x ∈ g.nodes, x.id ∈ marked → g.ParentMarked marked x) (h : g.IsBelow m a) :
    a.id ∈ marked := by
  suffices hboth : a ∈ g.nodes ∧ a.id ∈ marked from hboth.2
  induction h with
  | refl => exact ⟨hm, hself⟩
  | tail _ hparent ih => exact ⟨mem_nodes_of_parent? hparent, hparents _ ih.1 ih.2 _ hparent⟩

theorem mem_markAncestors_iff {m : Category} (hm : m ∈ g.nodes)
    (hmarked : ∀ id, id ∈ marked ↔ g.Related ms id ∨ ∃ d ∈ g.nodes, d.id = id ∧ g.IsBelow d m)
    (id : String) : id ∈ g.markAncestors g.nodes.length marked m ↔ g.Related (m :: ms) id := by
  have hself : m.id ∈ marked := (hmarked _).2 (Or.inr ⟨m, hm, rfl, .refl⟩)
  -- Before the climb only the parent of the match may be missing: what is below it has its parent below it too.
  have hclosed : ∀ x ∈ g.nodes, x.id ∈ marked → x ≠ m → g.ParentMarked marked x := by
    intro x hx hxm hne p hp
    rw [hmarked]
    rcases (hmarked _).1 hxm with hrel | ⟨d, hd, he, hbelow⟩
    · exact Or.inl (hrel.parent hx hp)
    · rw [eq_of_id_eq hd hx he] at hbelow
      exact Or.inr ⟨p, mem_nodes_of_parent? hp, rfl, hbelow.parent_of_ne hp hne⟩
  have hparents := parentMarked_markAncestors g.nodes.length hm hclosed (g.untaken_le _)
  have hkept := g.subset_markAncestors g.nodes.length marked m
  constructor
  · intro hid
    rcases isBelow_of_mem_markAncestors _ m hid with hid | ⟨a, ha, he, habove⟩
    · rcases (hmarked id).1 hid with ⟨x, hx, he, y, hy, hrel⟩ | ⟨d, hd, he, hbelow⟩
      · exact ⟨x, hx, he, y, List.mem_cons_of_mem _ hy, hrel⟩
      · exact ⟨d, hd, he, m, List.mem_cons_self, Or.inl hbelow⟩
    · exact ⟨a, ha, he, m, List.mem_cons_self, Or.inr habove⟩
  · rintro ⟨x, hx, rfl, y, hy, hrel⟩
    rcases List.mem_cons.1 hy with rfl | hy
    · rcases hrel with hbelow | habove
      · exact hkept ((hmarked _).2 (Or.inr ⟨x, hx, rfl, hbelow⟩))
      · exact mem_of_isBelow hm (hkept hself) hparents habove
    · exact hkept ((hmarked _).2 (Or.inl ⟨x, hx, rfl, y, hy, hrel⟩))

theorem mem_markMatch_iff {m : Category} (hm : m ∈ g.nodes)
    (hmarked : ∀ id, id ∈ marked ↔ g.Related ms id) (id : String) :
    id ∈ g.markMatch marked m ↔ g.Related (m :: ms) id := by
  refine mem_markAncestors_iff hm (fun id => ?_) id
  rw [List.mem_append, List.mem_filter, mem_ids_walkFrom_iff hm, ← hmarked]
  by_cases hid : id ∈ marked <;> simp [hid]

theorem mem_foldl_markMatch_iff (ns : List Category) (hns : ∀ m ∈ ns, m ∈ g.nodes)
    (hmarked : ∀ id, id ∈ marked ↔ g.Related ms id) (id : String) :
    id ∈ ns.foldl g.markMatch marked ↔ g.Related (ns.reverse ++ ms) id := by
  induction ns generalizing marked ms with
  | nil => exact hmarked id
  | cons n ns ih =>
    have hn := mem_markMatch_iff (hns n List.mem_cons_self) hmarked
    rw [List.foldl_cons, ih (fun m hm => hns m (List.mem_cons_of_mem _ hm)) hn, List.reverse_cons,
      List.append_assoc, List.singleton_append]

theorem mem_marked_iff {text language id : String} :
    id ∈ g.marked text language ↔ g.Related (g.matching text language) id := by
  have hnone : ∀ id, id ∈ ([] : List String) ↔ g.Related [] id := by simp [Related]
  have hfold := mem_foldl_markMatch_iff (g.matching text language)
    (fun m hm => (mem_matching_iff.1 hm).1) hnone id
  rw [marked, hfold, List.append_nil]
  simp only [Related, List.mem_reverse]

end Catalogue.Graph
