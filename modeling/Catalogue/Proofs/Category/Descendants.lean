import Catalogue.Proofs.Category.Growth
import Catalogue.Proofs.Category.Subgraph

/-!
The descendants of a category and their depths. Each category has one parent, so there is one way up from it, and
its depth is the number of links on this way up to where it meets the start for the first time. The descendants
in a part of a graph that no child leads out of are those in the whole.
-/

set_option autoImplicit false

namespace Catalogue.Graph

variable {g h : Graph} {keep : Category → Bool} {taken out : List String} {cs : List Category} {ts : List Tree}
variable {r c : Category} {n m : Nat}

/-! ### Depths -/

/-- The way up from a category meets `r` for the first time after `n` links. -/
inductive IsAtDepth (g : Graph) (r : Category) : Nat → Category → Prop
  | start : IsAtDepth g r 0 r
  | step {n : Nat} {p c : Category} (hp : IsAtDepth g r n p) (hparent : g.parent? c = some p) (hne : c ≠ r) :
      IsAtDepth g r (n + 1) c

theorem IsAtDepth.eq_of_zero (hc : IsAtDepth g r 0 c) : c = r := by
  cases hc with
  | start => rfl

theorem IsAtDepth.unique (hn : IsAtDepth g r n c) (hm : IsAtDepth g r m c) : n = m := by
  induction hn generalizing m with
  | start =>
    cases hm with
    | start => rfl
    | step _ _ hne => exact absurd rfl hne
  | @step n p c _ hparent hne ih =>
    cases hm with
    | start => exact absurd rfl hne
    | @step m q _ hq hparent' _ =>
      rw [hparent, Option.some.injEq] at hparent'
      rw [ih (hparent' ▸ hq)]

theorem IsAtDepth.isBelow (hc : IsAtDepth g r n c) : g.IsBelow c r := by
  induction hc with
  | start => exact .refl
  | step _ hparent _ ih => exact .head hparent ih

theorem IsBelow.exists_isAtDepth (hc : g.IsBelow c r) : ∃ n, IsAtDepth g r n c := by
  induction hc using Relation.ReflTransGen.head_induction_on with
  | refl => exact ⟨0, .start⟩
  | @head c p hparent _ ih =>
    by_cases hcr : c = r
    · exact ⟨0, hcr ▸ .start⟩
    · obtain ⟨n, hn⟩ := ih
      exact ⟨n + 1, .step hn hparent hcr⟩

/-- If `r` is taken, the trees that grow from categories at one depth hold the next depths level by level. -/
theorem Grows.isAtDepth (hgrows : Grows g keep taken cs ts out) (hr : r.id ∈ taken) (n : Nat)
    (hcs : ∀ c ∈ cs, c ≠ r → IsAtDepth g r n c) :
    ∀ p ∈ Tree.placedAll n ts, IsAtDepth g r p.depth p.category := by
  induction hgrows generalizing n with
  | nil taken => simp [Tree.placedAll]
  | skip _ _ ih => exact ih hr n fun d hd => hcs d (List.mem_cons_of_mem _ hd)
  | @take taken mid out c cs below ts hnode _ hc branch _ ihbranch ihrest =>
    have hatc : IsAtDepth g r n c := hcs c List.mem_cons_self fun he => hc (he ▸ hr)
    have hbelow := ihbranch (List.mem_cons_of_mem _ hr) (n + 1) fun d hd hne =>
      .step hatc ((mem_children_iff_parent? hnode).1 hd).2 hne
    have hrest := ihrest (branch.subset_out (List.mem_cons_of_mem _ hr)) n
      fun d hd => hcs d (List.mem_cons_of_mem _ hd)
    intro p hp
    rw [Tree.placedAll, Tree.placed, List.cons_append, List.mem_cons, List.mem_append] at hp
    rcases hp with rfl | hp | hp
    · exact hatc
    · exact hbelow p hp
    · exact hrest p hp

/-! ### Descendants -/

theorem find?_id (hr : r ∈ g.nodes) : g.find? r.id = some r := find?_eq_some_iff.2 ⟨hr, rfl⟩

theorem exists_grows_descendants (hr : r ∈ g.nodes) : ∃ below out,
    Grows g (fun _ => true) [r.id] (g.children r) below out ∧
      g.descendants r.id = ⟨r, 0⟩ :: Tree.placedAll 1 below := by
  obtain ⟨below, out, branch⟩ :=
    g.exists_grows (fun _ => true) [r.id] (g.children r) fun _ => mem_nodes_of_mem_children
  have hgrows : Grows g (fun _ => true) [] [r] [.node r below] out :=
    .take hr rfl List.not_mem_nil branch (.nil out)
  refine ⟨below, out, branch, ?_⟩
  rw [descendants, find?_id hr, Option.toList_some, hgrows.walkFrom_eq]
  simp [Tree.placedAll, Tree.placed]

theorem isAtDepth_of_mem_descendants (hr : r ∈ g.nodes) {p : Placed} (hp : p ∈ g.descendants r.id) :
    IsAtDepth g r p.depth p.category := by
  obtain ⟨below, out, branch, hdescendants⟩ := exists_grows_descendants hr
  rw [hdescendants] at hp
  rcases List.mem_cons.1 hp with rfl | hp
  · exact .start
  · refine branch.isAtDepth List.mem_cons_self 1 (fun d hd hne => ?_) p hp
    exact .step .start ((mem_children_iff_parent? hr).1 hd).2 hne

theorem mem_nodes_of_mem_descendants (hr : r ∈ g.nodes) {p : Placed} (hp : p ∈ g.descendants r.id) :
    p.category ∈ g.nodes := by
  obtain ⟨below, out, branch, hdescendants⟩ := exists_grows_descendants hr
  rw [hdescendants] at hp
  rcases List.mem_cons.1 hp with rfl | hp
  · exact hr
  · refine branch.mem_nodes _ ?_
    rw [← Tree.category_placedAll 1]
    exact List.mem_map_of_mem hp

/-! ### Parts that no child leads out of -/

def IsDownward (g h : Graph) : Prop := ∀ c ∈ h.nodes, ∀ d ∈ g.children c, d ∈ h.nodes

theorem children_of_isDownward (hsub : h.nodes ⊆ g.nodes) (hdown : g.IsDownward h) (hc : c ∈ h.nodes) :
    h.children c = g.children c := by
  rw [children_of_subset hsub, List.filter_eq_self]
  exact fun d hd => decide_eq_true (hdown c hc d hd)

theorem Grows.of_isDownward (hgrows : Grows h keep taken cs ts out) (hsub : h.nodes ⊆ g.nodes)
    (hdown : g.IsDownward h) : Grows g keep taken cs ts out := by
  induction hgrows with
  | nil taken => exact .nil taken
  | skip hc _ ih => exact .skip hc ih
  | take hnode hkeep hc _ _ ihbranch ihrest =>
    rw [children_of_isDownward hsub hdown hnode] at ihbranch
    exact .take (hsub hnode) hkeep hc ihbranch ihrest

theorem descendants_of_isDownward (hsub : h.nodes ⊆ g.nodes) (hdown : g.IsDownward h) (hr : r ∈ h.nodes) :
    h.descendants r.id = g.descendants r.id := by
  obtain ⟨ts, out, hgrows⟩ := h.exists_grows (fun _ => true) [] [r] (by simpa using hr)
  rw [descendants, descendants, find?_id hr, find?_id (hsub hr), Option.toList_some, hgrows.walkFrom_eq,
    (hgrows.of_isDownward hsub hdown).walkFrom_eq]

theorem descendants_of_mem_iff_isBelow (hr : r ∈ g.nodes)
    (hnodes : ∀ c, c ∈ h.nodes ↔ c ∈ g.nodes ∧ g.IsBelow c r) : h.descendants r.id = g.descendants r.id := by
  refine descendants_of_isDownward (fun c hc => ((hnodes c).1 hc).1) ?_ ((hnodes r).2 ⟨hr, .refl⟩)
  intro c hc d hd
  obtain ⟨hnode, hbelow⟩ := (hnodes c).1 hc
  exact (hnodes d).2 ⟨mem_nodes_of_mem_children hd, .head ((mem_children_iff_parent? hnode).1 hd).2 hbelow⟩

end Catalogue.Graph
