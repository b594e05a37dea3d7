import Catalogue.Proofs.Category.Descendants
import Catalogue.Proofs.Category.Promotion
import Mathlib.Order.Bounds.Defs

set_option autoImplicit false

namespace Catalogue

namespace Tree

theorem flatten_eq_flatMap (ts : List Tree) : flatten ts = ts.flatMap preorder := by
  induction ts with
  | nil => rfl
  | cons t ts ih => rw [flatten, List.flatMap_cons, ih]

variable {ts : List Tree} {n : Nat} {p : Placed}

theorem le_depth (h : p ∈ placedAll n ts) : n ≤ p.depth := by
  induction ts using forest_induction generalizing n with
  | nil => cases h
  | cons c below ts ihbelow ihrest =>
    rw [placedAll, placed, List.cons_append, List.mem_cons, List.mem_append] at h
    rcases h with rfl | h | h
    · exact Nat.le_refl _
    · exact Nat.le_of_succ_le (ihbelow h)
    · exact ihrest h

theorem category_mem_of_depth (h : p ∈ placedAll n ts) (hdepth : p.depth = n) : p.category ∈ ts.map category := by
  induction ts using forest_induction with
  | nil => cases h
  | cons c below ts _ ihrest =>
    rw [placedAll, placed, List.cons_append, List.mem_cons, List.mem_append] at h
    rcases h with rfl | h | h
    · exact List.mem_cons_self
    · have hle := le_depth h
      omega
    · exact List.mem_cons_of_mem _ (ihrest h)

end Tree

namespace Graph

variable {g : Graph} {keep : Category → Bool} {taken out : List String} {cs : List Category} {ts : List Tree}
variable {r c a : Category} {n : Nat}

/-! ### Numbers of parent links -/

def ancestor? (g : Graph) : Nat → Category → Option Category
  | 0, c => some c
  | n + 1, c => (g.parent? c).bind (g.ancestor? n)

theorem ancestor?_succ {p : Category} (hparent : g.parent? c = some p) :
    g.ancestor? (n + 1) c = g.ancestor? n p := by
  rw [ancestor?, hparent, Option.bind_some]

theorem isBelow_iff_exists_ancestor? : g.IsBelow c a ↔ ∃ n, g.ancestor? n c = some a := by
  constructor
  · intro hbelow
    induction hbelow using Relation.ReflTransGen.head_induction_on with
    | refl => exact ⟨0, rfl⟩
    | head hparent _ ih =>
      obtain ⟨n, hn⟩ := ih
      exact ⟨n + 1, (ancestor?_succ hparent).trans hn⟩
  · rintro ⟨n, hn⟩
    induction n generalizing c with
    | zero => exact Option.some.inj hn ▸ .refl
    | succ n ih =>
      obtain ⟨p, hparent, hp⟩ := Option.bind_eq_some_iff.1 hn
      exact .head hparent (ih hp)

theorem IsAtDepth.isLeast (h : IsAtDepth g r n c) : IsLeast {m | g.ancestor? m c = some r} n := by
  induction h with
  | start => exact ⟨rfl, fun m _ => Nat.zero_le m⟩
  | @step n p c _ hparent hne ih =>
    refine ⟨(ancestor?_succ hparent).trans ih.1, fun m hm => ?_⟩
    cases m with
    | zero => exact absurd (Option.some.inj hm) hne
    | succ m =>
      have hle := ih.2 ((ancestor?_succ hparent).symm.trans hm)
      exact Nat.succ_le_succ hle

/-! ### Parents come before -/

/-- Of the entries before `p`, the last one whose depth is one less than that of `p` holds the parent of `p`. -/
def FollowsParent (g : Graph) (before : List Placed) (p : Placed) : Prop :=
  ∃ earlier q between, before = earlier ++ q :: between ∧ g.parent? p.category = some q.category ∧
    p.depth = q.depth + 1 ∧ ∀ e ∈ between, q.depth < e.depth

def ParentsFirst (g : Graph) (n : Nat) (l : List Placed) : Prop :=
  ∀ before p after, l = before ++ p :: after → p.depth ≠ n → g.FollowsParent before p

theorem FollowsParent.append_left {before : List Placed} {p : Placed} (h : g.FollowsParent before p)
    (more : List Placed) : g.FollowsParent (more ++ before) p := by
  obtain ⟨earlier, q, between, rfl, hq⟩ := h
  exact ⟨more ++ earlier, q, between, (List.append_assoc _ _ _).symm, hq⟩

theorem ParentsFirst.append {l m : List Placed} (hl : g.ParentsFirst n l) (hm : g.ParentsFirst n m) :
    g.ParentsFirst n (l ++ m) := by
  intro before p after hsplit hdepth
  rcases List.append_eq_append_iff.1 hsplit with ⟨rest, rfl, hrest⟩ | ⟨rest, hrest, hafter⟩
  · exact (hm rest p after hrest hdepth).append_left l
  · cases rest with
    | nil =>
      rw [List.append_nil] at hrest
      rw [← hrest, ← List.append_nil l]
      exact (hm [] p after hafter.symm hdepth).append_left l
    | cons q rest =>
      obtain ⟨rfl, _⟩ := List.cons.inj hafter
      exact hl before p rest hrest hdepth

theorem ParentsFirst.cons {l : List Placed} (hl : g.ParentsFirst (n + 1) l) (hdeeper : ∀ p ∈ l, n < p.depth)
    (htop : ∀ p ∈ l, p.depth = n + 1 → g.parent? p.category = some c) : g.ParentsFirst n (⟨c, n⟩ :: l) := by
  intro before p after hsplit hdepth
  cases before with
  | nil =>
    obtain ⟨rfl, _⟩ := List.cons.inj hsplit
    exact absurd rfl hdepth
  | cons q before =>
    obtain ⟨rfl, htail⟩ := List.cons.inj hsplit
    change l = before ++ p :: after at htail
    have hp : p ∈ l := by
      rw [htail]
      exact List.mem_append_right _ List.mem_cons_self
    by_cases hfirst : p.depth = n + 1
    · refine ⟨[], ⟨c, n⟩, before, rfl, htop p hp hfirst, hfirst, fun e he => hdeeper e ?_⟩
      rw [htail]
      exact List.mem_append_left _ he
    · exact (hl before p after htail hfirst).append_left [⟨c, n⟩]

theorem Grows.parentsFirst (h : Grows g keep taken cs ts out) (n : Nat) :
    g.ParentsFirst n (Tree.placedAll n ts) := by
  induction h generalizing n with
  | nil taken => exact fun before p after hsplit => absurd hsplit (by simp [Tree.placedAll])
  | skip _ _ ih => exact ih n
  | @take taken mid out c cs below ts hnode _ _ branch _ ihbranch ihrest =>
    have hdeeper : ∀ p ∈ Tree.placedAll (n + 1) below, n < p.depth := fun p hp => Tree.le_depth hp
    have htop : ∀ p ∈ Tree.placedAll (n + 1) below, p.depth = n + 1 → g.parent? p.category = some c := by
      intro p hp hdepth
      obtain ⟨t, ht, hcategory⟩ := List.mem_map.1 (Tree.category_mem_of_depth hp hdepth)
      rw [← hcategory]
      exact ((mem_children_iff_parent? hnode).1 (branch.category_mem t ht)).2
    exact ((ihbranch (n + 1)).cons hdeeper htop).append (ihrest n)

/-! ### Siblings -/

/-- If trees grow from the children of something taken, siblings stand in order: a parent is taken once, so all
that have it are among its children, wherever their trees grow. -/
theorem Grows.siblings_precede {x : Category} (h : Grows g keep taken cs ts out) (hx : x.id ∈ taken)
    (hcs : ∀ c ∈ cs, g.parent? c = some x) (hascending : cs.Pairwise Category.Precedes) :
    (Tree.flatten ts).Pairwise fun a b => g.parent? a = g.parent? b → a.Precedes b := by
  induction h generalizing x with
  | nil taken => exact .nil
  | skip _ _ ih => exact ih hx (fun d hd => hcs d (List.mem_cons_of_mem _ hd)) (List.pairwise_cons.1 hascending).2
  | @take taken mid out c cs below ts hnode _ hnew branch rest ihbranch ihrest =>
    obtain ⟨hfirst, htail⟩ := List.pairwise_cons.1 hascending
    have hsub : taken ⊆ mid := fun _ hm => branch.subset_out (List.mem_cons_of_mem _ hm)
    have hinner : ∀ a ∈ Tree.flatten below, ∃ p, g.parent? a = some p ∧ p.id ∈ mid ∧ p.id ∉ taken :=
      branch.parent_taken hnode hnew
    have houter : ∀ b ∈ Tree.flatten ts, b ∈ cs ∨ ∃ p, g.parent? b = some p ∧ p.id ∉ mid := by
      intro b hb
      refine (rest.mem_or_parent b hb).imp_right ?_
      rintro ⟨p, hp, hparent⟩
      exact ⟨p, hparent, rest.not_mem_taken p hp⟩
    have hbelow := ihbranch List.mem_cons_self (fun d hd => ((mem_children_iff_parent? hnode).1 hd).2)
      (g.sortSiblings_filter_precedes _)
    have hrest := ihrest (hsub hx) (fun d hd => hcs d (List.mem_cons_of_mem _ hd)) htail
    rw [Tree.flatten, Tree.preorder, List.cons_append, List.pairwise_cons, List.pairwise_append]
    refine ⟨fun b hb hsame => ?_, hbelow, hrest, fun a ha b hb hsame => ?_⟩
    · rw [hcs c List.mem_cons_self] at hsame
      rcases List.mem_append.1 hb with hb | hb
      · obtain ⟨p, hparent, _, hfree⟩ := hinner b hb
        rw [hparent, Option.some.injEq] at hsame
        exact absurd hx (hsame ▸ hfree)
      · rcases houter b hb with hb | ⟨p, hparent, hfree⟩
        · exact hfirst b hb
        · rw [hparent, Option.some.injEq] at hsame
          exact absurd (hsub hx) (hsame ▸ hfree)
    · obtain ⟨p, hparent, hmid, hfree⟩ := hinner a ha
      rw [hparent] at hsame
      rcases houter b hb with hb | ⟨q, hq, hqfree⟩
      · rw [hcs b (List.mem_cons_of_mem _ hb), Option.some.injEq] at hsame
        exact absurd hx (hsame ▸ hfree)
      · rw [hq, Option.some.injEq] at hsame
        exact absurd hmid (hsame ▸ hqfree)

/-! ### Expansions -/

/-- A listing of `r` and everything below it, each category once with the least number of parent links up to `r`.
After `r` itself, parents come before their children and siblings in sibling order. -/
structure IsExpansion (g : Graph) (r : Category) (l : List Placed) : Prop where
  mem_iff : ∀ c, c ∈ l.map (·.category) ↔ c ∈ g.nodes ∧ ∃ n, g.ancestor? n c = some r
  ids_nodup : (l.map (·.category.id)).Nodup
  depth_isLeast : ∀ p ∈ l, IsLeast {n | g.ancestor? n p.category = some r} p.depth
  parents_first : g.ParentsFirst 0 l
  siblings : l.Pairwise fun p q =>
    p.depth ≠ 0 → p.category.parent = q.category.parent → p.category.Precedes q.category

theorem exists_grows_start (hr : r ∈ g.nodes) : ∃ below out,
    Grows g (fun _ => true) [r.id] (g.children r) below out ∧
      Grows g (fun _ => true) [] [r] [.node r below] out ∧
      g.descendants r.id = Tree.placedAll 0 [.node r below] := by
  obtain ⟨below, out, branch, hdescendants⟩ := exists_grows_descendants hr
  refine ⟨below, out, branch, .take hr rfl List.not_mem_nil branch (.nil out), ?_⟩
  simp [hdescendants, Tree.placedAll, Tree.placed]

theorem siblings_descendants (hr : r ∈ g.nodes) : (g.descendants r.id).Pairwise fun p q =>
    p.depth ≠ 0 → p.category.parent = q.category.parent → p.category.Precedes q.category := by
  obtain ⟨below, out, branch, hdescendants⟩ := exists_grows_descendants hr
  have hsiblings := branch.siblings_precede List.mem_cons_self
    (fun d hd => ((mem_children_iff_parent? hr).1 hd).2) (g.sortSiblings_filter_precedes _)
  rw [← Tree.category_placedAll 1, List.pairwise_map] at hsiblings
  rw [hdescendants, List.pairwise_cons]
  refine ⟨fun q _ hstart => absurd rfl hstart, ?_⟩
  refine hsiblings.imp_of_mem fun {p q} hp hq hsame _ hfield => hsame ?_
  have hparent : ∀ e ∈ Tree.placedAll 1 below, ∃ x, g.parent? e.category = some x := by
    intro e he
    have hin : e.category ∈ Tree.flatten below := by
      rw [← Tree.category_placedAll 1]
      exact List.mem_map_of_mem he
    obtain ⟨x, hx, _⟩ := branch.parent_taken hr List.not_mem_nil _ hin
    exact ⟨x, hx⟩
  obtain ⟨x, hx⟩ := hparent p hp
  obtain ⟨y, hy⟩ := hparent q hq
  obtain ⟨hxnode, hxfield, _⟩ := parent?_eq_some_iff.1 hx
  obtain ⟨hynode, hyfield, _⟩ := parent?_eq_some_iff.1 hy
  rw [hxfield, hyfield, Option.some.injEq] at hfield
  rw [hx, hy, eq_of_id_eq hxnode hynode hfield]

theorem isExpansion_descendants (hr : r ∈ g.nodes) : g.IsExpansion r (g.descendants r.id) := by
  obtain ⟨below, out, _, hgrows, hdescendants⟩ := exists_grows_start hr
  constructor
  case mem_iff =>
    intro c
    rw [hdescendants, Tree.category_placedAll, hgrows.mem_flatten_iff fun _ _ _ _ _ => rfl,
      ← isBelow_iff_exists_ancestor?]
    simp
  case ids_nodup =>
    rw [hdescendants, Tree.ids_placedAll]
    exact hgrows.ids_flatten_nodup
  case depth_isLeast => exact fun p hp => (isAtDepth_of_mem_descendants hr hp).isLeast
  case parents_first =>
    rw [hdescendants]
    exact hgrows.parentsFirst 0
  case siblings => exact siblings_descendants hr

theorem walk_eq_descendants (hr : r ∈ g.nodes) {fuel : Nat} (hfuel : g.nodes.length ≤ fuel) :
    g.walk (fun _ => true) fuel 0 [] r = g.descendants r.id := by
  obtain ⟨below, out, _, hgrows, hdescendants⟩ := exists_grows_start hr
  have hwalk := hgrows.foldl_walk fuel 0 [] (Nat.le_trans (g.untaken_le _) hfuel) (by simp)
  rw [hdescendants]
  exact hwalk

theorem descendants_of_not_mem {id : String} (hid : id ∉ g.nodes.map (·.id)) : g.descendants id = [] := by
  have hnone : g.find? id = none :=
    List.find?_eq_none.2 fun c hc he => hid (List.mem_map.2 ⟨c, hc, beq_iff_eq.1 he⟩)
  rw [descendants, hnone]
  rfl

/-! ### Expansions of roots -/

theorem descendants_rooted {t : Tree} (ht : t ∈ g.rooted) : g.descendants t.category.id = Tree.placedAll 0 [t] := by
  have hr := category_mem_roots ht
  obtain ⟨below, out, _, hgrows, hdescendants⟩ := exists_grows_start (mem_nodes_of_mem_roots hr)
  have hnext := isNext_of_sublist (List.singleton_sublist.2 hr)
  have hchildren := (hnext.hasChildren hgrows).2
  simp only [List.filter_true] at hchildren
  rw [hdescendants, Tree.eq_of_hasChildren hchildren (hasChildren_of_mem_rooted ht) rfl]

theorem flat_eq_flatMap (g : Graph) :
    g.flat = g.roots.flatMap fun r => (g.descendants r.id).map (·.category) := by
  rw [flat_eq, Tree.flatten_eq_flatMap, ← category_rooted, List.flatMap_map]
  refine List.flatMap_congr fun t ht => ?_
  rw [descendants_rooted ht, Tree.category_placedAll, Tree.flatten, Tree.flatten, List.append_nil]

end Graph

/-- The expansion of an id that is not there is empty, and that of any other one is what it should be, however far the
walk might go. The flat listing is made of the expansions of the roots, which are in sibling order. -/
theorem descendants_exact (cs : List Category) :
    let g := Graph.ofList cs
    (∀ id ∉ g.nodes.map (·.id), g.descendants id = []) ∧
      (∀ r ∈ g.nodes, g.IsExpansion r (g.descendants r.id) ∧
        ∀ fuel, g.nodes.length ≤ fuel → g.walk (fun _ => true) fuel 0 [] r = g.descendants r.id) ∧
      g.flat = g.roots.flatMap (fun r => (g.descendants r.id).map (·.category)) ∧
      (∀ r, r ∈ g.roots ↔ r ∈ g.nodes ∧ g.parent? r = none) ∧ g.roots.Pairwise Category.Precedes := by
  intro g
  refine ⟨fun id => Graph.descendants_of_not_mem, fun r hr => ?_, g.flat_eq_flatMap, fun r => Graph.mem_roots_iff,
    g.sortSiblings_filter_precedes _⟩
  exact ⟨Graph.isExpansion_descendants hr, fun fuel => Graph.walk_eq_descendants hr⟩

theorem descendants_aheadOfCycle : (Graph.ofList aheadOfCycle).descendants "b" =
    [ ⟨{ id := "b", parent := some "a" }, 0⟩, ⟨{ id := "a", parent := some "b" }, 1⟩,
      ⟨{ id := "c", parent := some "a", priority := -1 }, 2⟩ ] := by
  cbv

theorem not_all_siblings_ascending : ¬∀ (cs : List Category) (id : String),
    ((Graph.ofList cs).descendants id).Pairwise fun p q =>
      p.category.parent = q.category.parent → p.category.Precedes q.category := by
  intro h
  have hpairs := h aheadOfCycle "b"
  rw [descendants_aheadOfCycle] at hpairs
  have hstart := (List.pairwise_cons.1 hpairs).1 ⟨{ id := "c", parent := some "a", priority := -1 }, 2⟩ (by decide) rfl
  exact absurd hstart (by unfold Category.Precedes; decide)

end Catalogue
