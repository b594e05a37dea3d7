import Catalogue.Category.Forest
import Catalogue.Proofs.Category.Links
import Mathlib.Algebra.Ring.Nat
import Mathlib.Logic.Relation

/-!
Growing trees without a bound on the depth. `Grows` says which trees stand below a list of categories when
every category is taken once; walks and the growing of forests both follow it, since a bound by the number
of categories that are not taken yet is never met.
-/

set_option autoImplicit false

namespace Catalogue

namespace Tree

theorem flatten_append (ts us : List Tree) : flatten (ts ++ us) = flatten ts ++ flatten us := by
  induction ts with
  | nil => rfl
  | cons t ts ih => simp only [List.cons_append, flatten, ih, List.append_assoc]

theorem mem_flatten_cons {d c : Category} {below ts : List Tree} :
    d ∈ flatten (node c below :: ts) ↔ d = c ∨ d ∈ flatten below ∨ d ∈ flatten ts := by
  simp only [flatten, preorder, List.cons_append, List.mem_cons, List.mem_append]

theorem sum_size (ts : List Tree) : (ts.map size).sum = sizes ts := by
  induction ts with
  | nil => rfl
  | cons t ts ih => simp only [List.map_cons, List.sum_cons, sizes, ih]

mutual

def placed (depth : Nat) : Tree → List Placed
  | node c ts => ⟨c, depth⟩ :: placedAll (depth + 1) ts

def placedAll (depth : Nat) : List Tree → List Placed
  | [] => []
  | t :: ts => placed depth t ++ placedAll depth ts

end

mutual

theorem category_placed (depth : Nat) (t : Tree) : (placed depth t).map (·.category) = preorder t := by
  cases t with
  | node c ts => simp only [placed, preorder, List.map_cons, category_placedAll]

theorem category_placedAll (depth : Nat) (ts : List Tree) :
    (placedAll depth ts).map (·.category) = flatten ts := by
  cases ts with
  | nil => rfl
  | cons t ts => simp only [placedAll, flatten, List.map_append, category_placed, category_placedAll]

end

theorem ids_placedAll (depth : Nat) (ts : List Tree) :
    (placedAll depth ts).map (·.category.id) = (flatten ts).map (·.id) := by
  rw [← category_placedAll depth, List.map_map]
  rfl

end Tree

namespace Graph

variable {g : Graph} {keep : Category → Bool} {taken out : List String} {cs : List Category} {ts : List Tree}

/-! ### Categories not taken yet -/

def untaken (g : Graph) (taken : List String) : Nat :=
  (g.nodes.filter fun c => !taken.contains c.id).length

theorem untaken_le (g : Graph) (taken : List String) : g.untaken taken ≤ g.nodes.length :=
  List.length_filter_le _ _

theorem untaken_anti (g : Graph) (h : taken ⊆ out) : g.untaken out ≤ g.untaken taken := by
  refine List.Sublist.length_le (List.monotone_filter_right _ fun c hc => ?_)
  simp only [Bool.not_eq_true', List.contains_eq_mem, decide_eq_false_iff_not] at hc ⊢
  exact fun hm => hc (h hm)

theorem untaken_cons_lt {c : Category} (hnode : c ∈ g.nodes) (hc : c.id ∉ taken) :
    g.untaken (c.id :: taken) < g.untaken taken := by
  have hfilter : (g.nodes.filter fun d => !(c.id :: taken).contains d.id) =
      (g.nodes.filter fun d => !taken.contains d.id).filter fun d => d.id != c.id := by
    rw [List.filter_filter]
    refine List.filter_congr fun d _ => ?_
    rw [List.contains_cons, Bool.not_or]
    rfl
  unfold untaken
  rw [hfilter, List.length_filter_lt_length_iff_exists]
  exact ⟨c, by simp [hnode, hc], by simp⟩

/-! ### Growth -/

/-- From the categories of a list that satisfy `keep` and are not taken, the trees grow one after the
other; the last argument holds the ids that are taken in the end. -/
inductive Grows (g : Graph) (keep : Category → Bool) :
    List String → List Category → List Tree → List String → Prop
  | nil (taken : List String) : Grows g keep taken [] [] taken
  | skip {taken out : List String} {c : Category} {cs : List Category} {ts : List Tree}
      (hc : keep c = false ∨ c.id ∈ taken) (rest : Grows g keep taken cs ts out) :
      Grows g keep taken (c :: cs) ts out
  | take {taken mid out : List String} {c : Category} {cs : List Category} {below ts : List Tree}
      (hnode : c ∈ g.nodes) (hkeep : keep c = true) (hc : c.id ∉ taken)
      (branch : Grows g keep (c.id :: taken) (g.children c) below mid)
      (rest : Grows g keep mid cs ts out) : Grows g keep taken (c :: cs) (.node c below :: ts) out

theorem Grows.out_perm (h : Grows g keep taken cs ts out) :
    out.Perm ((Tree.flatten ts).map (·.id) ++ taken) := by
  induction h with
  | nil taken => exact .refl _
  | skip _ _ ih => exact ih
  | @take taken mid out c cs below ts _ _ _ _ _ ihbranch ihrest =>
    simp only [Tree.flatten, Tree.preorder, List.map_append, List.map_cons, List.cons_append, List.append_assoc]
    have hmid : ((Tree.flatten ts).map (·.id) ++ mid).Perm
        ((Tree.flatten ts).map (·.id) ++ ((Tree.flatten below).map (·.id) ++ c.id :: taken)) :=
      ihbranch.append_left _
    refine (ihrest.trans hmid).trans ?_
    refine (List.perm_append_comm_assoc _ _ _).trans ?_
    exact (List.perm_middle.append_left _).trans List.perm_middle

theorem Grows.mem_out_iff (h : Grows g keep taken cs ts out) {id : String} :
    id ∈ out ↔ id ∈ (Tree.flatten ts).map (·.id) ∨ id ∈ taken := by
  rw [h.out_perm.mem_iff, List.mem_append]

theorem Grows.subset_out (h : Grows g keep taken cs ts out) : taken ⊆ out :=
  fun _ hid => h.mem_out_iff.2 (Or.inr hid)

theorem Grows.out_nodup (h : Grows g keep taken cs ts out) (htaken : taken.Nodup) : out.Nodup := by
  induction h with
  | nil taken => exact htaken
  | skip _ _ ih => exact ih htaken
  | take _ _ hc _ _ ihbranch ihrest => exact ihrest (ihbranch (List.nodup_cons.2 ⟨hc, htaken⟩))

theorem Grows.mem_nodes (h : Grows g keep taken cs ts out) : ∀ d ∈ Tree.flatten ts, d ∈ g.nodes := by
  induction h with
  | nil taken => simp [Tree.flatten]
  | skip _ _ ih => exact ih
  | take hnode _ _ _ _ ihbranch ihrest =>
    intro d hd
    rcases Tree.mem_flatten_cons.1 hd with rfl | hd | hd
    · exact hnode
    · exact ihbranch d hd
    · exact ihrest d hd

theorem Grows.mem_flatten_of_id (h : Grows g keep taken cs ts out) {c : Category} (hc : c ∈ g.nodes)
    (hid : c.id ∈ (Tree.flatten ts).map (·.id)) : c ∈ Tree.flatten ts := by
  obtain ⟨d, hd, he⟩ := List.mem_map.1 hid
  rwa [eq_of_id_eq hc (h.mem_nodes d hd) he.symm]

theorem Grows.covers (h : Grows g keep taken cs ts out) : ∀ c ∈ cs, keep c = true → c.id ∈ out := by
  induction h with
  | nil taken => simp
  | skip hc rest ih =>
    intro d hd hkeep
    rcases List.mem_cons.1 hd with rfl | hd
    · rcases hc with hc | hc
      · rw [hc] at hkeep
        cases hkeep
      · exact rest.subset_out hc
    · exact ih d hd hkeep
  | take _ _ _ branch rest _ ihrest =>
    intro d hd hkeep
    rcases List.mem_cons.1 hd with rfl | hd
    · exact rest.subset_out (branch.subset_out List.mem_cons_self)
    · exact ihrest d hd hkeep

theorem Grows.closed (h : Grows g keep taken cs ts out) :
    ∀ d ∈ Tree.flatten ts, ∀ e ∈ g.children d, keep e = true → e.id ∈ out := by
  induction h with
  | nil taken => simp [Tree.flatten]
  | skip _ _ ih => exact ih
  | take _ _ _ branch rest ihbranch ihrest =>
    intro d hd e he hkeep
    rcases Tree.mem_flatten_cons.1 hd with rfl | hd | hd
    · exact rest.subset_out (branch.covers e he hkeep)
    · exact rest.subset_out (ihbranch d hd e he hkeep)
    · exact ihrest d hd e he hkeep

theorem exists_grows (g : Graph) (keep : Category → Bool) (taken : List String) (cs : List Category)
    (hcs : ∀ c ∈ cs, c ∈ g.nodes) : ∃ ts out, Grows g keep taken cs ts out := by
  suffices h : ∀ n taken, g.untaken taken ≤ n → ∀ cs : List Category, (∀ c ∈ cs, c ∈ g.nodes) →
      ∃ ts out, Grows g keep taken cs ts out from h _ taken (Nat.le_refl _) cs hcs
  -- The number of categories that are not taken falls with each level, and within a level the list gets shorter.
  intro n
  induction n using Nat.strongRecOn with
  | _ n ih =>
    intro taken hn cs hcs
    induction cs generalizing taken with
    | nil => exact ⟨[], taken, .nil taken⟩
    | cons c cs ihcs =>
      have hnode : c ∈ g.nodes := hcs c List.mem_cons_self
      have htail : ∀ d ∈ cs, d ∈ g.nodes := fun d hd => hcs d (List.mem_cons_of_mem _ hd)
      by_cases hskip : keep c = false ∨ c.id ∈ taken
      · obtain ⟨ts, out, rest⟩ := ihcs taken hn htail
        exact ⟨ts, out, .skip hskip rest⟩
      · rw [not_or, Bool.not_eq_false] at hskip
        have hless := untaken_cons_lt hnode hskip.2
        obtain ⟨below, mid, branch⟩ := ih (g.untaken (c.id :: taken)) (by omega) (c.id :: taken) (Nat.le_refl _)
          (g.children c) fun _ => mem_nodes_of_mem_children
        have hmid : g.untaken mid ≤ g.untaken (c.id :: taken) := g.untaken_anti branch.subset_out
        obtain ⟨ts, out, rest⟩ := ihcs mid (by omega) htail
        exact ⟨.node c below :: ts, out, .take hnode hskip.1 hskip.2 branch rest⟩

/-- Parent links lead from `d` to `a`, in no step or in several. -/
def IsBelow (g : Graph) (d a : Category) : Prop :=
  Relation.ReflTransGen (fun x y => g.parent? x = some y) d a

theorem IsBelow.of_mem_children {c d e : Category} (hc : c ∈ g.nodes) (hd : d ∈ g.children c)
    (he : g.IsBelow e d) : g.IsBelow e c :=
  Relation.ReflTransGen.tail he ((mem_children_iff_parent? hc).1 hd).2

theorem IsBelow.parent_of_ne {x m p : Category} (h : g.IsBelow x m) (hp : g.parent? x = some p) (hne : x ≠ m) :
    g.IsBelow p m := by
  rcases Relation.ReflTransGen.cases_head h with he | ⟨y, hy, hbelow⟩
  · exact absurd he hne
  · rw [hp, Option.some.injEq] at hy
    exact hy ▸ hbelow

theorem IsBelow.parent_of_mem_roots {x r p : Category} (h : g.IsBelow x r) (hp : g.parent? x = some p)
    (hr : r ∈ g.roots) : g.IsBelow p r := by
  refine h.parent_of_ne hp ?_
  rintro rfl
  rw [(mem_roots_iff.1 hr).2] at hp
  cases hp

theorem IsBelow.eq_of_mem_roots {r a : Category} (h : g.IsBelow r a) (hr : r ∈ g.roots) : a = r := by
  rcases Relation.ReflTransGen.cases_head h with he | ⟨p, hp, _⟩
  · exact he.symm
  · rw [(mem_roots_iff.1 hr).2] at hp
    cases hp

theorem IsBelow.total {c a b : Category} (ha : g.IsBelow c a) (hb : g.IsBelow c b) :
    g.IsBelow a b ∨ g.IsBelow b a :=
  Relation.ReflTransGen.total_of_right_unique (fun _ _ _ hy hz => Option.some.inj (hy.symm.trans hz)) ha hb

theorem IsBelow.root_unique {c r s : Category} (hr : g.IsBelow c r) (hs : g.IsBelow c s) (hrroot : r ∈ g.roots)
    (hsroot : s ∈ g.roots) : r = s := by
  rcases hr.total hs with hup | hup
  · exact (hup.eq_of_mem_roots hrroot).symm
  · exact hup.eq_of_mem_roots hsroot

theorem Grows.isBelow (h : Grows g keep taken cs ts out) :
    ∀ d ∈ Tree.flatten ts, ∃ c ∈ cs, g.IsBelow d c := by
  induction h with
  | nil taken => simp [Tree.flatten]
  | skip _ _ ih =>
    intro d hd
    obtain ⟨c, hc, hbelow⟩ := ih d hd
    exact ⟨c, List.mem_cons_of_mem _ hc, hbelow⟩
  | @take taken mid out c cs below ts hnode _ _ _ _ ihbranch ihrest =>
    intro d hd
    rcases Tree.mem_flatten_cons.1 hd with rfl | hd | hd
    · exact ⟨d, List.mem_cons_self, .refl⟩
    · obtain ⟨e, he, hbelow⟩ := ihbranch d hd
      exact ⟨c, List.mem_cons_self, hbelow.of_mem_children hnode he⟩
    · obtain ⟨e, he, hbelow⟩ := ihrest d hd
      exact ⟨e, List.mem_cons_of_mem _ he, hbelow⟩

theorem Grows.keeps (h : Grows g keep taken cs ts out) : ∀ d ∈ Tree.flatten ts, keep d = true := by
  induction h with
  | nil taken => simp [Tree.flatten]
  | skip _ _ ih => exact ih
  | take _ hkeep _ _ _ ihbranch ihrest =>
    intro d hd
    rcases Tree.mem_flatten_cons.1 hd with rfl | hd | hd
    · exact hkeep
    · exact ihbranch d hd
    · exact ihrest d hd

/-- Trees that grow from nothing taken hold the descendants of the categories they grow from, as far as these
satisfy `keep`, if the parent of what satisfies `keep` does so too. -/
theorem Grows.mem_flatten_iff (h : Grows g keep [] cs ts out)
    (hkeep : ∀ x ∈ g.nodes, ∀ p, g.parent? x = some p → keep x = true → keep p = true) {d : Category} :
    d ∈ Tree.flatten ts ↔ d ∈ g.nodes ∧ keep d = true ∧ ∃ c ∈ cs, g.IsBelow d c := by
  constructor
  · intro hd
    exact ⟨h.mem_nodes d hd, h.keeps d hd, h.isBelow d hd⟩
  · rintro ⟨hd, hkept, c, hc, hbelow⟩
    have hfound : ∀ x ∈ g.nodes, x.id ∈ out → x ∈ Tree.flatten ts := by
      intro x hx hid
      rcases h.mem_out_iff.1 hid with hid | hid
      · exact h.mem_flatten_of_id hx hid
      · cases hid
    -- The chain of parents from `d` up to `c` is followed from its upper end.
    induction hbelow using Relation.ReflTransGen.head_induction_on with
    | refl => exact hfound c hd (h.covers c hc hkept)
    | @head x y hparent _ ih =>
      have hy : y ∈ g.nodes := mem_nodes_of_parent? hparent
      have hchild : x ∈ g.children y := (mem_children_iff_parent? hy).2 ⟨hd, hparent⟩
      exact hfound x hd (h.closed y (ih hy (hkeep x hd y hparent hkept)) x hchild hkept)

/-! ### Forests -/

theorem foldl_accumulate {β γ σ : Type} {step : List β × σ → γ → List β × σ}
    (hstep : ∀ acc s a, step (acc, s) a = (acc ++ (step ([], s) a).1, (step ([], s) a).2))
    (l : List γ) (acc : List β) (s : σ) :
    l.foldl step (acc, s) = (acc ++ (l.foldl step ([], s)).1, (l.foldl step ([], s)).2) := by
  induction l generalizing acc s with
  | nil => simp
  | cons a l ih =>
    rw [List.foldl_cons, List.foldl_cons, hstep acc, ih, ih (step ([], s) a).1]
    simp only [List.append_assoc]

theorem grow_nil (g : Graph) (fuel : Nat) (taken : List String) : g.grow fuel taken [] = ([], taken) := by
  cases fuel <;> rfl

theorem grow_cons_of_mem {c : Category} (fuel : Nat) (hc : c.id ∈ taken) :
    g.grow fuel taken (c :: cs) = g.grow fuel taken cs := by
  cases fuel with
  | zero => rfl
  | succ fuel => simp [grow, hc]

theorem grow_cons {c : Category} (fuel : Nat) (hc : c.id ∉ taken) :
    g.grow (fuel + 1) taken (c :: cs) =
      let branch := g.grow fuel (c.id :: taken) (g.children c)
      let rest := g.grow (fuel + 1) branch.2 cs
      (.node c branch.1 :: rest.1, rest.2) := by
  simp only [grow, List.foldl_cons]
  rw [foldl_accumulate]
  · simp [hc]
  · intro acc s a
    by_cases ha : a.id ∈ s <;> simp [ha]

/-- With as many levels as there are categories not taken yet, all trees are grown in full. -/
theorem Grows.grow_eq (h : Grows g (fun _ => true) taken cs ts out) :
    ∀ fuel, g.untaken taken ≤ fuel → g.grow fuel taken cs = (ts, out) := by
  induction h with
  | nil taken => exact fun fuel _ => g.grow_nil fuel taken
  | skip hc _ ih =>
    intro fuel hfuel
    rw [grow_cons_of_mem fuel (hc.resolve_left (by decide))]
    exact ih fuel hfuel
  | @take taken mid out c cs below ts hnode _ hc branch rest ihbranch ihrest =>
    intro fuel hfuel
    have hless := untaken_cons_lt hnode hc
    have hmid := g.untaken_anti branch.subset_out
    obtain ⟨fuel, rfl⟩ : ∃ n, fuel = n + 1 := ⟨fuel - 1, by omega⟩
    rw [grow_cons fuel hc, ihbranch fuel (by omega)]
    simp only [ihrest (fuel + 1) (by omega)]

def stranded (g : Graph) (taken : List String) : List Category :=
  Category.sortSiblings (g.nodes.filter fun c => !taken.contains c.id)

theorem mem_stranded_iff {c : Category} : c ∈ g.stranded taken ↔ c ∈ g.nodes ∧ c.id ∉ taken := by
  simp [stranded, Category.mem_sortSiblings]

theorem forest_eq (g : Graph) : g.forest =
    (g.grow g.nodes.length [] g.roots).1 ++
      (g.grow g.nodes.length (g.grow g.nodes.length [] g.roots).2
        (g.stranded (g.grow g.nodes.length [] g.roots).2)).1 := rfl

theorem forest_eq_of_grows {rooted left : List Tree}
    (hrooted : Grows g (fun _ => true) [] g.roots rooted taken)
    (hleft : Grows g (fun _ => true) taken (g.stranded taken) left out) : g.forest = rooted ++ left := by
  rw [forest_eq, hrooted.grow_eq _ (g.untaken_le _), hleft.grow_eq _ (g.untaken_le _)]

theorem exists_forest_eq (g : Graph) : ∃ rooted taken left out,
    Grows g (fun _ => true) [] g.roots rooted taken ∧
      Grows g (fun _ => true) taken (g.stranded taken) left out ∧ g.forest = rooted ++ left := by
  obtain ⟨rooted, taken, hrooted⟩ :=
    g.exists_grows (fun _ => true) [] g.roots fun _ => mem_nodes_of_mem_roots
  obtain ⟨left, out, hleft⟩ :=
    g.exists_grows (fun _ => true) taken (g.stranded taken) fun _ hc => (mem_stranded_iff.1 hc).1
  exact ⟨rooted, taken, left, out, hrooted, hleft, forest_eq_of_grows hrooted hleft⟩

/-! ### Walks -/

theorem walk_of_seen {c : Category} {seen : List Placed} (fuel depth : Nat)
    (hc : keep c = false ∨ c.id ∈ seen.map (·.category.id)) : g.walk keep fuel depth seen c = seen := by
  cases fuel with
  | zero => rfl
  | succ fuel =>
    have hskip : (!keep c || seen.any (·.category.id == c.id)) = true := by
      rcases hc with hc | hc
      · simp [hc]
      · obtain ⟨p, hp, hid⟩ := List.mem_map.1 hc
        rw [Bool.or_eq_true, List.any_eq_true]
        exact Or.inr ⟨p, hp, beq_iff_eq.2 hid⟩
    simp only [walk, hskip, if_true]

theorem walk_of_new {c : Category} {seen : List Placed} (fuel depth : Nat) (hkeep : keep c = true)
    (hc : c.id ∉ seen.map (·.category.id)) : g.walk keep (fuel + 1) depth seen c =
      (g.children c).foldl (g.walk keep fuel (depth + 1)) (seen ++ [⟨c, depth⟩]) := by
  have hnew : (seen.any (·.category.id == c.id)) = false := by
    rw [List.any_eq_false]
    exact fun p hp => fun he => hc (List.mem_map.2 ⟨p, hp, beq_iff_eq.1 he⟩)
  simp only [walk, hkeep, hnew, Bool.not_true, Bool.or_self, Bool.false_eq_true, if_false]

theorem Grows.foldl_walk (h : Grows g keep taken cs ts out) :
    ∀ fuel depth (seen : List Placed), g.untaken taken ≤ fuel →
      (∀ id, id ∈ taken ↔ id ∈ seen.map (·.category.id)) →
      cs.foldl (g.walk keep fuel depth) seen = seen ++ Tree.placedAll depth ts := by
  induction h with
  | nil taken => intro fuel depth seen _ _; simp [Tree.placedAll]
  | skip hc _ ih =>
    intro fuel depth seen hfuel hseen
    rw [List.foldl_cons, walk_of_seen fuel depth (hc.imp_right (hseen _).1)]
    exact ih fuel depth seen hfuel hseen
  | @take taken mid out c cs below ts hnode hkeep hc branch rest ihbranch ihrest =>
    intro fuel depth seen hfuel hseen
    have hless := untaken_cons_lt hnode hc
    have hmid := g.untaken_anti branch.subset_out
    obtain ⟨fuel, rfl⟩ : ∃ n, fuel = n + 1 := ⟨fuel - 1, by omega⟩
    have hentered : ∀ id, id ∈ c.id :: taken ↔
        id ∈ (seen ++ [(⟨c, depth⟩ : Placed)]).map (·.category.id) := by
      intro id
      rw [List.mem_cons, hseen id, List.map_append, List.mem_append, or_comm]
      simp
    have hleft : ∀ id, id ∈ mid ↔
        id ∈ (seen ++ [(⟨c, depth⟩ : Placed)] ++ Tree.placedAll (depth + 1) below).map (·.category.id) := by
      intro id
      rw [branch.mem_out_iff, hentered id, ← Tree.ids_placedAll (depth + 1), or_comm, ← List.mem_append,
        ← List.map_append]
    rw [List.foldl_cons, walk_of_new fuel depth hkeep fun hm => hc ((hseen _).2 hm),
      ihbranch fuel (depth + 1) _ (by omega) hentered, ihrest (fuel + 1) depth _ (by omega) hleft]
    simp [Tree.placedAll, Tree.placed]

theorem Grows.walkFrom_eq (h : Grows g keep [] cs ts out) : g.walkFrom keep cs = Tree.placedAll 0 ts :=
  h.foldl_walk _ 0 [] (g.untaken_le _) (by simp)

end Graph

end Catalogue
