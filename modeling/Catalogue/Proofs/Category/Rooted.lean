import Catalogue.Proofs.Category.Marks
import Catalogue.Proofs.Category.RoundTrip
import Catalogue.Proofs.Category.Subgraph

set_option autoImplicit false

namespace Catalogue

namespace Tree

@[elab_as_elim]
theorem forest_induction {motive : List Tree → Prop} (nil : motive [])
    (cons : ∀ c below ts, motive below → motive ts → motive (node c below :: ts)) (ts : List Tree) : motive ts := by
  match ts with
  | [] => exact nil
  | node c below :: ts => exact cons c below ts (forest_induction nil cons below) (forest_induction nil cons ts)
termination_by sizes ts
decreasing_by all_goals simp only [sizes, size]; omega

/-! ### Forests with given children -/

def HasChildren (children : Category → List Category) (ts : List Tree) : Prop :=
  ∀ t ∈ subtreesAll ts, t.children.map category = children t.category

variable {f : Category → List Category} {keep : Category → Bool} {c : Category} {below ts us : List Tree}

theorem hasChildren_nil : HasChildren f [] := by simp [HasChildren, subtreesAll]

theorem hasChildren_cons_iff :
    HasChildren f (node c below :: ts) ↔ below.map category = f c ∧ HasChildren f below ∧ HasChildren f ts := by
  simp only [HasChildren, subtreesAll, subtrees, List.cons_append, List.forall_mem_cons, List.forall_mem_append,
    children, category]

theorem eq_of_hasChildren (hts : HasChildren f ts) (hus : HasChildren f us)
    (h : ts.map category = us.map category) : ts = us := by
  induction ts using forest_induction generalizing us with
  | nil => exact (List.map_eq_nil_iff.1 h.symm).symm
  | cons c below ts ihbelow ihrest =>
    cases us with
    | nil => cases h
    | cons u us =>
      obtain ⟨d, branch⟩ := u
      rw [List.map_cons, List.map_cons, List.cons.injEq] at h
      obtain ⟨hroot, hrest⟩ := h
      obtain rfl : c = d := hroot
      obtain ⟨hbelow, htbelow, htrest⟩ := hasChildren_cons_iff.1 hts
      obtain ⟨hbranch, hubranch, hurest⟩ := hasChildren_cons_iff.1 hus
      rw [ihbelow htbelow hubranch (hbelow.trans hbranch.symm), ihrest htrest hurest hrest]

/-! ### Forests cut down from the top -/

mutual

def restrict (keep : Category → Bool) : Tree → List Tree
  | node c ts => if keep c then [node c (restrictAll keep ts)] else []

def restrictAll (keep : Category → Bool) : List Tree → List Tree
  | [] => []
  | t :: ts => restrict keep t ++ restrictAll keep ts

end

theorem restrictAll_cons_of_keep (h : keep c = true) :
    restrictAll keep (node c below :: ts) = node c (restrictAll keep below) :: restrictAll keep ts := by
  rw [restrictAll, restrict, if_pos h, List.singleton_append]

theorem restrictAll_cons_of_drop (h : keep c = false) :
    restrictAll keep (node c below :: ts) = restrictAll keep ts := by
  rw [restrictAll, restrict, if_neg (Bool.eq_false_iff.1 h), List.nil_append]

theorem category_restrictAll (keep : Category → Bool) (ts : List Tree) :
    (restrictAll keep ts).map category = (ts.map category).filter keep := by
  induction ts with
  | nil => rfl
  | cons t ts ih =>
    obtain ⟨c, below⟩ := t
    cases h : keep c with
    | true => rw [restrictAll_cons_of_keep h, List.map_cons, List.map_cons, category, category,
        List.filter_cons_of_pos h, ih]
    | false => rw [restrictAll_cons_of_drop h, List.map_cons, category, List.filter_cons_of_neg (by simp [h]), ih]

theorem hasChildren_restrictAll (keep : Category → Bool) (h : HasChildren f ts) :
    HasChildren (fun c => (f c).filter keep) (restrictAll keep ts) := by
  induction ts using forest_induction with
  | nil => exact hasChildren_nil
  | cons c below ts ihbelow ihrest =>
    obtain ⟨hbelow, htbelow, htrest⟩ := hasChildren_cons_iff.1 h
    cases hc : keep c with
    | true =>
      rw [restrictAll_cons_of_keep hc, hasChildren_cons_iff, category_restrictAll, hbelow]
      exact ⟨rfl, ihbelow htbelow, ihrest htrest⟩
    | false =>
      rw [restrictAll_cons_of_drop hc]
      exact ihrest htrest

theorem restrictAll_congr {keep' : Category → Bool} (h : ∀ d ∈ flatten ts, keep d = keep' d) :
    restrictAll keep ts = restrictAll keep' ts := by
  induction ts using forest_induction with
  | nil => rfl
  | cons c below ts ihbelow ihrest =>
    have hbelow := ihbelow fun d hd => h d (mem_flatten_cons.2 (Or.inr (Or.inl hd)))
    have hrest := ihrest fun d hd => h d (mem_flatten_cons.2 (Or.inr (Or.inr hd)))
    have hc : keep c = keep' c := h c (mem_flatten_cons.2 (Or.inl rfl))
    cases hkeep : keep c with
    | true => rw [restrictAll_cons_of_keep hkeep, restrictAll_cons_of_keep (hc.symm.trans hkeep), hbelow, hrest]
    | false => rw [restrictAll_cons_of_drop hkeep, restrictAll_cons_of_drop (hc.symm.trans hkeep), hrest]

theorem restrictAll_true (ts : List Tree) : restrictAll (fun _ => true) ts = ts := by
  induction ts using forest_induction with
  | nil => rfl
  | cons c below ts ihbelow ihrest => rw [restrictAll_cons_of_keep rfl, ihbelow, ihrest]

end Tree

namespace Graph

variable {g h : Graph} {keep : Category → Bool} {taken out : List String} {cs : List Category} {ts : List Tree}

/-! ### Growth that meets nothing twice -/

theorem Grows.not_mem_taken (h : Grows g keep taken cs ts out) : ∀ d ∈ Tree.flatten ts, d.id ∉ taken := by
  induction h with
  | nil taken => simp [Tree.flatten]
  | skip _ _ ih => exact ih
  | take _ _ hc branch _ ihbranch ihrest =>
    intro d hd
    rcases Tree.mem_flatten_cons.1 hd with rfl | hd | hd
    · exact hc
    · exact fun hm => ihbranch d hd (List.mem_cons_of_mem _ hm)
    · exact fun hm => ihrest d hd (branch.subset_out (List.mem_cons_of_mem _ hm))

theorem Grows.ids_flatten_nodup (h : Grows g keep [] cs ts out) : ((Tree.flatten ts).map (·.id)).Nodup := by
  have hout := h.out_perm.nodup_iff.1 (h.out_nodup List.nodup_nil)
  rwa [List.append_nil] at hout

theorem Grows.mem_or_parent (h : Grows g keep taken cs ts out) :
    ∀ d ∈ Tree.flatten ts, d ∈ cs ∨ ∃ p ∈ Tree.flatten ts, g.parent? d = some p := by
  induction h with
  | nil taken => simp [Tree.flatten]
  | skip _ _ ih => exact fun d hd => (ih d hd).imp_left (List.mem_cons_of_mem _)
  | @take taken mid out c cs below ts hnode _ _ _ _ ihbranch ihrest =>
    intro d hd
    rcases Tree.mem_flatten_cons.1 hd with rfl | hd | hd
    · exact Or.inl List.mem_cons_self
    · rcases ihbranch d hd with hchild | ⟨p, hp, hparent⟩
      · exact Or.inr ⟨c, Tree.mem_flatten_cons.2 (Or.inl rfl), ((mem_children_iff_parent? hnode).1 hchild).2⟩
      · exact Or.inr ⟨p, Tree.mem_flatten_cons.2 (Or.inr (Or.inl hp)), hparent⟩
    · rcases ihrest d hd with hc | ⟨p, hp, hparent⟩
      · exact Or.inl (List.mem_cons_of_mem _ hc)
      · exact Or.inr ⟨p, Tree.mem_flatten_cons.2 (Or.inr (Or.inr hp)), hparent⟩

theorem Grows.parent_taken {c : Category} {mid : List String} {below : List Tree} (hc : c ∈ g.nodes)
    (hnew : c.id ∉ taken) (branch : Grows g keep (c.id :: taken) (g.children c) below mid) :
    ∀ d ∈ Tree.flatten below, ∃ p, g.parent? d = some p ∧ p.id ∈ mid ∧ p.id ∉ taken := by
  intro d hd
  rcases branch.mem_or_parent d hd with hchild | ⟨p, hp, hparent⟩
  · exact ⟨c, ((mem_children_iff_parent? hc).1 hchild).2, branch.subset_out List.mem_cons_self, hnew⟩
  · exact ⟨p, hparent, branch.mem_out_iff.2 (Or.inl (List.mem_map_of_mem hp)),
      fun hm => branch.not_mem_taken p hp (List.mem_cons_of_mem _ hm)⟩

theorem ParentMarked.mono {c : Category} (h : g.ParentMarked taken c) (hsub : taken ⊆ out) : g.ParentMarked out c :=
  fun p hp => hsub (h p hp)

/-- The categories of the list are the next ones to be taken: they are not taken yet, but the parents that they
have are, like those of everything taken. -/
structure IsNext (g : Graph) (taken : List String) (cs : List Category) : Prop where
  ids_nodup : (cs.map (·.id)).Nodup
  mem_nodes : ∀ c ∈ cs, c ∈ g.nodes
  not_taken : ∀ c ∈ cs, c.id ∉ taken
  parent_marked : ∀ c ∈ cs, g.ParentMarked taken c
  closed : ∀ x ∈ g.nodes, x.id ∈ taken → g.ParentMarked taken x

namespace IsNext

variable {mid : List String} {c : Category} {below : List Tree}

theorem tail (h : IsNext g taken (c :: cs)) : IsNext g taken cs where
  ids_nodup := (List.nodup_cons.1 h.ids_nodup).2
  mem_nodes d hd := h.mem_nodes d (List.mem_cons_of_mem _ hd)
  not_taken d hd := h.not_taken d (List.mem_cons_of_mem _ hd)
  parent_marked d hd := h.parent_marked d (List.mem_cons_of_mem _ hd)
  closed := h.closed

theorem children (h : IsNext g taken (c :: cs)) : IsNext g (c.id :: taken) (g.children c) := by
  have hc := h.mem_nodes c List.mem_cons_self
  have hparent : ∀ d ∈ g.children c, g.parent? d = some c := fun d hd => ((mem_children_iff_parent? hc).1 hd).2
  constructor
  case ids_nodup => exact g.ids_children_nodup c
  case mem_nodes => exact fun d => mem_nodes_of_mem_children
  case not_taken =>
    intro d hd hm
    rcases List.mem_cons.1 hm with he | hm
    · exact (mem_children_iff.1 hd).2.2 he
    · have hd' := mem_nodes_of_mem_children hd
      exact h.not_taken c List.mem_cons_self (h.closed d hd' hm c (hparent d hd))
  case parent_marked =>
    intro d hd p hp
    rw [hparent d hd, Option.some.injEq] at hp
    exact hp ▸ List.mem_cons_self
  case closed =>
    intro x hx hm
    rcases List.mem_cons.1 hm with he | hm
    · rw [eq_of_id_eq hx hc he]
      exact (h.parent_marked c List.mem_cons_self).mono (List.subset_cons_self _ _)
    · exact (h.closed x hx hm).mono (List.subset_cons_self _ _)

/-- Everything taken below a category has its parent there, so after it the rest of the list is next. -/
theorem rest (h : IsNext g taken (c :: cs)) (branch : Grows g keep (c.id :: taken) (g.children c) below mid) :
    IsNext g mid cs := by
  have hc := h.mem_nodes c List.mem_cons_self
  have hsub : taken ⊆ mid := fun _ hm => branch.subset_out (List.mem_cons_of_mem _ hm)
  have hbelow := branch.parent_taken hc (h.not_taken c List.mem_cons_self)
  have hnext := h.tail
  constructor
  case ids_nodup => exact hnext.ids_nodup
  case mem_nodes => exact hnext.mem_nodes
  case not_taken =>
    intro d hd hm
    rcases branch.mem_out_iff.1 hm with hm | hm
    · have hin := branch.mem_flatten_of_id (hnext.mem_nodes d hd) hm
      obtain ⟨p, hp, _, hfree⟩ := hbelow d hin
      exact hfree (hnext.parent_marked d hd p hp)
    · rcases List.mem_cons.1 hm with he | hm
      · exact (List.nodup_cons.1 h.ids_nodup).1 (List.mem_map.2 ⟨d, hd, he⟩)
      · exact hnext.not_taken d hd hm
  case parent_marked => exact fun d hd => (hnext.parent_marked d hd).mono hsub
  case closed =>
    intro x hx hm
    rcases branch.mem_out_iff.1 hm with hm | hm
    · intro q hq
      obtain ⟨p, hp, hmid, _⟩ := hbelow x (branch.mem_flatten_of_id hx hm)
      rw [hp, Option.some.injEq] at hq
      exact hq ▸ hmid
    · exact (h.children.closed x hx hm).mono branch.subset_out

theorem hasChildren (h : IsNext g taken cs) (hgrows : Grows g keep taken cs ts out) :
    ts.map Tree.category = cs.filter keep ∧ Tree.HasChildren (fun c => (g.children c).filter keep) ts := by
  induction hgrows with
  | nil taken => exact ⟨rfl, Tree.hasChildren_nil⟩
  | @skip taken out c cs ts hc _ ih =>
    have hdrop : keep c = false := hc.resolve_right (h.not_taken c List.mem_cons_self)
    rw [List.filter_cons_of_neg (by simp [hdrop])]
    exact ih h.tail
  | @take taken mid out c cs below ts _ hkeep _ branch _ ihbranch ihrest =>
    obtain ⟨hbelow, hbranch⟩ := ihbranch h.children
    obtain ⟨hroots, hrest⟩ := ihrest (h.rest branch)
    rw [List.filter_cons_of_pos hkeep, List.map_cons, hroots, Tree.hasChildren_cons_iff]
    exact ⟨rfl, hbelow, hbranch, hrest⟩

end IsNext

theorem isNext_of_sublist (h : cs.Sublist g.roots) : IsNext g [] cs where
  ids_nodup := g.ids_roots_nodup.sublist (h.map _)
  mem_nodes _ hc := mem_nodes_of_mem_roots (h.subset hc)
  not_taken _ _ := List.not_mem_nil
  parent_marked c hc p hp := by
    rw [(mem_roots_iff.1 (h.subset hc)).2] at hp
    cases hp
  closed _ _ hm := absurd hm List.not_mem_nil

theorem isNext_roots (g : Graph) : IsNext g [] g.roots := isNext_of_sublist (.refl _)

/-! ### The trees from the roots -/

def rooted (g : Graph) : List Tree := (g.grow g.nodes.length [] g.roots).1

theorem exists_grows_rooted (g : Graph) : ∃ taken, Grows g (fun _ => true) [] g.roots g.rooted taken := by
  obtain ⟨ts, taken, hgrows⟩ := g.exists_grows (fun _ => true) [] g.roots fun _ => mem_nodes_of_mem_roots
  have hts : g.rooted = ts := by
    rw [rooted, hgrows.grow_eq _ (g.untaken_le _)]
  exact ⟨taken, hts ▸ hgrows⟩

theorem category_rooted (g : Graph) : g.rooted.map Tree.category = g.roots := by
  obtain ⟨taken, hgrows⟩ := g.exists_grows_rooted
  rw [(g.isNext_roots.hasChildren hgrows).1, List.filter_true]

theorem category_mem_roots {t : Tree} (ht : t ∈ g.rooted) : t.category ∈ g.roots := by
  rw [← category_rooted]
  exact List.mem_map_of_mem ht

theorem hasChildren_rooted (g : Graph) : Tree.HasChildren g.children g.rooted := by
  obtain ⟨taken, hgrows⟩ := g.exists_grows_rooted
  have h := (g.isNext_roots.hasChildren hgrows).2
  simpa only [List.filter_true] using h

theorem hasChildren_of_mem_rooted {t : Tree} (ht : t ∈ g.rooted) : Tree.HasChildren g.children [t] := by
  refine fun u hu => g.hasChildren_rooted u ?_
  simp only [Tree.subtreesAll, List.append_nil] at hu
  exact Tree.mem_subtreesAll_iff.2 ⟨t, ht, hu⟩

theorem mem_flatten_rooted_iff {c : Category} :
    c ∈ Tree.flatten g.rooted ↔ c ∈ g.nodes ∧ ∃ r ∈ g.roots, g.IsBelow c r := by
  obtain ⟨taken, hgrows⟩ := g.exists_grows_rooted
  rw [hgrows.mem_flatten_iff fun _ _ _ _ _ => rfl]
  simp only [true_and]

theorem Grows.eq_restrictAll (hgrows : Grows g keep [] g.roots ts out) : ts = Tree.restrictAll keep g.rooted := by
  obtain ⟨hroots, hchildren⟩ := g.isNext_roots.hasChildren hgrows
  refine Tree.eq_of_hasChildren hchildren (Tree.hasChildren_restrictAll keep g.hasChildren_rooted) ?_
  rw [hroots, Tree.category_restrictAll, category_rooted]

theorem exists_grows_restrictAll (g : Graph) (keep : Category → Bool) :
    ∃ out, Grows g keep [] g.roots (Tree.restrictAll keep g.rooted) out := by
  obtain ⟨ts, out, hgrows⟩ := g.exists_grows keep [] g.roots fun _ => mem_nodes_of_mem_roots
  exact ⟨out, hgrows.eq_restrictAll ▸ hgrows⟩

theorem walkFrom_roots (g : Graph) (keep : Category → Bool) :
    (g.walkFrom keep g.roots).map (·.category) = Tree.flatten (Tree.restrictAll keep g.rooted) := by
  obtain ⟨out, hgrows⟩ := g.exists_grows_restrictAll keep
  rw [hgrows.walkFrom_eq, Tree.category_placedAll]

theorem flat_eq (g : Graph) : g.flat = Tree.flatten g.rooted := by
  rw [flat, walkFrom_roots, Tree.restrictAll_true]

/-- The trees from the roots of a part that no parent leads out of are what is left of the whole in it. -/
theorem rooted_of_subset (hsub : h.nodes ⊆ g.nodes) (hup : g.IsUpward h) :
    h.rooted = Tree.restrictAll (· ∈ h.nodes) g.rooted := by
  have hchildren : h.children = fun c => (g.children c).filter (· ∈ h.nodes) := funext (children_of_subset hsub)
  have hrestricted := Tree.hasChildren_restrictAll (· ∈ h.nodes) g.hasChildren_rooted
  rw [← hchildren] at hrestricted
  refine Tree.eq_of_hasChildren h.hasChildren_rooted hrestricted ?_
  rw [category_rooted, Tree.category_restrictAll, category_rooted, roots_of_subset hsub hup]

/-! ### Forests of what is below roots -/

theorem forest_eq_rooted (hall : ∀ c ∈ g.nodes, c ∈ Tree.flatten g.rooted) : g.forest = g.rooted := by
  obtain ⟨taken, hgrows⟩ := g.exists_grows_rooted
  have hstranded : g.stranded taken = [] := by
    refine List.eq_nil_iff_forall_not_mem.2 fun c hc => ?_
    obtain ⟨hnode, htaken⟩ := mem_stranded_iff.1 hc
    exact htaken (hgrows.mem_out_iff.2 (Or.inl (List.mem_map_of_mem (hall c hnode))))
  have hleft : Grows g (fun _ => true) taken (g.stranded taken) [] taken := by
    rw [hstranded]
    exact .nil taken
  rw [forest_eq_of_grows hgrows hleft, List.append_nil]

theorem nodes_flatten_restrictAll (g : Graph) (keep : Category → Bool) :
    (ofList (Tree.flatten (Tree.restrictAll keep g.rooted))).nodes =
      Tree.flatten (Tree.restrictAll keep g.rooted) := by
  obtain ⟨out, hgrows⟩ := g.exists_grows_restrictAll keep
  exact Category.firstOccurrences_of_nodup hgrows.ids_flatten_nodup

section

variable (hkeep : ∀ x ∈ g.nodes, ∀ p, g.parent? x = some p → keep x = true → keep p = true)

include hkeep

theorem mem_flatten_restrictAll_iff {c : Category} : c ∈ Tree.flatten (Tree.restrictAll keep g.rooted) ↔
    c ∈ g.nodes ∧ keep c = true ∧ ∃ r ∈ g.roots, g.IsBelow c r := by
  obtain ⟨out, hgrows⟩ := g.exists_grows_restrictAll keep
  exact hgrows.mem_flatten_iff hkeep

theorem isUpward_flatten_restrictAll :
    g.IsUpward (ofList (Tree.flatten (Tree.restrictAll keep g.rooted))) := by
  intro c hc p hp
  rw [nodes_flatten_restrictAll, mem_flatten_restrictAll_iff hkeep] at hc ⊢
  obtain ⟨hnode, hkept, r, hr, hbelow⟩ := hc
  exact ⟨mem_nodes_of_parent? hp, hkeep c hnode p hp hkept, r, hr, hbelow.parent_of_mem_roots hp hr⟩

theorem rooted_flatten_restrictAll :
    (ofList (Tree.flatten (Tree.restrictAll keep g.rooted))).rooted = Tree.restrictAll keep g.rooted := by
  have hmem : ∀ c, c ∈ (ofList (Tree.flatten (Tree.restrictAll keep g.rooted))).nodes ↔
      c ∈ g.nodes ∧ keep c = true ∧ ∃ r ∈ g.roots, g.IsBelow c r := by
    intro c
    rw [nodes_flatten_restrictAll, mem_flatten_restrictAll_iff hkeep]
  rw [rooted_of_subset (fun c hc => ((hmem c).1 hc).1) (isUpward_flatten_restrictAll hkeep)]
  refine Tree.restrictAll_congr fun c hc => ?_
  obtain ⟨hnode, hroot⟩ := mem_flatten_rooted_iff.1 hc
  rw [Bool.eq_iff_iff, decide_eq_true_eq, hmem]
  exact ⟨fun hin => hin.2.1, fun hkept => ⟨hnode, hkept, hroot⟩⟩

end

theorem rebuild_restrictAll (g : Graph) (keep : Category → Bool)
    (hkeep : ∀ x ∈ g.nodes, ∀ p, g.parent? x = some p → keep x = true → keep p = true) :
    Tree.rebuild (Tree.flatten (Tree.restrictAll keep g.rooted)) = Tree.restrictAll keep g.rooted := by
  have hrooted := rooted_flatten_restrictAll hkeep
  change (ofList (Tree.flatten (Tree.restrictAll keep g.rooted))).forest = _
  rw [forest_eq_rooted, hrooted]
  intro c hc
  rwa [hrooted, ← nodes_flatten_restrictAll]

theorem rebuild_flat (g : Graph) : Tree.rebuild g.flat = g.rooted := by
  have h := g.rebuild_restrictAll (fun _ => true) fun _ _ _ _ _ => rfl
  rwa [Tree.restrictAll_true, ← flat_eq] at h

end Graph

end Catalogue
