import Catalogue.Command.Run
import Catalogue.Proofs.Category.Conservation
import Catalogue.Proofs.Category.Rooted
import Mathlib.Data.List.Permutation

set_option autoImplicit false

namespace Catalogue

namespace Graph

variable {g : Graph} {c r : Category}

def IsAcyclic (g : Graph) : Prop := ∀ c, ¬Relation.TransGen (fun x y => g.parent? x = some y) c c

theorem parent?_ne_none_of_cycle (hcycle : Relation.TransGen (fun x y => g.parent? x = some y) c c)
    (hbelow : g.IsBelow c r) : g.parent? r ≠ none := by
  induction hbelow using Relation.ReflTransGen.head_induction_on with
  | refl =>
    obtain ⟨p, hp, _⟩ := Relation.TransGen.head'_iff.1 hcycle
    rw [hp]
    exact Option.some_ne_none p
  | @head c q hq _ ih =>
    obtain ⟨p, hp, habove⟩ := Relation.TransGen.head'_iff.1 hcycle
    rw [hq, Option.some.injEq] at hp
    exact ih (Relation.TransGen.tail' (hp ▸ habove) hq)

/-! ### The last ancestor -/

theorem isBelow_topAncestor (g : Graph) (fuel : Nat) (c : Category) : g.IsBelow c (g.topAncestor fuel c) := by
  induction fuel generalizing c with
  | zero => exact .refl
  | succ fuel ih =>
    unfold topAncestor
    cases hparent : g.parent? c with
    | none => exact .refl
    | some p => exact .head hparent (ih p)

def IsOnCycle (g : Graph) (c : Category) : Prop := Relation.TransGen (fun x y => g.parent? x = some y) c c

theorem IsOnCycle.isBelow_symm {a : Category} (h : g.IsOnCycle c) (habove : g.IsBelow c a) : g.IsBelow a c := by
  induction habove with
  | refl => exact .refl
  | @tail b a _ hparent ih =>
    obtain ⟨y, hy, hback⟩ : ∃ y, g.parent? b = some y ∧ g.IsBelow y c := by
      rcases Relation.ReflTransGen.cases_head ih with rfl | hstep
      · exact Relation.TransGen.head'_iff.1 h
      · exact hstep
    rw [hparent, Option.some.injEq] at hy
    exact hy ▸ hback

theorem IsOnCycle.of_isBelow {a : Category} (h : g.IsOnCycle c) (habove : g.IsBelow c a) : g.IsOnCycle a :=
  Relation.TransGen.trans_left (Relation.TransGen.trans_right (h.isBelow_symm habove) h) habove

/-- A climb reaches the top unless it ends on a cycle: the categories it has passed are behind it for good. -/
theorem parent?_topAncestor_or_cycle (hc : c ∈ g.nodes) :
    g.parent? (g.topAncestor g.nodes.length c) = none ∨ g.IsOnCycle (g.topAncestor g.nodes.length c) := by
  suffices h : ∀ fuel passed c, c ∈ g.nodes → c.id ∉ passed → g.untaken passed ≤ fuel →
      (∀ x ∈ g.nodes, x.id ∈ passed → Relation.TransGen (fun x y => g.parent? x = some y) x c) →
      g.parent? (g.topAncestor fuel c) = none ∨ g.IsOnCycle (g.topAncestor fuel c) from
    h _ [] c hc List.not_mem_nil (g.untaken_le _) fun _ _ hm => absurd hm List.not_mem_nil
  intro fuel
  induction fuel with
  | zero =>
    intro passed c hc hnew hfuel _
    have hless := untaken_cons_lt hc hnew
    omega
  | succ fuel ih =>
    intro passed c hc hnew hfuel hpassed
    have hless := untaken_cons_lt hc hnew
    unfold topAncestor
    cases hparent : g.parent? c with
    | none => exact Or.inl hparent
    | some p =>
      have hp := mem_nodes_of_parent? hparent
      have hbehind : ∀ x ∈ g.nodes, x.id ∈ c.id :: passed →
          Relation.TransGen (fun x y => g.parent? x = some y) x p := by
        intro x hx hm
        rcases List.mem_cons.1 hm with he | hm
        · rw [eq_of_id_eq hx hc he]
          exact .single hparent
        · exact (hpassed x hx hm).tail hparent
      by_cases hm : p.id ∈ c.id :: passed
      · have hcycle : g.IsOnCycle p := hbehind p hp hm
        exact Or.inr (hcycle.of_isBelow (g.isBelow_topAncestor fuel p))
      · exact ih (c.id :: passed) p hp hm (by omega) hbehind

theorem parent?_topAncestor (hacyclic : g.IsAcyclic) (hc : c ∈ g.nodes) :
    g.parent? (g.topAncestor g.nodes.length c) = none :=
  (parent?_topAncestor_or_cycle hc).resolve_right fun hcycle => hacyclic _ hcycle

theorem IsBelow.mem_nodes {a : Category} (h : g.IsBelow c a) (hc : c ∈ g.nodes) : a ∈ g.nodes := by
  rcases Relation.ReflTransGen.cases_tail h with rfl | ⟨x, _, hparent⟩
  · exact hc
  · exact mem_nodes_of_parent? hparent

theorem topAncestor_mem_roots (hacyclic : g.IsAcyclic) (hc : c ∈ g.nodes) :
    g.topAncestor g.nodes.length c ∈ g.roots :=
  mem_roots_iff.2 ⟨(g.isBelow_topAncestor _ c).mem_nodes hc, parent?_topAncestor hacyclic hc⟩

theorem isAcyclic_iff : g.IsAcyclic ↔ ∀ c ∈ g.nodes, c ∈ Tree.flatten g.rooted := by
  constructor
  · intro hacyclic c hc
    exact mem_flatten_rooted_iff.2 ⟨hc, _, topAncestor_mem_roots hacyclic hc, g.isBelow_topAncestor _ c⟩
  · intro hall c hcycle
    obtain ⟨x, _, hparent⟩ := Relation.TransGen.tail'_iff.1 hcycle
    obtain ⟨_, r, hr, hbelow⟩ := mem_flatten_rooted_iff.1 (hall c (mem_nodes_of_parent? hparent))
    exact parent?_ne_none_of_cycle hcycle hbelow (mem_roots_iff.1 hr).2

theorem forest_eq_rooted_of_isAcyclic (hacyclic : g.IsAcyclic) : g.forest = g.rooted :=
  forest_eq_rooted (isAcyclic_iff.1 hacyclic)

/-! ### Trees that start on a cycle -/

theorem Grows.category_sublist {keep : Category → Bool} {taken out : List String} {cs : List Category}
    {ts : List Tree} (h : Grows g keep taken cs ts out) : (ts.map Tree.category).Sublist cs := by
  induction h with
  | nil taken => exact .slnil
  | skip _ _ ih => exact ih.cons _
  | take _ _ _ _ _ _ ihrest => exact ihrest.cons_cons _

theorem Grows.category_mem {keep : Category → Bool} {taken out : List String} {cs : List Category}
    {ts : List Tree} (h : Grows g keep taken cs ts out) : ∀ t ∈ ts, t.category ∈ cs :=
  fun _ ht => h.category_sublist.subset (List.mem_map_of_mem ht)

/-- The trees of a forest that do not grow from a root come after the others, in the order of what these have
left, and start at a category that has a parent. -/
theorem exists_forest_eq_rooted_append (g : Graph) :
    ∃ left taken, g.forest = g.rooted ++ left ∧ (left.map Tree.category).Sublist (g.stranded taken) ∧
      ∀ t ∈ left, g.parent? t.category ≠ none := by
  obtain ⟨taken, hrooted⟩ := g.exists_grows_rooted
  obtain ⟨left, out, hleft⟩ :=
    g.exists_grows (fun _ => true) taken (g.stranded taken) fun _ hc => (mem_stranded_iff.1 hc).1
  refine ⟨left, taken, forest_eq_of_grows hrooted hleft, hleft.category_sublist, fun t ht hnone => ?_⟩
  obtain ⟨hnode, hfree⟩ := mem_stranded_iff.1 (hleft.category_mem t ht)
  exact hfree (hrooted.covers _ (mem_roots_iff.2 ⟨hnode, hnone⟩) rfl)

theorem filter_forest (g : Graph) (select : Category → Bool)
    (hselect : ∀ c, select c = true → g.parent? c = none) :
    g.forest.filter (fun t => select t.category) = g.rooted.filter fun t => select t.category := by
  obtain ⟨left, _, hforest, _, hleft⟩ := g.exists_forest_eq_rooted_append
  have hnone : left.filter (fun t => select t.category) = [] :=
    List.filter_eq_nil_iff.2 fun t ht hs => hleft t ht (hselect _ hs)
  rw [hforest, List.filter_append, hnone, List.append_nil]

theorem filter_forest_root (g : Graph) :
    g.forest.filter (fun t => (g.parent? t.category).isNone) = g.rooted := by
  rw [g.filter_forest (fun c => (g.parent? c).isNone) fun c => Option.isNone_iff_eq_none.1]
  refine List.filter_eq_self.2 fun t ht => ?_
  rw [(mem_roots_iff.1 (category_mem_roots ht)).2, Option.isNone_none]

theorem ids_flat_nodup (g : Graph) : (g.flat.map (·.id)).Nodup := by
  obtain ⟨_, hgrows⟩ := g.exists_grows_rooted
  rw [flat_eq]
  exact hgrows.ids_flatten_nodup

theorem flat_eq_flatten_forest_iff (g : Graph) : g.flat = Tree.flatten g.forest ↔ g.IsAcyclic := by
  rw [flat_eq]
  constructor
  · intro h
    rw [isAcyclic_iff, h]
    exact fun c => mem_flatten_forest_iff.2
  · intro hacyclic
    rw [forest_eq_rooted_of_isAcyclic hacyclic]

end Graph

namespace Command

theorem perform_tree {settings : Settings} {files : Files} {path text : String} {language : Option String}
    {cs : List Category} (hfile : files path = .ok text)
    (hread : Json.decodeText Category.decodeList text = .ok cs) :
    perform settings files (.tree path none language) =
      .ok (.array (Tree.forestToJson (Tree.rebuild (Graph.ofList cs).flat))) := by
  simp [perform, readFile, decodeFile, hfile, hread, Except.mapError, bind, Except.bind, pure, Except.pure]

end Command

/-- The flat listing holds the trees of the rebuilt forest that start at a category without a parent in the list,
and the same trees are shown for a file. Nothing is missing where there is no cycle, and only there. -/
theorem flat_part_of_rebuild (cs : List Category) :
    (Graph.ofList cs).flat = Tree.flatten
        ((Tree.rebuild cs).filter fun t => ((Graph.ofList cs).parent? t.category).isNone) ∧
      ((Graph.ofList cs).flat.map (·.id)).Nodup ∧
      ((Graph.ofList cs).flat = Tree.flatten (Tree.rebuild cs) ↔ (Graph.ofList cs).IsAcyclic) ∧
      ((Graph.ofList cs).flat.Perm (Category.firstOccurrences cs) ↔ (Graph.ofList cs).IsAcyclic) ∧
      ∀ (settings : Settings) (files : Command.Files) (path text : String) (language : Option String),
        files path = .ok text → Json.decodeText Category.decodeList text = .ok cs →
        Command.perform settings files (.tree path none language) = .ok (.array (Tree.forestToJson
          ((Tree.rebuild cs).filter fun t => ((Graph.ofList cs).parent? t.category).isNone))) := by
  have hroots : (Tree.rebuild cs).filter (fun t => ((Graph.ofList cs).parent? t.category).isNone) =
      (Graph.ofList cs).rooted := (Graph.ofList cs).filter_forest_root
  have hagree := (Graph.ofList cs).flat_eq_flatten_forest_iff
  rw [hroots]
  refine ⟨Graph.flat_eq _, Graph.ids_flat_nodup _, hagree, ?_, ?_⟩
  · constructor
    · intro hperm
      rw [Graph.isAcyclic_iff, ← Graph.flat_eq]
      exact fun c hc => hperm.mem_iff.2 hc
    · intro hacyclic
      rw [hagree.2 hacyclic]
      exact (Graph.ofList cs).flatten_forest_perm
  · intro settings files path text language hfile hread
    rw [Command.perform_tree hfile hread, Graph.rebuild_flat]

def twoCycle : List Category := [{ id := "a", parent := some "b" }, { id := "b", parent := some "a" }]

theorem roots_twoCycle : (Graph.ofList twoCycle).roots = [] := by decide +kernel

theorem flat_lacks_twoCycle :
    (Graph.ofList twoCycle).flat = [] ∧ Tree.flatten (Tree.rebuild twoCycle) = twoCycle := by
  constructor
  · rw [Graph.flat, roots_twoCycle]
    rfl
  · rw [Tree.rebuild, Graph.forest, roots_twoCycle]
    cbv

def twoCycleText : String :=
  "[\x7b\"id\":\"a\",\"parent\":\"b\"\x7d,\x7b\"id\":\"b\",\"parent\":\"a\"\x7d]"

theorem perform_tree_twoCycle :
    Command.perform {} (fun _ => .ok twoCycleText) (.tree "categories.json" none none) = .ok (.array []) := by
  have hsome : (Json.decodeText Category.decodeList twoCycleText).toOption = some twoCycle := by decide +kernel
  have hrooted : (Graph.ofList twoCycle).rooted = [] := by
    rw [Graph.rooted, roots_twoCycle]
    rfl
  have hnone : (Tree.rebuild twoCycle).filter
      (fun t => ((Graph.ofList twoCycle).parent? t.category).isNone) = [] :=
    (Graph.filter_forest_root _).trans hrooted
  obtain ⟨_, _, _, _, hshown⟩ := flat_part_of_rebuild twoCycle
  cases hread : Json.decodeText Category.decodeList twoCycleText with
  | error e =>
    rw [hread] at hsome
    cases hsome
  | ok cs =>
    rw [hread] at hsome
    obtain rfl : cs = twoCycle := Option.some.inj hsome
    rw [hshown {} _ "categories.json" twoCycleText none rfl hread, hnone]
    rfl

end Catalogue
