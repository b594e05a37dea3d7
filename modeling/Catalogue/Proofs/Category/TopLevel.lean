import Catalogue.Proofs.Category.Preorder
import Catalogue.Proofs.Category.Search

/-!
The top-level categories of a search. They are told by climbing from each match, and the climb ends at the root
above the match if there is one: then the categories reported are those roots that the flat result of the search
holds. From a match that leads to a cycle the climb goes around until it has made as many steps as there are
categories, and what it reports then is a category on the cycle.
-/

set_option autoImplicit false

namespace Catalogue

namespace Graph

variable {g : Graph} {c r : Category}

/-! ### Where climbs end -/

theorem isOnCycle_topAncestor (hc : c ∈ g.nodes) (hleads : g.LeadsToCycle c) :
    g.IsOnCycle (g.topAncestor g.nodes.length c) := by
  refine (parent?_topAncestor_or_cycle hc).resolve_left fun htop => ?_
  have hbelow := g.isBelow_topAncestor g.nodes.length c
  have hroot := mem_roots_iff.2 ⟨hbelow.mem_nodes hc, htop⟩
  exact (not_mem_flatten_rooted_iff hc).2 hleads (mem_flatten_rooted_iff.2 ⟨hc, _, hroot, hbelow⟩)

theorem topAncestor_eq_of_mem_roots (hc : c ∈ g.nodes) (hr : r ∈ g.roots) (hbelow : g.IsBelow c r) :
    g.topAncestor g.nodes.length c = r := by
  have habove := g.isBelow_topAncestor g.nodes.length c
  rcases parent?_topAncestor_or_cycle hc with htop | hcycle
  · exact habove.root_unique hbelow (mem_roots_iff.2 ⟨habove.mem_nodes hc, htop⟩) hr
  · have hfree := mem_flatten_rooted_iff.2 ⟨hc, r, hr, hbelow⟩
    exact absurd hfree ((not_mem_flatten_rooted_iff hc).2 ⟨_, habove, hcycle⟩)

theorem leadsToCycle_iff (hc : c ∈ g.nodes) : g.LeadsToCycle c ↔ ¬∃ r ∈ g.roots, g.IsBelow c r := by
  rw [← not_mem_flatten_rooted_iff hc, mem_flatten_rooted_iff]
  exact not_congr (and_iff_right hc)

theorem ancestor?_topAncestor {fuel : Nat} (h : g.parent? (g.topAncestor fuel c) ≠ none) :
    g.ancestor? fuel c = some (g.topAncestor fuel c) := by
  induction fuel generalizing c with
  | zero => rfl
  | succ fuel ih =>
    unfold topAncestor at h ⊢
    cases hparent : g.parent? c with
    | none =>
      rw [hparent] at h
      exact absurd hparent h
    | some p =>
      rw [hparent] at h
      rw [ancestor?_succ hparent]
      exact ih h

/-! ### What is reported -/

def IsTopMatch (g : Graph) (text language : String) (r : Category) : Prop :=
  r ∈ g.nodes ∧ g.parent? r = none ∧ ∃ m ∈ g.nodes, m.nameContains text language = true ∧ g.IsBelow m r

/-- The category lies on a cycle, and around it the climb from a match is given up there. -/
def IsStrayMatch (g : Graph) (text language : String) (a : Category) : Prop :=
  g.IsOnCycle a ∧ ∃ m ∈ g.nodes, m.nameContains text language = true ∧ g.ancestor? g.nodes.length m = some a

section

variable (g) (text language : String)

variable {g text language} in
theorem isTopMatch_or_isStrayMatch {m : Category} (hm : m ∈ g.nodes) (hmatch : m.nameContains text language = true) :
    g.IsTopMatch text language (g.topAncestor g.nodes.length m) ∨
      g.IsStrayMatch text language (g.topAncestor g.nodes.length m) := by
  have habove := g.isBelow_topAncestor g.nodes.length m
  rcases parent?_topAncestor_or_cycle hm with htop | hcycle
  · exact Or.inl ⟨habove.mem_nodes hm, htop, m, hm, hmatch, habove⟩
  · have hgiven := ancestor?_topAncestor (parent?_ne_none_of_cycle hcycle .refl)
    exact Or.inr ⟨hcycle, m, hm, hmatch, hgiven⟩

theorem mem_topMatches_iff {id : String} : id ∈ g.topMatches text language ↔
    ∃ a, a.id = id ∧ (g.IsTopMatch text language a ∨ g.IsStrayMatch text language a) := by
  rw [topMatches, mem_idSet_iff, List.mem_map]
  constructor
  · rintro ⟨m, hm, rfl⟩
    obtain ⟨hnode, hmatch⟩ := mem_matching_iff.1 hm
    exact ⟨_, rfl, isTopMatch_or_isStrayMatch hnode hmatch⟩
  · rintro ⟨a, rfl, ⟨ha, htop, m, hm, hmatch, hbelow⟩ | ⟨hcycle, m, hm, hmatch, hgiven⟩⟩
    · refine ⟨m, mem_matching_iff.2 ⟨hm, hmatch⟩, ?_⟩
      rw [topAncestor_eq_of_mem_roots hm (mem_roots_iff.2 ⟨ha, htop⟩) hbelow]
    · refine ⟨m, mem_matching_iff.2 ⟨hm, hmatch⟩, ?_⟩
      have hend := isOnCycle_topAncestor hm ⟨a, isBelow_iff_exists_ancestor?.2 ⟨_, hgiven⟩, hcycle⟩
      rw [ancestor?_topAncestor (parent?_ne_none_of_cycle hend .refl), Option.some.injEq] at hgiven
      rw [hgiven]

def searchRoots : List Category := (g.search text language).filter fun c => (g.parent? c).isNone

theorem mem_searchRoots_iff : r ∈ g.searchRoots text language ↔ g.IsTopMatch text language r := by
  rw [searchRoots, List.mem_filter, Option.isNone_iff_eq_none, mem_search_iff, mem_flat_iff]
  constructor
  · rintro ⟨⟨⟨hr, _⟩, m, hm, hmatch, hrel⟩, htop⟩
    refine ⟨hr, htop, m, hm, hmatch, ?_⟩
    rcases hrel with hup | hdown
    · rw [hup.eq_of_mem_roots (mem_roots_iff.2 ⟨hr, htop⟩)]
      exact .refl
    · exact hdown
  · rintro ⟨hr, htop, m, hm, hmatch, hbelow⟩
    exact ⟨⟨⟨hr, r, mem_roots_iff.2 ⟨hr, htop⟩, .refl⟩, m, hm, hmatch, Or.inr hbelow⟩, htop⟩

end

theorem IsStrayMatch.not_isTopMatch {text language : String} {a : Category} (ha : g.IsStrayMatch text language a)
    (hr : g.IsTopMatch text language r) : a.id ≠ r.id := by
  intro he
  rw [eq_of_id_eq ha.1.mem_nodes hr.1 he] at ha
  exact parent?_ne_none_of_cycle ha.1 .refl hr.2.1

theorem exists_isStrayMatch_iff {text language : String} : (∃ a, g.IsStrayMatch text language a) ↔
    ∃ m ∈ g.nodes, m.nameContains text language = true ∧ g.LeadsToCycle m := by
  constructor
  · rintro ⟨a, hcycle, m, hm, hmatch, hgiven⟩
    exact ⟨m, hm, hmatch, a, isBelow_iff_exists_ancestor?.2 ⟨_, hgiven⟩, hcycle⟩
  · rintro ⟨m, hm, hmatch, hleads⟩
    have hend := isOnCycle_topAncestor hm hleads
    exact ⟨_, hend, m, hm, hmatch, ancestor?_topAncestor (parent?_ne_none_of_cycle hend .refl)⟩

theorem topMatches_eq_idSet_iff (text language : String) :
    g.topMatches text language = idSet ((g.searchRoots text language).map (·.id)) ↔
      ∀ m ∈ g.nodes, m.nameContains text language = true → ∃ r ∈ g.roots, g.IsBelow m r := by
  constructor
  · intro h m hm hmatch
    by_contra hfree
    obtain ⟨a, ha⟩ := exists_isStrayMatch_iff.2 ⟨m, hm, hmatch, (leadsToCycle_iff hm).2 hfree⟩
    have hreported := (g.mem_topMatches_iff text language).2 ⟨a, rfl, Or.inr ha⟩
    rw [h, mem_idSet_iff, List.mem_map] at hreported
    obtain ⟨r, hr, he⟩ := hreported
    exact ha.not_isTopMatch ((g.mem_searchRoots_iff text language).1 hr) he.symm
  · intro h
    have hstray : ¬∃ a, g.IsStrayMatch text language a := by
      rw [exists_isStrayMatch_iff]
      rintro ⟨m, hm, hmatch, hleads⟩
      exact (leadsToCycle_iff hm).1 hleads (h m hm hmatch)
    refine idSet_eq_of_mem_iff fun id => mem_idSet_iff.symm.trans ?_
    change id ∈ g.topMatches text language ↔ _
    rw [mem_topMatches_iff, List.mem_map]
    constructor
    · rintro ⟨a, he, ha | ha⟩
      · exact ⟨a, (g.mem_searchRoots_iff text language).2 ha, he⟩
      · exact absurd ⟨a, ha⟩ hstray
    · rintro ⟨a, ha, he⟩
      exact ⟨a, he, Or.inl ((g.mem_searchRoots_iff text language).1 ha)⟩

end Graph

/-- A search reports, each id once, the categories without a parent that have the text in their own name or in that of a
category below them, which are those without a parent in its flat result. Beside them it reports, for every match
that leads to a cycle, the category on the cycle where the climb from the match is given up. -/
theorem topMatches_exact (cs : List Category) (text language : String) :
    let g := Graph.ofList cs
    (∀ r, r ∈ g.searchRoots text language ↔ g.IsTopMatch text language r) ∧
      (∀ id, id ∈ g.topMatches text language ↔
        ∃ a, a.id = id ∧ (g.IsTopMatch text language a ∨ g.IsStrayMatch text language a)) ∧
      (g.topMatches text language).Pairwise (fun a b => a ≤ b ∧ a ≠ b) ∧
      (∀ m ∈ g.nodes, m.nameContains text language = true →
        ∃ a, g.IsBelow m a ∧ (g.IsTopMatch text language a ∨ g.IsStrayMatch text language a)) ∧
      (g.topMatches text language = Graph.idSet ((g.searchRoots text language).map (·.id)) ↔
        ∀ m ∈ g.nodes, m.nameContains text language = true → ∃ r ∈ g.roots, g.IsBelow m r) := by
  intro g
  refine ⟨fun r => g.mem_searchRoots_iff text language, fun id => g.mem_topMatches_iff text language,
    Graph.idSet_ascending _, fun m hm hmatch => ?_, Graph.topMatches_eq_idSet_iff text language⟩
  exact ⟨_, g.isBelow_topAncestor _ m, Graph.isTopMatch_or_isStrayMatch hm hmatch⟩

def sampleOrchard : List Category :=
  [{ id := "a", parent := some "b" }, { id := "b", parent := some "a" },
    { id := "c", names := [("en", "Apple")], parent := some "a" }, { id := "r", names := [("en", "Fruit")] },
    { id := "s", names := [("en", "Apple pie")], parent := some "r" }]

theorem topMatches_exact_sampleOrchard :
    "a" ∈ (Graph.ofList sampleOrchard).topMatches "apple" "en" ∧
    "r" ∈ (Graph.ofList sampleOrchard).topMatches "apple" "en" ∧
    sampleOrchard[3] ∈ (Graph.ofList sampleOrchard).searchRoots "apple" "en" := by
  obtain ⟨hroots, hreported, _⟩ := topMatches_exact sampleOrchard "apple" "en"
  have hnodes : (Graph.ofList sampleOrchard).nodes = sampleOrchard := by decide +kernel
  have hcycle : (Graph.ofList sampleOrchard).IsOnCycle sampleOrchard[0] :=
    .tail (.single (b := sampleOrchard[1]) rfl) rfl
  have htop : (Graph.ofList sampleOrchard).IsTopMatch "apple" "en" sampleOrchard[3] := by
    exact ⟨by simp [hnodes], rfl, sampleOrchard[4], by simp [hnodes], by decide +kernel, .single rfl⟩
  have hstray : (Graph.ofList sampleOrchard).IsStrayMatch "apple" "en" sampleOrchard[0] := by
    exact ⟨hcycle, sampleOrchard[2], by simp [hnodes], by decide +kernel, rfl⟩
  exact ⟨(hreported "a").2 ⟨_, rfl, Or.inr hstray⟩, (hreported "r").2 ⟨_, rfl, Or.inl htop⟩, (hroots _).2 htop⟩

def namedCycle : List Category :=
  [{ id := "a", names := [("en", "Apple")], parent := some "b" }, { id := "b", parent := some "a" }]

theorem reports_namedCycle : (Graph.ofList namedCycle).topMatches "apple" "en" = ["a"] ∧
    (Graph.ofList namedCycle).search "apple" "en" = [] := by
  decide +kernel

theorem not_only_top_level : ¬∀ (cs : List Category) (text language id : String),
    id ∈ (Graph.ofList cs).topMatches text language ↔
      ∃ r, r.id = id ∧ (Graph.ofList cs).IsTopMatch text language r := by
  intro h
  obtain ⟨hreported, hflat⟩ := reports_namedCycle
  have hmem : "a" ∈ (Graph.ofList namedCycle).topMatches "apple" "en" := by
    rw [hreported]
    exact List.mem_singleton_self "a"
  obtain ⟨r, _, htop⟩ := (h namedCycle "apple" "en" "a").1 hmem
  have hfound := ((Graph.ofList namedCycle).mem_searchRoots_iff "apple" "en").2 htop
  rw [Graph.searchRoots, hflat] at hfound
  cases hfound

end Catalogue
