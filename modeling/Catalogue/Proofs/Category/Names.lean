import Catalogue.Proofs.Category.Search
import Catalogue.Proofs.Unicode.LowerCase

set_option autoImplicit false

namespace Catalogue

namespace Graph

variable {cs : List Category} {c : Category} {text language : String}

theorem mem_flat_of_isAcyclic (hacyclic : (ofList cs).IsAcyclic) (hc : c ∈ (ofList cs).nodes) :
    c ∈ (ofList cs).flat := by
  rw [flat_eq]
  exact isAcyclic_iff.1 hacyclic c hc

theorem mem_search_of_nameContains (hids : (cs.map (·.id)).Nodup) (hacyclic : (ofList cs).IsAcyclic) (hc : c ∈ cs)
    (hmatch : c.nameContains text language = true) : c ∈ (ofList cs).search text language := by
  have hnode : c ∈ (ofList cs).nodes := by
    change c ∈ Category.firstOccurrences cs
    rwa [Category.firstOccurrences_of_nodup hids]
  exact (mem_search_iff _ text language).2 ⟨mem_flat_of_isAcyclic hacyclic hnode, c, hnode, hmatch, Or.inl .refl⟩

end Graph

namespace Category

open Unicode (KeepsSigmas lower lowerBetween)

variable {c : Category} {name language : String}

/-- A piece of a name has, by itself, the lower case that it has within the name just if its capital sigmas end words in
both or in neither, as in each piece that has none. Then it finds the category, by name and in a search among categories
whose parents form no cycle. -/
theorem nameContains_piece (hname : c.name? language = some name) {before behind : List Char} {text : String}
    (hpiece : name.toList = before ++ text.toList ++ behind) :
    ('Σ' ∉ text.toList → KeepsSigmas before text.toList behind) ∧
    (lowerBetween before text.toList behind = lower text ↔ KeepsSigmas before text.toList behind) ∧
    (KeepsSigmas before text.toList behind → c.nameContains text language = true ∧
      ∀ cs : List Category, (cs.map (·.id)).Nodup → (Graph.ofList cs).IsAcyclic → c ∈ cs →
        c ∈ (Graph.ofList cs).search text language) := by
  refine ⟨fun h => Unicode.keepsSigmas_of_not_mem h before behind,
    Unicode.lowerBetween_eq_lowerFrom_iff before text.toList behind, fun hkeeps => ?_⟩
  have hinfix : lower text <:+: lower name := by
    rw [lower, lower, hpiece]
    exact Unicode.lowerFrom_infix hkeeps
  have hmatch : c.nameContains text language = true := by
    rw [nameContains, hname]
    exact (isPiece_iff _ _).2 hinfix
  exact ⟨hmatch, fun cs hids hacyclic hc => Graph.mem_search_of_nameContains hids hacyclic hc hmatch⟩

def sampleStreet : Category := { id := "a", names := [("el", "ΟΔΟΣ ΑΘΗΝΑΣ")] }

theorem nameContains_piece_sampleStreet : sampleStreet.name? "el" = some "ΟΔΟΣ ΑΘΗΝΑΣ" ∧
    "ΟΔΟΣ ΑΘΗΝΑΣ".toList = "Ο".toList ++ "ΔΟΣ".toList ++ " ΑΘΗΝΑΣ".toList ∧
    sampleStreet.nameContains "ΔΟΣ" "el" = true ∧
    sampleStreet ∈ (Graph.ofList [sampleStreet]).search "ΔΟΣ" "el" := by
  have hname : sampleStreet.name? "el" = some "ΟΔΟΣ ΑΘΗΝΑΣ" := rfl
  have hpiece : "ΟΔΟΣ ΑΘΗΝΑΣ".toList = "Ο".toList ++ "ΔΟΣ".toList ++ " ΑΘΗΝΑΣ".toList := by decide
  obtain ⟨_, hlower, hfound⟩ := nameContains_piece hname hpiece
  have hacyclic : (Graph.ofList [sampleStreet]).IsAcyclic :=
    (Graph.flat_eq_flatten_forest_iff _).1 (by decide +kernel)
  obtain ⟨hmatch, hsearch⟩ := hfound (hlower.1 (by decide +kernel))
  exact ⟨hname, hpiece, hmatch, hsearch [sampleStreet] (List.nodup_singleton _) hacyclic List.mem_cons_self⟩

theorem not_every_piece_found : ¬∀ (c : Category) (name language text : String), c.name? language = some name →
    text.toList <:+: name.toList → c.nameContains text language = true ∧
      ∀ cs : List Category, (cs.map (·.id)).Nodup → (Graph.ofList cs).IsAcyclic → c ∈ cs →
        c ∈ (Graph.ofList cs).search text language := by
  intro h
  have hpiece : "Σ".toList <:+: "ΟΔΟΣ ΑΘΗΝΑΣ".toList := ⟨"ΟΔΟ".toList, " ΑΘΗΝΑΣ".toList, by decide⟩
  have hmissed : sampleStreet.nameContains "Σ" "el" = false := by decide +kernel
  have hfound := (h sampleStreet "ΟΔΟΣ ΑΘΗΝΑΣ" "el" "Σ" rfl hpiece).1
  rw [hmissed] at hfound
  cases hfound

end Category

end Catalogue
