import Catalogue.Category.Stored
import Catalogue.Proofs.Category.Collection
import Catalogue.Proofs.Page.Stages
import Mathlib.Data.List.Permutation

set_option autoImplicit false

namespace Catalogue

namespace Expansion

variable {db : Database} {collection : String} {predicate : Document}

theorem aggregate_pipeline (hmatch : ∀ d ∈ db.collection collection, ∃ b, Store.isMatch d predicate = .ok b) :
    db.aggregate collection (pipeline collection predicate) =
      .ok ((Store.satisfying predicate (db.collection collection)).map
        ((lookup collection).extend (db.collection collection))) := by
  rw [Database.aggregate, pipeline, List.map_cons, ← List.singleton_append, Database.runStages_append,
    Database.runStages_match hmatch]
  exact Database.runStages_lookup (show Store.LookupSpec.ofDocument _ = .ok (lookup collection) from rfl)

theorem traverse_eq {m : Type → Type} [Monad m] [LawfulMonad m] {α : Type} {settings : Settings}
    (hmatch : ∀ d ∈ db.collection settings.categoryCollection, ∃ b, Store.isMatch d predicate = .ok b)
    (read : List Document → Except Failure α) :
    (⟨Store.ofDatabase db, settings⟩ : StoredCategories m).traverse predicate read =
      pure (read ((Store.satisfying predicate (db.collection settings.categoryCollection)).map
        ((lookup settings.categoryCollection).extend (db.collection settings.categoryCollection)))) := by
  simp only [StoredCategories.traverse, Store.ofDatabase, aggregate_pipeline hmatch, Except.mapError, pure_bind]

def foundIn (row : Document) : List Document :=
  match Fields.get? row descendantsField with
  | some (.array items) => items.filterMap Value.asDocument?
  | _ => []

/-- A lookup has found the category and has written this depth for it. -/
def IsWritten (row : Document) (c : Category) (n : Nat) : Prop :=
  (∃ x ∈ foundIn row, Category.ofDocument x = .ok c) ∧
    ∀ x ∈ foundIn row, Category.ofDocument x = .ok c → Fields.get? x "depth" = some (.int64 (Int64.ofNat n))

def below (collection : String) (docs : List Document) (r : Document) : List Category :=
  ((lookup collection).found docs r).map Document.category

def members (collection : String) (docs roots : List Document) : List Category :=
  roots.flatMap fun r => r.category :: below collection docs r

theorem foundIn_extend (collection : String) (docs : List Document) (d : Document) :
    foundIn ((lookup collection).extend docs d) = (lookup collection).found docs d := by
  have hitems : Fields.get? ((lookup collection).extend docs d) descendantsField =
      some (.array (((lookup collection).found docs d).map .document)) := Fields.get?_put_self d _ _
  rw [foundIn, hitems]
  simp [List.filterMap_map, Function.comp_def, Value.asDocument?]

theorem readRow_extend {docs : List Document} {r : Document} (collection : String)
    (hr : Category.ofDocument r = .ok r.category)
    (hfound : ∀ x ∈ (lookup collection).found docs r, Category.ofDocument x = .ok x.category) :
    readRow ((lookup collection).extend docs r) = .ok (r.category, below collection docs r) := by
  have hname : descendantsField ∉ ["_id", "id", "names", "parent", "priority"] := by decide
  have hroot : Category.ofDocument ((lookup collection).extend docs r) = .ok r.category :=
    (Category.ofDocument_put hname r _).trans hr
  have hitems : Category.optionalField ((lookup collection).extend docs r) descendantsField =
      some (.array (((lookup collection).found docs r).map .document)) :=
    Category.optionalField_eq_some_iff.2 ⟨Fields.get?_put_self r _ _, nofun⟩
  have hread : ((lookup collection).found docs r).mapM (readDescendant ∘ Value.document) =
      .ok (below collection docs r) := mapM_eq_ok _ hfound
  rw [readRow, hroot, readDescendants, hitems]
  change ((((lookup collection).found docs r).map Value.document).mapM readDescendant >>=
    fun below => pure (r.category, below)) = _
  rw [List.mapM_map, hread]
  rfl

end Expansion

/-! ### Rows -/

namespace IsCategoryCollection

open Store.LookupSpec (FirstReached)

variable {docs : List Document} (h : IsCategoryCollection docs) {d r x : Document} {c : Category}
variable (collection : String)

include h

theorem mem_found_iff (hr : r ∈ docs) : x ∈ (Expansion.lookup collection).found docs r ↔
    ∃ n, ∃ d ∈ docs, FirstReached (Expansion.lookup collection) docs [.string r.category.id] n d ∧
      x = Fields.put d "depth" (.int64 (Int64.ofNat n)) := by
  have hstart : Document.lookup r (Expansion.lookup collection).start = some (.string r.category.id) :=
    (Expansion.lookup_id r).trans (h.get?_id hr)
  rw [Store.LookupSpec.mem_found_iff h.keys_nodup, hstart]
  constructor
  · rintro ⟨n, d, hfirst, hx⟩
    exact ⟨n, d, hfirst.1.mem, hfirst, hx⟩
  · rintro ⟨n, d, _, hfirst, hx⟩
    exact ⟨n, d, hfirst, hx⟩

theorem ofDocument_put_depth (hd : d ∈ docs) (n : Nat) :
    Category.ofDocument (Fields.put d "depth" (.int64 (Int64.ofNat n))) = .ok d.category :=
  (Category.ofDocument_put (by decide) d _).trans (h.ofDocument_eq hd)

theorem ofDocument_found (hr : r ∈ docs) (hx : x ∈ (Expansion.lookup collection).found docs r) :
    Category.ofDocument x = .ok x.category := by
  obtain ⟨n, d, hd, _, rfl⟩ := (h.mem_found_iff collection hr).1 hx
  exact Document.ofDocument_category ⟨_, h.ofDocument_put_depth hd n⟩

theorem mem_below_iff (hr : r ∈ docs) :
    c ∈ Expansion.below collection docs r ↔
      ∃ n, ∃ d ∈ docs, FirstReached (Expansion.lookup collection) docs [.string r.category.id] n d ∧
        d.category = c := by
  rw [Expansion.below, List.mem_map]
  constructor
  · rintro ⟨x, hx, rfl⟩
    obtain ⟨n, d, hd, hfirst, rfl⟩ := (h.mem_found_iff collection hr).1 hx
    exact ⟨n, d, hd, hfirst, (Document.category_eq (h.ofDocument_put_depth hd n)).symm⟩
  · rintro ⟨n, d, hd, hfirst, rfl⟩
    refine ⟨_, (h.mem_found_iff collection hr).2 ⟨n, d, hd, hfirst, rfl⟩, ?_⟩
    exact Document.category_eq (h.ofDocument_put_depth hd n)

theorem mem_row_iff (hr : r ∈ docs) :
    c ∈ r.category :: Expansion.below collection docs r ↔
      c ∈ (Graph.ofDocuments docs).nodes ∧ (Graph.ofDocuments docs).IsBelow c r.category := by
  rw [List.mem_cons, h.mem_below_iff collection hr]
  constructor
  · rintro (rfl | ⟨n, d, hd, hfirst, rfl⟩)
    · exact ⟨h.category_mem_nodes hr, .refl⟩
    · obtain ⟨m, _, hdepth⟩ := h.exists_isAtDepth_of_reached collection hr hfirst.1
      exact ⟨h.category_mem_nodes hd, hdepth.isBelow⟩
  · rintro ⟨hc, hbelow⟩
    obtain ⟨d, hd, rfl⟩ := h.mem_nodes_iff.1 hc
    obtain ⟨m, hdepth⟩ := hbelow.exists_isAtDepth
    cases m with
    | zero => exact Or.inl hdepth.eq_of_zero
    | succ n =>
      by_cases hne : d.category = r.category
      · exact Or.inl hne
      · exact Or.inr ⟨n, d, hd, (h.firstReached_iff collection hr hd hne).2 hdepth, rfl⟩

theorem readRow_extend (hr : r ∈ docs) :
    Expansion.readRow ((Expansion.lookup collection).extend docs r) =
      .ok (r.category, Expansion.below collection docs r) :=
  Expansion.readRow_extend collection (h.ofDocument_eq hr) fun _ hx => h.ofDocument_found collection hr hx

theorem mapM_readRow {roots : List Document} (hroots : roots ⊆ docs) :
    (roots.map ((Expansion.lookup collection).extend docs)).mapM Expansion.readRow =
      .ok (roots.map fun r => (r.category, Expansion.below collection docs r)) := by
  rw [List.mapM_map]
  exact mapM_eq_ok roots fun r hr => h.readRow_extend collection (hroots hr)

theorem descendants_row (hr : r ∈ docs) :
    (Graph.ofList (r.category :: Expansion.below collection docs r)).descendants r.category.id =
      (Graph.ofDocuments docs).descendants r.category.id := by
  refine Graph.descendants_of_mem_iff_isBelow (h.category_mem_nodes hr) fun c => ?_
  rw [Graph.mem_nodes_ofList_iff fun c hc => ((h.mem_row_iff collection hr).1 hc).1, h.mem_row_iff collection hr]

theorem isWritten_of_mem_descendants (hr : r ∈ docs) {p : Placed}
    (hp : p ∈ (Graph.ofDocuments docs).descendants r.category.id)
    (hne : p.category ≠ r.category) :
    ∃ n < docs.length, p.depth = n + 1 ∧
      Expansion.IsWritten ((Expansion.lookup collection).extend docs r) p.category n := by
  obtain ⟨c, depth⟩ := p
  have hdepth : (Graph.ofDocuments docs).IsAtDepth r.category depth c :=
    Graph.isAtDepth_of_mem_descendants (h.category_mem_nodes hr) hp
  obtain ⟨d, hd, rfl⟩ := h.mem_nodes_iff.1 (Graph.mem_nodes_of_mem_descendants (h.category_mem_nodes hr) hp)
  obtain ⟨n, rfl⟩ : ∃ n, depth = n + 1 := by
    cases depth with
    | zero => exact absurd hdepth.eq_of_zero hne
    | succ n => exact ⟨n, rfl⟩
  have hfirst := (h.firstReached_iff collection hr hd hne).2 hdepth
  refine ⟨n, hfirst.lt_length h.keys_nodup, rfl, ?_⟩
  unfold Expansion.IsWritten
  rw [Expansion.foundIn_extend]
  refine ⟨⟨_, (h.mem_found_iff collection hr).2 ⟨n, d, hd, hfirst, rfl⟩, h.ofDocument_put_depth hd n⟩,
    fun x hx hread => ?_⟩
  obtain ⟨k, e, he, hfirst', rfl⟩ := (h.mem_found_iff collection hr).1 hx
  -- The same category is at one depth only, so it is reached first in one round only.
  have hcategory : e.category = d.category := by
    rw [h.ofDocument_put_depth he] at hread
    exact Except.ok.inj hread
  have hdepth' := (h.firstReached_iff collection hr he (hcategory ▸ hne)).1 hfirst'
  rw [hcategory] at hdepth'
  have heq := hdepth.unique hdepth'
  obtain rfl : k = n := by omega
  exact Fields.get?_put_self e _ _

end IsCategoryCollection

/-- The expansion of what matches a predicate is, for each match in order, its descendants in the graph of the
whole collection. Each but the match itself stands one level below the depth that the lookup has written. -/
theorem expand_eq_descendants {m : Type → Type} [Monad m] [LawfulMonad m] {db : Database} {settings : Settings}
    {predicate : Document} (h : IsCategoryCollection (db.collection settings.categoryCollection))
    (hmatch : ∀ d ∈ db.collection settings.categoryCollection, ∃ b, Store.isMatch d predicate = .ok b) :
    let docs := db.collection settings.categoryCollection
    let g := Graph.ofList (docs.map Document.category)
    let roots := Store.satisfying predicate docs
    (⟨Store.ofDatabase db, settings⟩ : StoredCategories m).expand predicate =
        pure (.ok (roots.flatMap fun r => g.descendants r.category.id)) ∧
      ∃ rows, db.aggregate settings.categoryCollection
          (Expansion.pipeline settings.categoryCollection predicate) = .ok rows ∧
        List.Forall₂ (fun r row => ∀ p ∈ g.descendants r.category.id, p.category.id ≠ r.category.id →
          ∃ n < docs.length, p.depth = n + 1 ∧ Expansion.IsWritten row p.category n) roots rows := by
  intro docs g roots
  have hroots : roots ⊆ docs := Store.satisfying_subset predicate docs
  constructor
  · rw [StoredCategories.expand, Expansion.traverse_eq hmatch, Expansion.expand, h.mapM_readRow _ hroots]
    congr 1
    change Except.ok (List.flatMap _ (roots.map _)) = _
    rw [List.flatMap_map]
    congr 1
    exact List.flatMap_congr fun r hr => h.descendants_row _ (hroots hr)
  · refine ⟨_, Expansion.aggregate_pipeline hmatch, ?_⟩
    rw [List.forall₂_map_right_iff, List.forall₂_same]
    intro r hr p hp hne
    exact h.isWritten_of_mem_descendants _ (hroots hr) hp fun he => hne (congrArg Category.id he)

def sampleStock : List Document :=
  [ [("_id", .string "c"), ("names", .document [("en", .string "Lemon")]), ("parent", .string "b")],
    [("_id", .string "y"), ("parent", .string "x")],
    [("_id", .string "b"), ("parent", .string "a"), ("priority", .int32 2)],
    [("_id", .string "d"), ("parent", .string "a"), ("priority", .int32 1)],
    [("_id", .string "a"), ("parent", .null)],
    [("_id", .string "x"), ("names", .document [("en", .string "Lemonade")]), ("parent", .string "y")],
    [("_id", .string "s"), ("names", .document [("en", .string "Lemonade")]), ("parent", .string "s")],
    [("_id", .string "t")],
    [("_id", .string "o"), ("parent", .string "unknown")] ]

theorem category_sampleStock : sampleStock.map Document.category =
    [ { id := "c", names := [("en", "Lemon")], parent := some "b" },
      { id := "y", parent := some "x" },
      { id := "b", parent := some "a", priority := 2 },
      { id := "d", parent := some "a", priority := 1 },
      { id := "a" },
      { id := "x", names := [("en", "Lemonade")], parent := some "y" },
      { id := "s", names := [("en", "Lemonade")], parent := some "s" },
      { id := "t" },
      { id := "o", parent := some "unknown" } ] := by
  decide +kernel

theorem isCategoryCollection_sampleStock : IsCategoryCollection sampleStock := by
  constructor
  case readable =>
    simp only [sampleStock, List.forall_mem_cons]
    exact ⟨⟨_, rfl⟩, ⟨_, rfl⟩, ⟨_, rfl⟩, ⟨_, rfl⟩, ⟨_, rfl⟩, ⟨_, rfl⟩, ⟨_, rfl⟩, ⟨_, rfl⟩, ⟨_, rfl⟩,
      nofun⟩
  case id_text =>
    simp only [sampleStock, List.forall_mem_cons]
    exact ⟨⟨_, rfl⟩, ⟨_, rfl⟩, ⟨_, rfl⟩, ⟨_, rfl⟩, ⟨_, rfl⟩, ⟨_, rfl⟩, ⟨_, rfl⟩, ⟨_, rfl⟩, ⟨_, rfl⟩,
      nofun⟩
  case ids_nodup => simp [sampleStock, Fields.get?]
  case parent_text => simp [sampleStock, Category.optionalField, Fields.get?]

def samplePredicate : Document :=
  [("_id", .document [("$in", .array [.string "x", .string "b", .string "s", .string "a"])])]

theorem expand_sampleStock : IsCategoryCollection sampleStock ∧
    (∀ d ∈ sampleStock, ∃ b, Store.isMatch d samplePredicate = .ok b) ∧
    (⟨Store.ofDatabase [("categories", sampleStock)], {}⟩ : StoredCategories Id).expand samplePredicate =
      pure (.ok
        [ ⟨{ id := "b", parent := some "a", priority := 2 }, 0⟩,
          ⟨{ id := "c", names := [("en", "Lemon")], parent := some "b" }, 1⟩,
          ⟨{ id := "a" }, 0⟩,
          ⟨{ id := "d", parent := some "a", priority := 1 }, 1⟩,
          ⟨{ id := "b", parent := some "a", priority := 2 }, 1⟩,
          ⟨{ id := "c", names := [("en", "Lemon")], parent := some "b" }, 2⟩,
          ⟨{ id := "x", names := [("en", "Lemonade")], parent := some "y" }, 0⟩,
          ⟨{ id := "y", parent := some "x" }, 1⟩,
          ⟨{ id := "s", names := [("en", "Lemonade")], parent := some "s" }, 0⟩ ]) := by
  have hmatch : ∀ d ∈ sampleStock, ∃ b, Store.isMatch d samplePredicate = .ok b := by
    simp only [sampleStock, List.forall_mem_cons]
    exact ⟨⟨_, rfl⟩, ⟨_, rfl⟩, ⟨_, rfl⟩, ⟨_, rfl⟩, ⟨_, rfl⟩, ⟨_, rfl⟩, ⟨_, rfl⟩, ⟨_, rfl⟩, ⟨_, rfl⟩,
      nofun⟩
  have hstock : IsCategoryCollection (Database.collection [("categories", sampleStock)]
      ({} : Settings).categoryCollection) := isCategoryCollection_sampleStock
  have hids : (Store.satisfying samplePredicate sampleStock).map (fun d => d.category.id) = ["b", "a", "x", "s"] := by
    decide +kernel
  obtain ⟨hexpand, _⟩ := expand_eq_descendants (m := Id) hstock hmatch
  have hplaced := List.flatMap_map (fun d : Document => d.category.id)
    (Graph.ofList (sampleStock.map Document.category)).descendants (Store.satisfying samplePredicate sampleStock)
  refine ⟨isCategoryCollection_sampleStock, hmatch, hexpand.trans ?_⟩
  refine congrArg (fun placed => pure (Except.ok placed)) (hplaced.symm.trans ?_)
  rw [hids, category_sampleStock]
  cbv

end Catalogue
