import Catalogue.Page.Basic
import Catalogue.Page.Pipeline
import Catalogue.Proofs.Sorting
import Catalogue.Proofs.Steps
import Catalogue.Proofs.Store.Order
import Catalogue.Store.Database
import Mathlib.Algebra.Ring.Nat

set_option autoImplicit false

namespace Catalogue

namespace Store

def satisfying (predicate : Document) (docs : List Document) : List Document :=
  docs.filter fun d => (isMatch d predicate).toOption == some true

theorem satisfying_subset (predicate : Document) (docs : List Document) : satisfying predicate docs ⊆ docs :=
  fun _ hd => List.mem_of_mem_filter hd

theorem filterAuxM_eq_ok {α ε : Type} {f : α → Except ε Bool} (docs acc : List α)
    (h : ∀ d ∈ docs, ∃ b, f d = .ok b) : List.filterAuxM f docs acc =
      .ok ((docs.filter fun d => (f d).toOption == some true).reverse ++ acc) := by
  induction docs generalizing acc with
  | nil => rfl
  | cons d docs ih =>
    obtain ⟨b, hb⟩ := h d List.mem_cons_self
    have htail := ih (cond b (d :: acc) acc) fun e he => h e (List.mem_cons_of_mem _ he)
    rw [List.filterAuxM, hb]
    refine htail.trans ?_
    cases b with
    | false => simp [hb, Except.toOption]
    | true => simp [hb, Except.toOption]

theorem filterM_eq_ok {α ε : Type} {f : α → Except ε Bool} (docs : List α)
    (h : ∀ d ∈ docs, ∃ b, f d = .ok b) :
    docs.filterM f = .ok (docs.filter fun d => (f d).toOption == some true) := by
  rw [List.filterM, filterAuxM_eq_ok docs [] h]
  simp [bind, Except.bind, pure, Except.pure]

end Store

namespace Fields

theorem ofList_ne_nil {α : Type} {entries : List (String × α)} (h : entries ≠ []) : ofList entries ≠ [] := by
  have hput : ∀ (l : List (String × α)) (d : Fields α), d ≠ [] →
      l.foldl (fun d e => put d e.1 e.2) d ≠ [] := by
    intro l
    induction l with
    | nil => exact fun _ hd => hd
    | cons e l ih =>
      intro d _
      refine ih _ ?_
      cases d with
      | nil => exact List.cons_ne_nil _ _
      | cons entry rest =>
        obtain ⟨k, v⟩ := entry
        by_cases hk : k = e.1 <;> simp [put, hk]
  cases entries with
  | nil => exact absurd rfl h
  | cons e entries => exact hput entries [e] (List.cons_ne_nil _ _)

end Fields

namespace Document

def projected : Option Document → Document → Document
  | none | some [] => id
  | some spec => project spec

end Document

namespace Window

def cut {α : Type} : Window → List α → List α
  | all, xs => xs
  | page current size h, xs => (xs.drop (page current size h).skip).take size.toNat

end Window

namespace Database

variable {db : Database} {docs : List Document}

theorem stablySorted_sortBy (keys : Document) (docs : List Document) :
    StablySorted (Document.compareBy keys) docs (sortBy keys docs) := stablySorted_mergeSort docs

theorem sortBy_nil (docs : List Document) : sortBy [] docs = docs :=
  List.mergeSort_of_pairwise (List.pairwise_of_forall fun _ _ => rfl)

theorem runStages_append (xs ys : List Value) :
    runStages db docs (xs ++ ys) = (runStages db docs xs).bind fun out => runStages db out ys := by
  induction xs generalizing docs with
  | nil => rfl
  | cons x xs ih =>
    cases x with
    | document fields =>
      cases fields with
      | nil => rfl
      | cons stage rest =>
        obtain ⟨op, arg⟩ := stage
        simp only [List.cons_append, runStages, bind, Except.bind]
        cases runStage db docs op arg with
        | error e => rfl
        | ok out => exact ih
    | _ => rfl

theorem runStages_match {predicate : Document}
    (h : ∀ d ∈ docs, ∃ b, Store.isMatch d predicate = .ok b) :
    runStages db docs [.document [("$match", .document predicate)]] =
      .ok (Store.satisfying predicate docs) := by
  have hfilter := Store.filterM_eq_ok docs h
  simp [runStages, runStage, runPlain, argument, bind, Except.bind, hfilter, Store.satisfying]

theorem runStages_match_eq_filter {predicate : Document} {p : Document → Bool}
    (h : ∀ d ∈ docs, Answers (Store.isMatch d predicate) (p d = true)) :
    db.runStages docs [.document [("$match", .document predicate)]] = .ok (docs.filter p) := by
  rw [runStages_match fun d hd => (h d hd).imp fun _ hb => hb.1, Store.satisfying]
  refine congrArg Except.ok (List.filter_congr fun d hd => ?_)
  obtain ⟨b, hb, hiff⟩ := h d hd
  rw [hb, Bool.eq_iff_iff, ← hiff]
  cases b <;> simp [Except.toOption]

theorem runStage_lookup {spec : Document} {lookup : Store.LookupSpec}
    (h : Store.LookupSpec.ofDocument spec = .ok lookup) :
    db.runStage docs "$graphLookup" (.document spec) =
      .ok (docs.map (lookup.extend (db.collection lookup.source))) := by
  change docs.mapM (fun d => do
      let lookup ← Store.LookupSpec.ofDocument spec
      pure (lookup.extend (db.collection lookup.source) d)) = _
  exact mapM_eq_ok docs fun d _ => by rw [h]; rfl

theorem runStages_lookup {spec : Document} {lookup : Store.LookupSpec}
    (h : Store.LookupSpec.ofDocument spec = .ok lookup) :
    runStages db docs [.document [("$graphLookup", .document spec)]] =
      .ok (docs.map (lookup.extend (db.collection lookup.source))) := by
  rw [runStages, runStage_lookup h]
  rfl

theorem satisfying_nil (docs : List Document) : Store.satisfying [] docs = docs :=
  List.filter_eq_self.2 fun _ _ => rfl

theorem runStages_sortBy {keys : Document} (h : keys ≠ []) :
    db.runStages docs [.document [("$sort", .document keys)]] = .ok (sortBy keys docs) := by
  have hkeys : keys.isEmpty = false := List.isEmpty_eq_false_iff.2 h
  simp [runStages, runStage, runPlain, argument, bind, Except.bind, pure, Except.pure, hkeys]

theorem runStages_sort (s : SortSpec) :
    runStages db docs ((Listing.sortStages s).map .document) = .ok (sortBy s.toDocument docs) := by
  cases s with
  | nil =>
    change Except.ok docs = .ok (sortBy [] docs)
    rw [sortBy_nil]
  | cons e rest => exact runStages_sortBy (Fields.ofList_ne_nil (List.cons_ne_nil _ _))

theorem runStages_project (projection : Option Document) :
    runStages db docs ((Listing.projectStages projection).map .document) =
      .ok (docs.map (Document.projected projection)) := by
  match projection with
  | none => simp [Listing.projectStages, runStages, Document.projected]
  | some [] => simp [Listing.projectStages, runStages, Document.projected]
  | some (e :: rest) =>
    simp [Listing.projectStages, runStages, runStage, runPlain, argument, bind, Except.bind, pure,
      Except.pure, Document.projected]

theorem count_int64 (op : String) {n : Nat} (h : n < 2 ^ 63) : count op (.int64 (Int64.ofNat n)) = .ok n := by
  have hn : (Int64.ofNat n).toInt = n := Int64.toInt_ofNat_of_lt h
  simp [count, Value.toInt?, hn]

/-- An offset past the greatest 64-bit integer is past the end of any listing that can be counted. -/
theorem runStages_window (w : Window) (h : docs.length < 2 ^ 31) :
    runStages db docs ((Listing.windowStages w).map .document) = .ok (w.cut docs) := by
  cases w with
  | all =>
    have hmatch : ∀ d ∈ docs, ∃ b, Store.isMatch d [] = .ok b := fun _ _ => ⟨true, rfl⟩
    refine (runStages_match hmatch).trans ?_
    rw [satisfying_nil]
    rfl
  | page current size hsize =>
    have hskip : min (Window.page current size hsize).skip 9223372036854775807 < 2 ^ 63 := by omega
    have hlimit : size.toNat < 2 ^ 63 := Nat.lt_trans size.toNat_lt (by decide)
    have hdrop : docs.drop (min (Window.page current size hsize).skip 9223372036854775807) =
        docs.drop (Window.page current size hsize).skip := by
      by_cases hle : (Window.page current size hsize).skip ≤ 9223372036854775807
      · rw [Nat.min_eq_left hle]
      · rw [Nat.min_eq_right (by omega), List.drop_eq_nil_of_le (by omega), List.drop_eq_nil_of_le (by omega)]
    simp [Listing.windowStages, runStages, runStage, runPlain, bind, Except.bind, pure, Except.pure,
      count_int64 _ hskip, count_int64 _ hlimit, hdrop, Window.cut]

def counted (n : Nat) : List Document := if n = 0 then [] else [[("count", .int32 (Int32.ofNat n))]]

theorem runStages_count : runStages db docs (Listing.countStages.map .document) = .ok (counted docs.length) := by
  cases docs with
  | nil => rfl
  | cons d docs => simp [Listing.countStages, runStages, runStage, runPlain, counted, bind, Except.bind]

theorem runStages_facet (w : Window) (h : docs.length < 2 ^ 31) :
    runStages db docs [.document (Listing.facetStage w)] =
      .ok [[("items", .array ((w.cut docs).map .document)),
        ("totalCount", .array ((counted docs.length).map .document))]] := by
  have hdocuments : ∀ p : Pipeline, (p.map Value.document).all isDocument = true := by
    intro p
    rw [List.all_map]
    exact List.all_eq_true.2 fun _ _ => rfl
  simp [Listing.facetStage, runStages, runStage, runFacets, hdocuments, runStages_window w h,
    runStages_count, bind, Except.bind, pure, Except.pure, Except.map]

end Database

namespace Listing

def items (l : Listing) (docs : List Document) : List Document :=
  (Database.sortBy l.sort.toDocument (Store.satisfying l.predicate docs)).map
    (Document.projected l.projection)

theorem length_items (l : Listing) (docs : List Document) :
    (l.items docs).length = (Store.satisfying l.predicate docs).length := by
  rw [items, List.length_map]
  exact (List.mergeSort_perm _ _).length_eq

theorem aggregate_pipeline {l : Listing} {db : Database} {name : String}
    (h : ∀ d ∈ db.collection name, ∃ b, Store.isMatch d l.predicate = .ok b)
    (hcount : (Store.satisfying l.predicate (db.collection name)).length < 2 ^ 31) :
    db.aggregate name l.pipeline =
      .ok [[("items", .array ((l.window.cut (l.items (db.collection name))).map .document)),
        ("totalCount", .array ((Database.counted (l.items (db.collection name)).length).map .document))]] := by
  have hlength : (l.items (db.collection name)).length < 2 ^ 31 := by
    rwa [length_items]
  rw [Database.aggregate, pipeline]
  simp only [List.map_append, List.map_cons, List.map_nil, Database.runStages_append,
    Database.runStages_match h, Database.runStages_sort, Database.runStages_project, Except.bind]
  exact Database.runStages_facet l.window hlength

end Listing

end Catalogue
