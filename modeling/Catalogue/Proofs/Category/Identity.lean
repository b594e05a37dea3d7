import Catalogue.Proofs.Binary64.Integers
import Catalogue.Proofs.Category.Conservation
import Catalogue.Proofs.Category.Hierarchy

set_option autoImplicit false

namespace Catalogue

/-! ### Texts of object ids -/

namespace ObjectId

theorem eq_of_hexChar_eq {m n : Nat} (h : hexChar m = hexChar n) : m % 16 = n % 16 := by
  have hdigits : ∀ i < 16, ∀ j < 16, Nat.digitChar i = Nat.digitChar j → i = j := by decide
  exact hdigits _ (Nat.mod_lt _ (by decide)) _ (Nat.mod_lt _ (by decide)) h

theorem mod_eq_of_digits {a b : Nat} (n : Nat) (h : ∀ i < n, a / 16 ^ i % 16 = b / 16 ^ i % 16) :
    a % 16 ^ n = b % 16 ^ n := by
  induction n with
  | zero => rw [Nat.pow_zero, Nat.mod_one, Nat.mod_one]
  | succ n ih =>
    rw [Nat.mod_pow_succ, Nat.mod_pow_succ, ih fun i hi => h i (Nat.lt_succ_of_lt hi), h n (Nat.lt_succ_self n)]

theorem text_injective {a b : ObjectId} (h : a.text = b.text) : a = b := by
  have hchars := List.map_inj_left.1 (String.ofList_inj.1 h)
  have hmod : a.number % 16 ^ 24 = b.number % 16 ^ 24 := by
    refine mod_eq_of_digits 24 fun i hi => ?_
    have hchar := hchars (23 - i) (List.mem_range.2 (by omega))
    rw [Nat.sub_sub_self (by omega : i ≤ 23)] at hchar
    exact eq_of_hexChar_eq hchar
  have hsize : ∀ id : ObjectId, id.number < 16 ^ 24 := fun id => id.number_lt
  have hnumber : a.number = b.number := by
    rwa [Nat.mod_eq_of_lt (hsize a), Nat.mod_eq_of_lt (hsize b)] at hmod
  cases a
  cases b
  congr

theorem length_text (id : ObjectId) : id.text.length = 24 := by
  simp [text]

end ObjectId

/-! ### Texts of ids -/

namespace Category

variable {v w : Value} {s : String}

theorem toList_toString (n : Int) : (toString n).toList =
    if 0 ≤ n then Nat.toDigits 10 n.toNat else '-' :: Nat.toDigits 10 (-n).toNat := by
  rw [Int.toString_eq_repr, Int.repr_eq_if]
  split
  · rw [Nat.repr_eq_ofList_toDigits, String.toList_ofList]
  · rw [String.toList_append, Nat.repr_eq_ofList_toDigits, String.toList_ofList, String.toList_ofList,
      List.singleton_append]

theorem eq_of_toString_eq {m n : Int} (h : toString m = toString n) : m = n := by
  have hdigits : ∀ {a b : Nat}, Nat.toDigits 10 a = Nat.toDigits 10 b → a = b := by
    intro a b hab
    calc a
      _ = Nat.ofDigitChars 10 (Nat.toDigits 10 a) 0 := Nat.ofDigitChars_ten_toDigits.symm
      _ = Nat.ofDigitChars 10 (Nat.toDigits 10 b) 0 := by rw [hab]
      _ = b := Nat.ofDigitChars_ten_toDigits
  have hsign : ∀ (a : Nat) ds, Nat.toDigits 10 a ≠ '-' :: ds := by
    intro a ds ha
    have hminus : '-' ∈ Nat.toDigits 10 a := ha ▸ List.mem_cons_self
    exact absurd (Nat.isDigit_of_mem_toDigits (by decide) (by decide) hminus) (by decide)
  have hlist := congrArg String.toList h
  rw [toList_toString, toList_toString] at hlist
  split at hlist <;> split at hlist
  · have hnat := hdigits hlist
    omega
  · exact absurd hlist (hsign _ _)
  · exact absurd hlist.symm (hsign _ _)
  · have hnat := hdigits (List.cons.inj hlist).2
    omega

theorem length_toString_le (n : Int64) : (toString n.toInt).length ≤ 20 := by
  have hlow := n.le_toInt
  have hhigh := n.toInt_lt
  have hdigits : ∀ a < 10 ^ 19, (Nat.toDigits 10 a).length ≤ 19 :=
    fun a => (Nat.length_toDigits_le_iff (by decide) (by decide)).2
  rw [← String.length_toList, toList_toString]
  split
  · exact (hdigits _ (by omega)).trans (by decide)
  · exact Nat.succ_le_succ (hdigits _ (by omega))

theorem idText?_cases (h : idText? v = some s) :
    v = .string s ∨ (∃ id : ObjectId, v = .objectId id ∧ id.text = s) ∨
      ∃ n : Int64, v.number? = some (Binary64.ofInt n.toInt) ∧ toString n.toInt = s := by
  cases v with
  | string t => exact Or.inl (congrArg Value.string (Option.some.inj h))
  | objectId id => exact Or.inr (Or.inl ⟨id, rfl, Option.some.inj h⟩)
  | int32 n =>
    refine Or.inr (Or.inr ⟨n.toInt64, ?_, ?_⟩)
    · rw [Int32.toInt_toInt64, Value.number?]
    · rw [Int32.toInt_toInt64]
      exact Option.some.inj h
  | int64 n => exact Or.inr (Or.inr ⟨n, rfl, Option.some.inj h⟩)
  | _ => cases h

/-- Ids with one text are equal in the store, unless only one of them is a string. -/
theorem equal_of_idText?_eq (hv : idText? v = some s) (hw : idText? w = some s)
    (hkind : v = .string s ↔ w = .string s) : v.equal w = true := by
  by_cases hstring : v = .string s
  · rw [hstring, Value.string_equal_iff, ← hkind, hstring]
  · rcases (idText?_cases hv).resolve_left hstring with ⟨a, rfl, ha⟩ | ⟨m, hm, ha⟩ <;>
      rcases (idText?_cases hw).resolve_left (hkind.not.1 hstring) with ⟨b, rfl, hb⟩ | ⟨n, hn, hb⟩
    · obtain rfl := ObjectId.text_injective (ha.trans hb.symm)
      simp [Value.equal, Value.number?, Value.same]
    -- The text of an object id is longer than that of any integer.
    · have hlength := length_toString_le n
      rw [hb, ← ha, a.length_text] at hlength
      omega
    · have hlength := length_toString_le m
      rw [ha, ← hb, b.length_text] at hlength
      omega
    · rw [Value.equal, hm, hn, eq_of_toString_eq (ha.trans hb.symm)]
      exact Binary64.numericEq_self (Binary64.isNaN_ofInt _)

theorem not_equal_null_of_idText? (h : idText? v = some s) : v.equal .null = false := by
  cases v <;> first | rfl | cases h

theorem length_firstOccurrences_eq_iff {cs : List Category} :
    (firstOccurrences cs).length = cs.length ↔ (cs.map (·.id)).Nodup := by
  rw [length_firstOccurrences, ← List.length_map (·.id)]
  exact Multiset.toFinset_card_eq_card_iff_nodup

end Category

/-! ### Graphs without links -/

theorem Tree.flatten_of_childless {ts : List Tree} (h : HasChildren (fun _ => []) ts) :
    flatten ts = ts.map category := by
  induction ts using forest_induction with
  | nil => rfl
  | cons c below ts _ ihrest =>
    obtain ⟨hbelow, _, hrest⟩ := hasChildren_cons_iff.1 h
    obtain rfl := List.map_eq_nil_iff.1 hbelow
    change c :: flatten ts = c :: ts.map category
    rw [ihrest hrest]

theorem Graph.flat_of_parentless {g : Graph} (h : ∀ c ∈ g.nodes, c.parent = none) :
    g.flat = Category.sortSiblings g.nodes := by
  have hchildren : g.children = fun _ => [] := by
    funext c
    have hnone : (g.nodes.filter fun d => d.parent == some c.id && d.id != c.id) = [] :=
      List.filter_eq_nil_iff.2 fun d hd => by simp [h d hd]
    rw [children, hnone, Category.sortSiblings, List.mergeSort_nil]
  have hroots : g.roots = Category.sortSiblings g.nodes := by
    have hall : (g.nodes.filter fun c => (g.parent? c).isNone) = g.nodes :=
      List.filter_eq_self.2 fun c hc => by rw [parent?, h c hc]; rfl
    rw [roots, hall]
  rw [flat_eq, Tree.flatten_of_childless (hchildren ▸ g.hasChildren_rooted), category_rooted, hroots]

theorem Graph.descendants_singleton (c : Category) : (ofList [c]).descendants c.id = [⟨c, 0⟩] := by
  have hchildren : (ofList [c]).children c = [] := by
    simp [children, ofList, Category.firstOccurrences, Category.sortSiblings]
  have hfind : (ofList [c]).find? c.id = some c := by
    simp [find?, ofList, Category.firstOccurrences]
  rw [descendants, hfind]
  change (ofList [c]).walk (fun _ => true) 1 0 [] c = _
  rw [walk_of_new 0 0 rfl (by simp), hchildren]
  rfl

/-! ### Collections without links -/

/-- Every document is a category without a parent, and no two ids are equal in the store. -/
structure IsParentlessCollection (docs : List Document) : Prop where
  readable : ∀ d ∈ docs, ∃ c, Category.ofDocument d = .ok c
  id_isSome : ∀ d ∈ docs, (Fields.get? d "_id").isSome
  ids_unequal : docs.Pairwise fun d e =>
    ∀ v ∈ Fields.get? d "_id", ∀ w ∈ Fields.get? e "_id", v.equal w = false
  parentless : ∀ d ∈ docs, Category.optionalField d "parent" = none

/-- The id of one document is a string, and the id of another one is not this string but is written the same. -/
def HasTwins (docs : List Document) : Prop :=
  ∃ d ∈ docs, ∃ e ∈ docs, ∃ s v, Fields.get? d "_id" = some (.string s) ∧ Fields.get? e "_id" = some v ∧
    v ≠ .string s ∧ Category.idText? v = some s

namespace IsParentlessCollection

variable {docs : List Document} (h : IsParentlessCollection docs) {d e : Document}

include h

theorem ofDocument_eq (hd : d ∈ docs) : Category.ofDocument d = .ok d.category :=
  Document.ofDocument_category (h.readable d hd)

theorem exists_id (hd : d ∈ docs) :
    ∃ v, Fields.get? d "_id" = some v ∧ Category.idText? v = some d.category.id := by
  obtain ⟨v, hv⟩ := Option.isSome_iff_exists.1 (h.id_isSome d hd)
  have htext := (Category.fields_of_ofDocument (h.ofDocument_eq hd)).1
  rw [hv] at htext
  exact ⟨v, hv, htext⟩

theorem id_eq (hd : d ∈ docs) {v : Value} {s : String} (hv : Fields.get? d "_id" = some v)
    (hs : Category.idText? v = some s) : d.category.id = s := by
  obtain ⟨w, hw, htext⟩ := h.exists_id hd
  obtain rfl := Option.some.inj (hv.symm.trans hw)
  exact Option.some.inj (htext.symm.trans hs)

theorem parent_eq_none (hd : d ∈ docs) : d.category.parent = none := by
  have hparent := (Category.fields_of_ofDocument (h.ofDocument_eq hd)).2
  rw [h.parentless d hd] at hparent
  exact hparent.symm

theorem not_isLinked (collection : String) (hd : d ∈ docs) (he : e ∈ docs) :
    (Expansion.lookup collection).isLinked (Document.lookup d "_id").toList e = false := by
  obtain ⟨v, hv, htext⟩ := h.exists_id hd
  have hnull : ∀ w, Fields.get? e "parent" = some w → w = .null := by
    intro w hw
    by_contra hne
    have hsome := Category.optionalField_eq_some_iff.2 ⟨hw, hne⟩
    rw [h.parentless e he] at hsome
    cases hsome
  rw [Expansion.lookup_id, hv]
  change ((Document.lookup e "parent").any fun w => [v].any (·.equal w)) = false
  rw [Expansion.lookup_parent]
  cases hparent : Fields.get? e "parent" with
  | none => rfl
  | some w =>
    rw [hnull w hparent]
    simp [Category.not_equal_null_of_idText? htext]

theorem mapM_readRow (collection : String) :
    (docs.map ((Expansion.lookup collection).extend docs)).mapM Expansion.readRow =
      .ok (docs.map fun d => (d.category, [])) := by
  rw [List.mapM_map]
  refine mapM_eq_ok docs fun d hd => ?_
  have hfound : (Expansion.lookup collection).found docs d = [] :=
    Store.LookupSpec.found_eq_nil fun e he => h.not_isLinked collection hd he
  have hread : ∀ x ∈ (Expansion.lookup collection).found docs d, Category.ofDocument x = .ok x.category := by
    rw [hfound]
    exact fun _ hx => absurd hx List.not_mem_nil
  have hrow := Expansion.readRow_extend collection (h.ofDocument_eq hd) hread
  rwa [Expansion.below, hfound] at hrow

theorem graph_extend (collection : String) :
    Expansion.graph (docs.map ((Expansion.lookup collection).extend docs)) = .ok (Graph.ofDocuments docs) := by
  rw [Expansion.graph, h.mapM_readRow]
  change Except.ok (Graph.ofList (List.flatMap _ (docs.map _))) = _
  rw [List.flatMap_map, Graph.ofDocuments, List.map_eq_flatMap]

theorem expand_extend (collection : String) :
    Expansion.expand (docs.map ((Expansion.lookup collection).extend docs)) =
      .ok (docs.map fun d => ⟨d.category, 0⟩) := by
  rw [Expansion.expand, h.mapM_readRow]
  change Except.ok (List.flatMap _ (docs.map _)) = _
  rw [List.flatMap_map, List.map_eq_flatMap]
  exact congrArg Except.ok (List.flatMap_congr fun d _ => Graph.descendants_singleton d.category)

theorem satisfying_eq : Store.satisfying Expansion.rootsPredicate docs = docs := by
  refine List.filter_eq_self.2 fun d hd => ?_
  rw [Store.isMatch_parent_null, h.parentless d hd]
  rfl

theorem ids_category_nodup_iff : ((docs.map Document.category).map (·.id)).Nodup ↔ ¬HasTwins docs := by
  rw [List.map_map]
  constructor
  · rintro hnodup ⟨d, hd, e, he, s, v, hs, hv, hne, htext⟩
    have hid : d.category.id = e.category.id := by
      rw [h.id_eq hd hs rfl, h.id_eq he hv htext]
    obtain rfl := List.inj_on_of_nodup_map hnodup hd he hid
    exact hne (Option.some.inj (hv.symm.trans hs))
  · intro htwins
    refine List.pairwise_map.2 (h.ids_unequal.imp_of_mem fun {d e} hd he hunequal hid => ?_)
    obtain ⟨v, hv, hvtext⟩ := h.exists_id hd
    obtain ⟨w, hw, hwtext⟩ := h.exists_id he
    change d.category.id = e.category.id at hid
    rw [← hid] at hwtext
    have hkind : v = .string d.category.id ↔ w = .string d.category.id := by
      constructor
      · intro hs
        by_contra hne
        exact htwins ⟨d, hd, e, he, _, w, hs ▸ hv, hw, hne, hwtext⟩
      · intro hs
        by_contra hne
        exact htwins ⟨e, he, d, hd, _, v, hs ▸ hw, hv, hne, hvtext⟩
    have hequal := Category.equal_of_idText?_eq hvtext hwtext hkind
    rw [hunequal v hv w hw] at hequal
    cases hequal

end IsParentlessCollection

theorem expand_of_parentless {m : Type → Type} [Monad m] [LawfulMonad m] {db : Database} {settings : Settings}
    (h : IsParentlessCollection (db.collection settings.categoryCollection)) :
    (⟨Store.ofDatabase db, settings⟩ : StoredCategories m).expand Expansion.rootsPredicate =
      pure (.ok ((db.collection settings.categoryCollection).map fun d => ⟨d.category, 0⟩)) := by
  rw [StoredCategories.expand, Expansion.traverse_eq fun d _ => ⟨_, Store.isMatch_parent_null d⟩, h.satisfying_eq,
    h.expand_extend]

/-- The graph of a collection of parentless categories lists the first document of each text, in sibling order. It
lists all documents just where none is the twin of another. -/
theorem graph_of_parentless {m : Type → Type} [Monad m] [LawfulMonad m] {db : Database} {settings : Settings}
    (h : IsParentlessCollection (db.collection settings.categoryCollection)) :
    let docs := db.collection settings.categoryCollection
    ∃ g, (⟨Store.ofDatabase db, settings⟩ : StoredCategories m).graph = pure (.ok g) ∧
      g.flat = Category.sortSiblings (Category.firstOccurrences (docs.map Document.category)) ∧
      (g.flat.length = docs.length ↔ ¬HasTwins docs) := by
  intro docs
  have hmatch : ∀ d ∈ docs, ∃ b, Store.isMatch d Expansion.rootsPredicate = .ok b :=
    fun d _ => ⟨_, Store.isMatch_parent_null d⟩
  have hparent : ∀ c ∈ (Graph.ofDocuments docs).nodes, c.parent = none := by
    intro c hc
    obtain ⟨d, hd, rfl⟩ := List.mem_map.1 (Category.mem_of_mem_firstOccurrences hc)
    exact h.parent_eq_none hd
  have hflat : (Graph.ofDocuments docs).flat = Category.sortSiblings
      (Category.firstOccurrences (docs.map Document.category)) := Graph.flat_of_parentless hparent
  refine ⟨Graph.ofDocuments docs, ?_, hflat, ?_⟩
  · rw [StoredCategories.graph, Expansion.traverse_eq hmatch, h.satisfying_eq, h.graph_extend]
  · rw [hflat, (Category.sortSiblings_perm _).length_eq, ← h.ids_category_nodup_iff,
      ← Category.length_firstOccurrences_eq_iff, List.length_map]

def sampleKinds : List Document :=
  [ [("_id", .string "b"), ("priority", .int32 1)], [("_id", .objectId ⟨11, by decide⟩)],
    [("_id", .int32 11), ("parent", .null)], [("_id", .int64 (-11))] ]

theorem isParentlessCollection_sampleKinds : IsParentlessCollection sampleKinds := by
  constructor
  case readable =>
    simp only [sampleKinds, List.forall_mem_cons]
    exact ⟨⟨_, rfl⟩, ⟨_, rfl⟩, ⟨_, rfl⟩, ⟨_, rfl⟩, nofun⟩
  case id_isSome => simp [sampleKinds, Fields.get?]
  case ids_unequal => decide +kernel
  case parentless => simp [sampleKinds, Category.optionalField, Fields.get?]

theorem not_hasTwins_sampleKinds : ¬HasTwins sampleKinds :=
  isParentlessCollection_sampleKinds.ids_category_nodup_iff.1 (by decide)

theorem graph_of_parentless_sampleKinds : IsParentlessCollection sampleKinds ∧ ¬HasTwins sampleKinds ∧
    ∃ g, (⟨Store.ofDatabase [("categories", sampleKinds)], {}⟩ : StoredCategories Id).graph = pure (.ok g) ∧
      g.flat.length = sampleKinds.length := by
  have hkinds : IsParentlessCollection (Database.collection [("categories", sampleKinds)]
      ({} : Settings).categoryCollection) := isParentlessCollection_sampleKinds
  obtain ⟨g, hg, _, hlength⟩ := graph_of_parentless (m := Id) hkinds
  exact ⟨isParentlessCollection_sampleKinds, not_hasTwins_sampleKinds, g, hg, hlength.2 not_hasTwins_sampleKinds⟩

def sampleTwins : List Document :=
  [ [("_id", .string "1"), ("names", .document [("en", .string "Fruit")])],
    [("_id", .int32 1), ("names", .document [("en", .string "Tools")])] ]

theorem isParentlessCollection_sampleTwins : IsParentlessCollection sampleTwins := by
  constructor
  case readable =>
    simp only [sampleTwins, List.forall_mem_cons]
    exact ⟨⟨_, rfl⟩, ⟨_, rfl⟩, nofun⟩
  case id_isSome => simp [sampleTwins, Fields.get?]
  case ids_unequal => decide +kernel
  case parentless => simp [sampleTwins, Category.optionalField, Fields.get?]

theorem flat_swallows_sampleTwins : IsParentlessCollection sampleTwins ∧
    (∃ g, (⟨Store.ofDatabase [("categories", sampleTwins)], {}⟩ : StoredCategories Id).graph = pure (.ok g) ∧
      g.flat = [{ id := "1", names := [("en", "Fruit")] }] ∧ g.flat.length ≠ sampleTwins.length) ∧
    (⟨Store.ofDatabase [("categories", sampleTwins)], {}⟩ : StoredCategories Id).expand Expansion.rootsPredicate =
      pure (.ok [⟨{ id := "1", names := [("en", "Fruit")] }, 0⟩, ⟨{ id := "1", names := [("en", "Tools")] }, 0⟩]) := by
  have htwins : IsParentlessCollection (Database.collection [("categories", sampleTwins)]
      ({} : Settings).categoryCollection) := isParentlessCollection_sampleTwins
  refine ⟨isParentlessCollection_sampleTwins, ⟨_, rfl, ?_, ?_⟩, expand_of_parentless htwins⟩
  · decide +kernel
  · decide +kernel

end Catalogue
