import Catalogue.Category.Expansion
import Catalogue.Proofs.Category.Descendants
import Catalogue.Proofs.Steps
import Catalogue.Proofs.Store.Lookup

/-!
Collections of categories. From a category the lookup of descendants follows its id to the documents that name it
as their parent. Between two categories that is a link of the graph, except from a category to itself, so apart
from the start itself a category is first reached in the round before its depth.
-/

set_option autoImplicit false

namespace Catalogue

theorem Value.string_equal_iff {s : String} {v : Value} : (Value.string s).equal v = true ↔ v = .string s := by
  cases v with
  | string t =>
    simp only [equal, number?, same, beq_iff_eq, string.injEq]
    exact eq_comm
  | _ => simp [equal, number?, same]

/-! ### Documents as categories -/

namespace Category

variable {d : Document} {c : Category}

theorem ofDocument_put {name : String} (h : name ∉ ["_id", "id", "names", "parent", "priority"]) (d : Document)
    (v : Value) : ofDocument (Fields.put d name v) = ofDocument d := by
  simp only [List.mem_cons, List.not_mem_nil, or_false, not_or] at h
  obtain ⟨hid, hid', hnames, hparent, hpriority⟩ := h
  simp only [ofDocument, optionalField, Fields.get?_put_of_ne d v hid, Fields.get?_put_of_ne d v hid',
    Fields.get?_put_of_ne d v hnames, Fields.get?_put_of_ne d v hparent, Fields.get?_put_of_ne d v hpriority]

theorem optionalField_eq_some_iff {name : String} {v : Value} :
    optionalField d name = some v ↔ Fields.get? d name = some v ∧ v ≠ .null := by
  unfold optionalField
  split
  · next hnull =>
    rw [hnull]
    constructor
    · intro hv
      cases hv
    · rintro ⟨hv, hne⟩
      exact absurd (Option.some.inj hv).symm hne
  · next hnull =>
    constructor
    · rintro hv
      exact ⟨hv, fun he => hnull (he ▸ hv)⟩
    · exact And.left

/-! The fields of a stored category are read one by one. -/

def readId (d : Document) : Except Failure String :=
  match Fields.get? d "_id" <|> Fields.get? d "id" with
  | none => malformed .missingId
  | some v => (idText? v).elim (malformed (.unusableId v)) .ok

def readParent (id : String) : Option Value → Except Failure (Option String)
  | none => .ok none
  | some v => (idText? v).elim (malformed (.unusableParent id v)) (.ok ∘ some)

def readPriority (id : String) : Option Value → Except Failure Int64
  | none => .ok 0
  | some v => v.toInt?.elim (malformed (.priorityNotInteger id v)) (.ok ∘ Int64.ofInt)

theorem ofDocument_eq_bind (d : Document) : ofDocument d = (do
    let id ← readId d
    let names ← readNames id (optionalField d "names")
    let parent ← readParent id (optionalField d "parent")
    let priority ← readPriority id (optionalField d "priority")
    pure { id, names, parent, priority }) := by
  unfold ofDocument readId
  cases Fields.get? d "_id" <|> Fields.get? d "id" with
  | none => rfl
  | some v =>
    dsimp only
    cases idText? v with
    | none => rfl
    | some id =>
      refine bind_congr fun names => ?_
      cases optionalField d "parent" with
      | none =>
        cases optionalField d "priority" with
        | none => rfl
        | some v =>
          dsimp only [readPriority]
          cases v.toInt? <;> rfl
      | some p =>
        dsimp only [readParent]
        cases idText? p with
        | none => rfl
        | some p =>
          cases optionalField d "priority" with
          | none => rfl
          | some v =>
            dsimp only [readPriority]
            cases v.toInt? <;> rfl

theorem readId_eq_ok_iff {id : String} :
    readId d = .ok id ↔ (Fields.get? d "_id" <|> Fields.get? d "id").bind idText? = some id := by
  unfold readId
  cases Fields.get? d "_id" <|> Fields.get? d "id" with
  | none => simp [malformed]
  | some v =>
    dsimp only [Option.bind_some]
    cases idText? v <;> simp [malformed]

theorem bind_idText?_of_readParent {id : String} {v : Option Value} {parent : Option String}
    (h : readParent id v = .ok parent) : v.bind idText? = parent := by
  cases v with
  | none => exact Except.ok.inj h
  | some v =>
    dsimp only [readParent] at h
    rw [Option.bind_some]
    cases htext : idText? v with
    | none =>
      rw [htext] at h
      cases h
    | some p =>
      rw [htext] at h
      exact Except.ok.inj h

theorem fields_of_ofDocument (h : ofDocument d = .ok c) :
    (Fields.get? d "_id" <|> Fields.get? d "id").bind idText? = some c.id ∧
      (optionalField d "parent").bind idText? = c.parent := by
  rw [ofDocument_eq_bind] at h
  obtain ⟨id, hid, h⟩ := bind_eq_ok_iff.1 h
  obtain ⟨names, _, h⟩ := bind_eq_ok_iff.1 h
  obtain ⟨parent, hparent, h⟩ := bind_eq_ok_iff.1 h
  obtain ⟨priority, _, h⟩ := bind_eq_ok_iff.1 h
  obtain rfl : { id, names, parent, priority } = c := Except.ok.inj h
  exact ⟨readId_eq_ok_iff.1 hid, bind_idText?_of_readParent hparent⟩

end Category

def Document.category (d : Document) : Category := (Category.ofDocument d).toOption.getD { id := "" }

theorem Document.category_eq {d : Document} {c : Category} (h : Category.ofDocument d = .ok c) : d.category = c := by
  rw [category, h]
  rfl

theorem Document.ofDocument_category {d : Document} (h : ∃ c, Category.ofDocument d = .ok c) :
    Category.ofDocument d = .ok d.category := by
  obtain ⟨c, hc⟩ := h
  rw [category_eq hc, hc]

def Graph.ofDocuments (docs : List Document) : Graph := ofList (docs.map Document.category)

/-- Every document is a category. Their ids are texts that tell them apart, and their parents are texts too. -/
structure IsCategoryCollection (docs : List Document) : Prop where
  readable : ∀ d ∈ docs, ∃ c, Category.ofDocument d = .ok c
  id_text : ∀ d ∈ docs, ∃ id, Fields.get? d "_id" = some (.string id)
  ids_nodup : (docs.map (Fields.get? · "_id")).Nodup
  parent_text : ∀ d ∈ docs, ∀ v, Category.optionalField d "parent" = some v → ∃ parent, v = .string parent

namespace IsCategoryCollection

variable {docs : List Document} (h : IsCategoryCollection docs) {d r : Document}

include h

theorem ofDocument_eq (hd : d ∈ docs) : Category.ofDocument d = .ok d.category :=
  Document.ofDocument_category (h.readable d hd)

theorem get?_id (hd : d ∈ docs) : Fields.get? d "_id" = some (.string d.category.id) := by
  obtain ⟨id, hid⟩ := h.id_text d hd
  have htext := (Category.fields_of_ofDocument (h.ofDocument_eq hd)).1
  rw [hid] at htext
  obtain rfl : id = d.category.id := Option.some.inj htext
  exact hid

theorem optionalField_parent (hd : d ∈ docs) :
    Category.optionalField d "parent" = d.category.parent.map Value.string := by
  have htext := (Category.fields_of_ofDocument (h.ofDocument_eq hd)).2
  cases hparent : Category.optionalField d "parent" with
  | none =>
    rw [hparent] at htext
    rw [← htext]
    rfl
  | some v =>
    obtain ⟨parent, rfl⟩ := h.parent_text d hd v hparent
    rw [hparent] at htext
    rw [← htext]
    rfl

theorem ids_category_nodup : ((docs.map Document.category).map (·.id)).Nodup := by
  have hids : docs.map (Fields.get? · "_id") =
      ((docs.map Document.category).map (·.id)).map fun id => some (Value.string id) := by
    rw [List.map_map, List.map_map]
    exact List.map_congr_left fun d hd => h.get?_id hd
  have hnodup := h.ids_nodup
  rw [hids] at hnodup
  exact hnodup.of_map _

theorem keys_nodup : (docs.map Store.LookupSpec.key).Nodup := by
  have hkeys : docs.map Store.LookupSpec.key =
      ((docs.map Document.category).map (·.id)).map fun id => "\"" ++ id ++ "\"" := by
    rw [List.map_map, List.map_map]
    refine List.map_congr_left fun d hd => ?_
    rw [Store.LookupSpec.key, h.get?_id hd]
    rfl
  rw [hkeys]
  refine h.ids_category_nodup.map fun s t hst => ?_
  simpa using hst

/-! ### Links between documents -/

theorem mem_nodes_iff {c : Category} :
    c ∈ (Graph.ofDocuments docs).nodes ↔ ∃ d ∈ docs, d.category = c := by
  change c ∈ Category.firstOccurrences _ ↔ _
  rw [Category.firstOccurrences_of_nodup h.ids_category_nodup, List.mem_map]

theorem category_mem_nodes (hd : d ∈ docs) : d.category ∈ (Graph.ofDocuments docs).nodes :=
  h.mem_nodes_iff.2 ⟨d, hd, rfl⟩

end IsCategoryCollection

namespace Expansion

def lookup (collection : String) : Store.LookupSpec where
  source := collection
  start := "_id"
  connectFrom := "_id"
  connectTo := "parent"
  target := descendantsField
  depthField := some "depth"

theorem lookup_id (d : Document) : Document.lookup d "_id" = Fields.get? d "_id" :=
  Document.lookup_of_not_mem d (by decide)

theorem lookup_parent (d : Document) : Document.lookup d "parent" = Fields.get? d "parent" :=
  Document.lookup_of_not_mem d (by decide)

end Expansion

namespace IsCategoryCollection

open Store.LookupSpec (Reached FirstReached)

variable {docs : List Document} (h : IsCategoryCollection docs) {d r : Document} {n : Nat}
variable (collection : String)

include h

theorem isLinked_iff (hd : d ∈ docs) {id : String} :
    (Expansion.lookup collection).isLinked [.string id] d = true ↔ d.category.parent = some id := by
  have hparent := h.optionalField_parent hd
  have hlink : (Expansion.lookup collection).isLinked [.string id] d = true ↔
      Fields.get? d "parent" = some (.string id) := by
    change ((Document.lookup d "parent").any fun v => [Value.string id].any (·.equal v)) = true ↔ _
    rw [Expansion.lookup_parent, Option.any_eq_true]
    simp only [List.any_cons, List.any_nil, Bool.or_false, Value.string_equal_iff, exists_eq_right]
  rw [hlink]
  constructor
  · intro hv
    have hsome := Category.optionalField_eq_some_iff.2 ⟨hv, nofun⟩
    rw [hparent, Option.map_eq_some_iff] at hsome
    obtain ⟨p, hp, he⟩ := hsome
    rw [hp, Value.string.inj he]
  · intro hp
    rw [hp] at hparent
    exact (Category.optionalField_eq_some_iff.1 hparent).1

/-- A category that is reached is that far down at most. The way to it may come by the start again. -/
theorem exists_isAtDepth_of_reached (hr : r ∈ docs)
    (hreached : Reached (Expansion.lookup collection) docs [.string r.category.id] n d) :
    ∃ m ≤ n + 1, (Graph.ofDocuments docs).IsAtDepth r.category m d.category := by
  induction hreached with
  | @first d hd hlink =>
    by_cases hne : d.category = r.category
    · exact ⟨0, by omega, hne ▸ .start⟩
    · have hparent := (h.isLinked_iff collection hd).1 hlink
      have hids : r.category.id ≠ d.category.id := fun he =>
        hne (Graph.eq_of_id_eq (h.category_mem_nodes hd) (h.category_mem_nodes hr) he.symm)
      exact ⟨1, by omega, .step .start
        (Graph.parent?_eq_some_iff.2 ⟨h.category_mem_nodes hr, hparent, hids⟩) hne⟩
  | @next n p d v hp hv hd hlink ih =>
    obtain ⟨m, hm, hdepth⟩ := ih
    by_cases hne : d.category = r.category
    · exact ⟨0, by omega, hne ▸ .start⟩
    · change Document.lookup p "_id" = some v at hv
      rw [Expansion.lookup_id, h.get?_id hp.mem, Option.some.injEq] at hv
      subst hv
      have hparent := (h.isLinked_iff collection hd).1 hlink
      by_cases hself : p.category.id = d.category.id
      · rw [Graph.eq_of_id_eq (h.category_mem_nodes hp.mem) (h.category_mem_nodes hd) hself] at hdepth
        exact ⟨m, by omega, hdepth⟩
      · exact ⟨m + 1, by omega, .step hdepth
          (Graph.parent?_eq_some_iff.2 ⟨h.category_mem_nodes hp.mem, hparent, hself⟩) hne⟩

theorem reached_of_isAtDepth {c : Category} {m : Nat}
    (hdepth : (Graph.ofDocuments docs).IsAtDepth r.category m c) :
    ∀ n d, m = n + 1 → d ∈ docs → d.category = c →
      Reached (Expansion.lookup collection) docs [.string r.category.id] n d := by
  induction hdepth with
  | start => intro n d hm; omega
  | @step m p c hp hparent _ ih =>
    rintro n d hm hd rfl
    obtain ⟨hpnode, hlink, _⟩ := Graph.parent?_eq_some_iff.1 hparent
    have hlinked := (h.isLinked_iff collection hd).2 hlink
    cases n with
    | zero =>
      obtain rfl : m = 0 := by omega
      rw [hp.eq_of_zero] at hlinked
      exact .first hd hlinked
    | succ n =>
      obtain ⟨e, he, rfl⟩ := h.mem_nodes_iff.1 hpnode
      have hid : Document.lookup e "_id" = some (.string e.category.id) := by
        rw [Expansion.lookup_id, h.get?_id he]
      exact .next (ih n e (by omega) he rfl) hid hd hlinked

theorem firstReached_iff (hr : r ∈ docs) (hd : d ∈ docs) (hne : d.category ≠ r.category) :
    FirstReached (Expansion.lookup collection) docs [.string r.category.id] n d ↔
      (Graph.ofDocuments docs).IsAtDepth r.category (n + 1) d.category := by
  constructor
  · rintro ⟨hreached, hfirst⟩
    obtain ⟨m, hm, hdepth⟩ := h.exists_isAtDepth_of_reached collection hr hreached
    cases m with
    | zero => exact absurd hdepth.eq_of_zero hne
    | succ k =>
      have hearlier := h.reached_of_isAtDepth collection hdepth k d rfl hd rfl
      have hle : n ≤ k := Nat.le_of_not_lt fun hlt => hfirst k hlt hearlier
      obtain rfl : k = n := by omega
      exact hdepth
  · intro hdepth
    refine ⟨h.reached_of_isAtDepth collection hdepth n d rfl hd rfl, fun m hm hearlier => ?_⟩
    obtain ⟨k, hk, hdepth'⟩ := h.exists_isAtDepth_of_reached collection hr hearlier
    have heq := hdepth.unique hdepth'
    omega

end IsCategoryCollection

end Catalogue
