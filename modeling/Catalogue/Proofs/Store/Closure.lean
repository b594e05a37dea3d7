import Catalogue.Proofs.Fields
import Catalogue.Proofs.Page.Stages
import Catalogue.Proofs.Store.Lookup
import Mathlib.Order.Bounds.Defs

set_option autoImplicit false

namespace Catalogue.Store.LookupSpec

variable {spec : LookupSpec} {source : List Document} {n : Nat} {found : List (Nat × Document)}

/-! ### Specifications -/

structure IsSpecified (fields : Document) (spec : LookupSpec) : Prop where
  source : Fields.get? fields "from" = some (.string spec.source)
  start : Fields.get? fields "startWith" = some (.string ("$" ++ spec.start))
  connectFrom : Fields.get? fields "connectFromField" = some (.string spec.connectFrom)
  connectTo : Fields.get? fields "connectToField" = some (.string spec.connectTo)
  target : Fields.get? fields "as" = some (.string spec.target)
  depthField : (Fields.get? fields "depthField").bind Value.asString? = spec.depthField

theorem asString?_eq_some_iff {v : Value} {s : String} : v.asString? = some s ↔ v = .string s := by
  cases v <;> simp [Value.asString?]

theorem text_eq_ok_iff {fields : Document} {name s : String} :
    text fields name = .ok s ↔ Fields.get? fields name = some (.string s) := by
  have hstring : (Fields.get? fields name).bind Value.asString? = some s ↔
      Fields.get? fields name = some (.string s) := by
    simp only [Option.bind_eq_some_iff, asString?_eq_some_iff, exists_eq_right]
  rw [← hstring, text]
  cases (Fields.get? fields name).bind Value.asString? <;> simp

theorem ofDocument_eq_ok_iff {fields : Document} : ofDocument fields = .ok spec ↔ IsSpecified fields spec := by
  constructor
  · intro h
    obtain ⟨source, hsource, h⟩ := bind_eq_ok_iff.1 h
    obtain ⟨start, hstart, h⟩ := bind_eq_ok_iff.1 h
    obtain ⟨connectFrom, hfrom, h⟩ := bind_eq_ok_iff.1 h
    obtain ⟨connectTo, hto, h⟩ := bind_eq_ok_iff.1 h
    obtain ⟨target, htarget, h⟩ := bind_eq_ok_iff.1 h
    simp only [text_eq_ok_iff] at hsource hstart hfrom hto htarget
    split at h
    · next path hpath =>
      obtain rfl := Except.ok.inj h
      have hwritten : start = "$" ++ String.ofList path := by
        rw [← String.toList_inj, hpath]
        simp
      exact ⟨hsource, hwritten ▸ hstart, hfrom, hto, htarget, rfl⟩
    · cases h
  · intro h
    have hpath : ("$" ++ spec.start).toList = '$' :: spec.start.toList := by simp
    unfold ofDocument
    rw [text_eq_ok_iff.2 h.source, text_eq_ok_iff.2 h.start, text_eq_ok_iff.2 h.connectFrom,
      text_eq_ok_iff.2 h.connectTo, text_eq_ok_iff.2 h.target, h.depthField]
    simp only [bind, Except.bind, hpath, String.ofList_toList]
    rfl

structure HasDistinctIds (source : List Document) : Prop where
  id_isSome : ∀ d ∈ source, (Fields.get? d "_id").isSome
  texts_nodup : (source.map fun d => (Fields.get? d "_id").map Value.text).Nodup

theorem HasDistinctIds.keys_nodup (h : HasDistinctIds source) : (source.map key).Nodup := by
  have htexts : source.map (fun d => (Fields.get? d "_id").map Value.text) = (source.map key).map some := by
    rw [List.map_map]
    refine List.map_congr_left fun d hd => ?_
    obtain ⟨v, hv⟩ := Option.isSome_iff_exists.1 (h.id_isSome d hd)
    simp [key, hv]
  have hnodup := h.texts_nodup
  rw [htexts] at hnodup
  exact hnodup.of_map _

/-! ### Links -/

def IsLink (spec : LookupSpec) (source : List Document) (v : Value) (d : Document) : Prop :=
  d ∈ source ∧ ∃ w, Document.lookup d spec.connectTo = some w ∧ v.equal w = true

/-- A document that so many links lead to, the first from the value and each other one from the document before. -/
inductive Chain (spec : LookupSpec) (source : List Document) (v : Value) : Nat → Document → Prop
  | one {d : Document} (hlink : spec.IsLink source v d) : Chain spec source v 1 d
  | more {n : Nat} {d e : Document} {w : Value} (hd : Chain spec source v n d)
      (hw : Document.lookup d spec.connectFrom = some w) (hlink : spec.IsLink source w e) :
      Chain spec source v (n + 1) e

/-- From the start value of `d`, if it has one, `n` links lead to `e`. -/
def LeadsTo (spec : LookupSpec) (source : List Document) (d : Document) (n : Nat) (e : Document) : Prop :=
  ∃ v, Document.lookup d spec.start = some v ∧ Chain spec source v n e

theorem isLink_iff {v : Value} {d : Document} :
    spec.IsLink source v d ↔ d ∈ source ∧ spec.isLinked [v] d = true := by
  refine and_congr_right fun _ => ?_
  rw [isLinked, Option.any_eq_true]
  simp only [List.any_cons, List.any_nil, Bool.or_false]

theorem Chain.reached {v : Value} {e : Document} (h : Chain spec source v n e) :
    ∃ m, n = m + 1 ∧ Reached spec source [v] m e := by
  induction h with
  | one hlink =>
    obtain ⟨hd, hlink⟩ := isLink_iff.1 hlink
    exact ⟨0, rfl, .first hd hlink⟩
  | more _ hw hlink ih =>
    obtain ⟨m, rfl, hd⟩ := ih
    obtain ⟨he, hlink⟩ := isLink_iff.1 hlink
    exact ⟨m + 1, rfl, .next hd hw he hlink⟩

theorem Reached.chain {v : Value} {e : Document} (h : Reached spec source [v] n e) :
    Chain spec source v (n + 1) e := by
  induction h with
  | first hd hlink => exact .one (isLink_iff.2 ⟨hd, hlink⟩)
  | next _ hv he hlink ih => exact .more ih hv (isLink_iff.2 ⟨he, hlink⟩)

theorem not_reached_nil {e : Document} : ¬Reached spec source [] n e := by
  intro h
  induction h with
  | first _ hlink =>
    obtain ⟨v, hv, _⟩ := isLinked_iff.1 hlink
    exact List.not_mem_nil hv
  | next _ _ _ _ ih => exact ih

theorem leadsTo_iff {d e : Document} : spec.LeadsTo source d n e ↔
    ∃ m, n = m + 1 ∧ Reached spec source (Document.lookup d spec.start).toList m e := by
  unfold LeadsTo
  cases Document.lookup d spec.start with
  | none => simp [not_reached_nil]
  | some v =>
    constructor
    · rintro ⟨w, hw, hchain⟩
      obtain rfl := Option.some.inj hw
      exact hchain.reached
    · rintro ⟨m, rfl, hreached⟩
      exact ⟨v, rfl, hreached.chain⟩

theorem FirstReached.isLeast {d e : Document}
    (h : FirstReached spec source (Document.lookup d spec.start).toList n e) :
    IsLeast {n | spec.LeadsTo source d n e} (n + 1) := by
  refine ⟨leadsTo_iff.2 ⟨n, rfl, h.1⟩, fun k hk => ?_⟩
  obtain ⟨m, rfl, hm⟩ := leadsTo_iff.1 hk
  exact Nat.succ_le_succ (Nat.le_of_not_lt fun hlt => h.2 m hlt hm)

/-! ### Closures -/

/-- The rounds from the start value come to an end, and the documents found are those that links lead to from it, each
listed once with one less than the least number of links to it, and in this order. -/
structure IsClosure (spec : LookupSpec) (source : List Document) (d : Document) (found : List (Nat × Document)) :
    Prop where
  rounds : Rounds spec source 0 (Document.lookup d spec.start).toList [] found
  mem_iff : ∀ e, e ∈ found.map (·.2) ↔ ∃ n, spec.LeadsTo source d n e
  nodup : (found.map (·.2)).Nodup
  isLeast : ∀ p ∈ found, IsLeast {n | spec.LeadsTo source d n p.2} (p.1 + 1)
  ascending : found.Pairwise fun p q => p.1 ≤ q.1
  lt_length : ∀ p ∈ found, p.1 < source.length

theorem Rounds.isClosure (hkeys : (source.map key).Nodup) {d : Document}
    (h : Rounds spec source 0 (Document.lookup d spec.start).toList [] found) : spec.IsClosure source d found := by
  have hbefore := beforeRound_zero spec source (Document.lookup d spec.start).toList
  have hfirst : ∀ p ∈ found, FirstReached spec source (Document.lookup d spec.start).toList p.1 p.2 :=
    fun _ hp => ((h.mem_iff hkeys hbefore).1 hp).2
  refine ⟨h, fun e => ?_, h.nodup hkeys hbefore, fun p hp => (hfirst p hp).isLeast, h.ascending, fun p hp => ?_⟩
  · rw [List.mem_map]
    constructor
    · rintro ⟨p, hp, rfl⟩
      exact ⟨p.1 + 1, (hfirst p hp).isLeast.1⟩
    · rintro ⟨_, hn⟩
      obtain ⟨n, rfl, hreached⟩ := leadsTo_iff.1 hn
      obtain ⟨m, _, hm⟩ := hreached.exists_firstReached
      exact ⟨(m, e), (h.mem_iff hkeys hbefore).2 ⟨Nat.zero_le m, hm⟩, rfl⟩
  · exact (hfirst p hp).lt_length hkeys

def IsAnnotated (spec : LookupSpec) (p : Nat × Document) (item : Document) : Prop :=
  match spec.depthField with
  | none => item = p.2
  | some name =>
    Fields.get? item name = some (.int64 (Int64.ofNat p.1)) ∧ Fields.erase item name = Fields.erase p.2 name

theorem isAnnotated_annotate (spec : LookupSpec) (p : Nat × Document) :
    spec.IsAnnotated p (spec.annotate p.1 p.2) := by
  unfold IsAnnotated annotate
  cases spec.depthField with
  | none => rfl
  | some name => exact ⟨Fields.get?_put_self _ _ _, Fields.erase_put _ _ _⟩

theorem Rounds.extend_eq {d : Document}
    (h : Rounds spec source 0 (Document.lookup d spec.start).toList [] found) :
    spec.extend source d = Fields.put d spec.target
      (.array ((found.map fun p => spec.annotate p.1 p.2).map .document)) := by
  rw [← h.found_eq]
  rfl

def IsExtended (spec : LookupSpec) (source : List Document) (d row : Document) : Prop :=
  ∃ found items, spec.IsClosure source d found ∧ List.Forall₂ spec.IsAnnotated found items ∧
    Fields.get? row spec.target = some (.array (items.map .document)) ∧
    Fields.erase row spec.target = Fields.erase d spec.target

theorem isExtended_extend (hkeys : (source.map key).Nodup) (d : Document) :
    spec.IsExtended source d (spec.extend source d) := by
  obtain ⟨found, hrounds⟩ := exists_rounds spec source 0 (Document.lookup d spec.start).toList []
  refine ⟨found, found.map fun p => spec.annotate p.1 p.2, hrounds.isClosure hkeys, ?_, ?_, ?_⟩
  · rw [List.forall₂_map_right_iff, List.forall₂_same]
    exact fun p _ => isAnnotated_annotate spec p
  · rw [hrounds.extend_eq, Fields.get?_put_self]
  · rw [hrounds.extend_eq, Fields.erase_put]

end Catalogue.Store.LookupSpec

namespace Catalogue.Database

open Store (LookupSpec)

/-- A lookup stage has an answer, and in it every document comes with its transitive closure. -/
theorem lookup_isExtended (db : Database) (docs : List Document) {fields : Document} {spec : LookupSpec}
    (hspec : spec.IsSpecified fields) (hids : LookupSpec.HasDistinctIds (db.collection spec.source)) :
    ∃ rows, db.runStage docs "$graphLookup" (.document fields) = .ok rows ∧
      List.Forall₂ (spec.IsExtended (db.collection spec.source)) docs rows := by
  refine ⟨_, runStage_lookup (LookupSpec.ofDocument_eq_ok_iff.2 hspec), ?_⟩
  rw [List.forall₂_map_right_iff, List.forall₂_same]
  exact fun d _ => LookupSpec.isExtended_extend hids.keys_nodup d

def sampleStops : List Document :=
  [[("_id", .int32 1), ("name", .string "shore"), ("to", .string "bridge")],
    [("_id", .int32 2), ("name", .string "bridge"), ("to", .string "shore")],
    [("_id", .int32 3), ("name", .string "bridge")]]

def sampleWays : LookupSpec where
  source := "stops"
  start := "to"
  connectFrom := "to"
  connectTo := "name"
  target := "ways"
  depthField := some "depth"

def sampleWaysWritten : Document :=
  [("from", .string "stops"), ("startWith", .string "$to"), ("connectFromField", .string "to"),
    ("connectToField", .string "name"), ("as", .string "ways"), ("depthField", .string "depth")]

theorem lookup_isExtended_sampleStops : sampleWays.IsSpecified sampleWaysWritten ∧
    LookupSpec.HasDistinctIds sampleStops ∧
    ∃ rows, runStage [("stops", sampleStops)] sampleStops "$graphLookup" (.document sampleWaysWritten) = .ok rows ∧
      List.Forall₂ (sampleWays.IsExtended sampleStops) sampleStops rows := by
  have hspec : sampleWays.IsSpecified sampleWaysWritten := ⟨rfl, rfl, rfl, rfl, rfl, rfl⟩
  have hids : LookupSpec.HasDistinctIds sampleStops := by
    constructor
    case id_isSome => simp [sampleStops, Fields.get?]
    case texts_nodup => decide
  exact ⟨hspec, hids, lookup_isExtended [("stops", sampleStops)] sampleStops hspec hids⟩

example : runStage [("stops", sampleStops)] (sampleStops.take 1) "$graphLookup" (.document sampleWaysWritten) =
    .ok [[("_id", .int32 1), ("name", .string "shore"), ("to", .string "bridge"), ("ways", .array
      [.document [("_id", .int32 2), ("name", .string "bridge"), ("to", .string "shore"), ("depth", .int64 0)],
        .document [("_id", .int32 3), ("name", .string "bridge"), ("depth", .int64 0)],
        .document [("_id", .int32 1), ("name", .string "shore"), ("to", .string "bridge"),
          ("depth", .int64 1)]])]] := by
  rfl

end Catalogue.Database
