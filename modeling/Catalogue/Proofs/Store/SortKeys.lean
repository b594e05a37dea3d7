import Catalogue.Proofs.Page.Stages

set_option autoImplicit false

namespace Catalogue

namespace Document

variable {keys : List (String × Value)} {a b : Document}

def IsTied (keys : List (String × Value)) (a b : Document) : Prop :=
  ∀ key ∈ keys, Value.compareOption (lookup a key.1) (lookup b key.1) = .eq

instance (keys : List (String × Value)) (a b : Document) : Decidable (IsTied keys a b) :=
  inferInstanceAs (Decidable (∀ key ∈ keys, Value.compareOption (lookup a key.1) (lookup b key.1) = .eq))

def IsDecidedBy (keys : List (String × Value)) (a b : Document) (key : String × Value) : Prop :=
  ∃ earlier later, keys = earlier ++ key :: later ∧ IsTied earlier a b ∧
    Value.compareOption (lookup a key.1) (lookup b key.1) ≠ .eq

/-- The first document has the lesser value at the key, or the greater one if the direction is minus one. -/
def IsInOrder (key : String × Value) (a b : Document) : Prop :=
  Value.compareOption (lookup a key.1) (lookup b key.1) = if key.2.toInt? = some (-1) then .gt else .lt

theorem isTied_cons {key : String × Value} :
    IsTied (key :: keys) a b ↔ Value.compareOption (lookup a key.1) (lookup b key.1) = .eq ∧ IsTied keys a b :=
  List.forall_mem_cons

theorem compareAt_eq_eq_iff {path : String} {reverse : Bool} :
    compareAt path reverse a b = .eq ↔ Value.compareOption (lookup a path) (lookup b path) = .eq := by
  cases reverse with
  | false => exact Iff.rfl
  | true => exact Ordering.swap_eq_eq

theorem compareAt_eq_lt_iff {key : String × Value} :
    compareAt key.1 (decide (key.2.toInt? = some (-1))) a b = .lt ↔ IsInOrder key a b := by
  unfold compareAt IsInOrder
  by_cases h : key.2.toInt? = some (-1)
  · simp [h, Ordering.swap_eq_lt]
  · simp [h]

theorem compareBy_eq_eq_iff : compareBy keys a b = .eq ↔ IsTied keys a b := by
  induction keys with
  | nil => simp [compareBy, IsTied]
  | cons key keys ih =>
    obtain ⟨path, direction⟩ := key
    rw [compareBy_cons, compareLex_eq_eq, ih, compareAt_eq_eq_iff, isTied_cons]

theorem compareBy_eq_lt_iff :
    compareBy keys a b = .lt ↔ ∃ key, IsDecidedBy keys a b key ∧ IsInOrder key a b := by
  induction keys with
  | nil => simp [compareBy, IsDecidedBy]
  | cons key keys ih =>
    rw [compareBy_cons, compareLex, Ordering.then_eq_lt, compareAt_eq_lt_iff, compareAt_eq_eq_iff, ih]
    constructor
    · rintro (hlt | ⟨heq, decider, ⟨earlier, later, rfl, htied, hne⟩, horder⟩)
      · have hne : Value.compareOption (lookup a key.1) (lookup b key.1) ≠ .eq := by
          rw [hlt]
          split <;> decide
        exact ⟨key, ⟨[], keys, rfl, List.forall_mem_nil _, hne⟩, hlt⟩
      · exact ⟨decider, ⟨key :: earlier, later, rfl, isTied_cons.2 ⟨heq, htied⟩, hne⟩, horder⟩
    · rintro ⟨decider, ⟨earlier, later, hkeys, htied, hne⟩, horder⟩
      cases earlier with
      | nil =>
        obtain ⟨rfl, rfl⟩ := List.cons.inj hkeys
        exact Or.inl horder
      | cons first earlier =>
        obtain ⟨rfl, rfl⟩ := List.cons.inj hkeys
        obtain ⟨heq, htied⟩ := isTied_cons.1 htied
        exact Or.inr ⟨heq, decider, ⟨earlier, later, rfl, htied, hne⟩, horder⟩

end Document

namespace Database

/-- Sorting by keys succeeds and loses nothing. Any two documents come out in the order of the first key that tells
them apart, in reverse for direction minus one, and where no key does they stay in the order they came in. Values are
ordered totally and transitively, whatever their kinds, and missing ones too. -/
theorem sort_by_keys (db : Database) (docs : List Document) {keys : Document} (hkeys : keys ≠ []) :
    (∀ x y : Option Value, Value.compareOption y x = (Value.compareOption x y).swap) ∧
    (∀ x y z : Option Value, Value.compareOption x y ≠ .gt → Value.compareOption y z ≠ .gt →
      Value.compareOption x z ≠ .gt) ∧
    ∃ out, db.runStages docs [.document [("$sort", .document keys)]] = .ok out ∧
      out.Perm docs ∧
      out.Pairwise (fun a b => Document.IsTied keys a b ∨
        ∃ key, Document.IsDecidedBy keys a b key ∧ Document.IsInOrder key a b) ∧
      ∀ a, out.filter (Document.IsTied keys a ·) = docs.filter (Document.IsTied keys a ·) := by
  have hsorted := stablySorted_sortBy keys docs
  refine ⟨fun _ _ => Std.OrientedCmp.eq_swap, fun _ _ _ => Std.TransCmp.le_trans,
    sortBy keys docs, runStages_sortBy hkeys, hsorted.perm, ?_, fun a => ?_⟩
  · refine hsorted.ascending.imp fun {a b} hle => ?_
    rw [← Document.compareBy_eq_eq_iff, ← Document.compareBy_eq_lt_iff]
    cases h : Document.compareBy keys a b with
    | eq => exact Or.inl rfl
    | lt => exact Or.inr rfl
    | gt => exact absurd h hle
  · have htied : ∀ b, decide (Document.IsTied keys a b) = (Document.compareBy keys a b == .eq) := by
      intro b
      rw [Bool.eq_iff_iff, decide_eq_true_eq, beq_iff_eq, Document.compareBy_eq_eq_iff]
    simp only [htied]
    exact hsorted.stable a

def sampleMixture : List Document :=
  [[("_id", .string "a"), ("n", .int64 3)], [("_id", .string "b"), ("n", .string "two")], [("_id", .string "c")],
    [("_id", .string "d"), ("n", .double ⟨0x4008000000000000⟩)], [("_id", .string "e"), ("n", .int32 4)]]

def sampleKeys : Document := [("n", .int32 (-1)), ("rank", .int64 1)]

theorem sort_by_keys_sampleMixture : sampleKeys ≠ [] ∧
    ∃ out, runStages [] sampleMixture [.document [("$sort", .document sampleKeys)]] = .ok out ∧
      out.Pairwise (fun a b => Document.IsTied sampleKeys a b ∨
        ∃ key, Document.IsDecidedBy sampleKeys a b key ∧ Document.IsInOrder key a b) ∧
      out.filter (Document.IsTied sampleKeys sampleMixture[0] ·) = [sampleMixture[0], sampleMixture[3]] := by
  have hkeys : sampleKeys ≠ [] := List.cons_ne_nil _ _
  obtain ⟨_, _, out, hout, _, hordered, hstable⟩ := sort_by_keys [] sampleMixture hkeys
  have hties : sampleMixture.map (fun b => decide (Document.IsTied sampleKeys sampleMixture[0] b)) =
      [true, false, false, true, false] := by decide +kernel
  simp only [sampleMixture, List.getElem_cons_zero, List.map_cons, List.map_nil, List.cons.injEq, and_true] at hties
  have htied : sampleMixture.filter (Document.IsTied sampleKeys sampleMixture[0] ·) =
      [sampleMixture[0], sampleMixture[3]] := by
    simp [sampleMixture, hties]
  exact ⟨hkeys, out, hout, hordered, (hstable _).trans htied⟩

end Database

end Catalogue
