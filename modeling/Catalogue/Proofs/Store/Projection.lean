import Catalogue.Proofs.Fields
import Catalogue.Store.Projection

set_option autoImplicit false

namespace Catalogue

namespace Document

variable {spec d : Document} {names : List String} {name : String}

def Keeps (spec : Document) (name : String) : Prop := ∃ e ∈ spec, e.1 = name ∧ e.2.isTruthy = true

def Drops (spec : Document) (name : String) : Prop := ∃ e ∈ spec, e.1 = name ∧ e.2.isTruthy = false

def IsInclusion (spec : Document) : Prop := ∃ name, name ≠ "_id" ∧ spec.Keeps name

instance (spec : Document) (name : String) : Decidable (spec.Keeps name) :=
  inferInstanceAs (Decidable (∃ e ∈ spec, e.1 = name ∧ e.2.isTruthy = true))

instance (spec : Document) (name : String) : Decidable (spec.Drops name) :=
  inferInstanceAs (Decidable (∃ e ∈ spec, e.1 = name ∧ e.2.isTruthy = false))

theorem isExclusion_iff : isExclusion spec = true ↔ ¬spec.IsInclusion := by
  simp only [isExclusion, List.all_eq_true, Bool.or_eq_true, beq_iff_eq, Bool.not_eq_true']
  constructor
  · rintro h ⟨_, hid, e, he, rfl, hkept⟩
    rcases h e he with heq | hdropped
    · exact hid heq
    · exact Bool.noConfusion (hkept.symm.trans hdropped)
  · intro h e he
    by_contra hno
    rw [not_or, Bool.not_eq_false] at hno
    exact h ⟨e.1, hno.1, e, he, rfl, hno.2⟩

/-! ### Dropping fields -/

theorem drops_cons {e : String × Value} :
    Drops (e :: spec) name ↔ e.1 = name ∧ e.2.isTruthy = false ∨ spec.Drops name :=
  List.exists_mem_cons_iff _ _ _

theorem foldl_erase (spec d : Document) :
    spec.foldl (fun out e => if e.2.isTruthy then out else Fields.erase out e.1) d =
      d.filter fun e => ¬spec.Drops e.1 := by
  induction spec generalizing d with
  | nil => simp [Drops]
  | cons e spec ih =>
    rw [List.foldl_cons, ih]
    cases he : e.2.isTruthy with
    | true => simp [drops_cons, he]
    | false =>
      simp only [Bool.false_eq_true, if_false, Fields.erase, List.filter_filter]
      refine List.filter_congr fun f _ => ?_
      simp only [drops_cons]
      by_cases hname : f.1 = e.1
      · simp [he, hname]
      · simp [hname, Ne.symm hname]

theorem project_of_not_isInclusion (h : ¬spec.IsInclusion) (d : Document) :
    project spec d = d.filter fun e => ¬spec.Drops e.1 := by
  rw [project, if_pos (isExclusion_iff.2 h)]
  exact foldl_erase spec d

/-! ### Keeping fields -/

def select (names : List String) (d : Document) : Document :=
  names.filterMap fun name => (Fields.get? d name).map (name, ·)

theorem names_select_sublist (names : List String) (d : Document) : (Fields.names (select names d)).Sublist names := by
  induction names with
  | nil => exact List.Sublist.slnil
  | cons name names ih =>
    unfold select at ih ⊢
    cases h : Fields.get? d name with
    | none => simpa [h] using ih.cons name
    | some v => simpa [h, Fields.names] using ih.cons_cons name

theorem get?_select (names : List String) (d : Document) (name : String) :
    Fields.get? (select names d) name = if name ∈ names then Fields.get? d name else none := by
  induction names with
  | nil => rfl
  | cons first names ih =>
    have hselect : select (first :: names) d =
        ((Fields.get? d first).map (first, ·)).toList ++ select names d := by
      cases h : Fields.get? d first <;> simp [select, h]
    rw [hselect]
    by_cases hname : first = name
    · subst hname
      cases h : Fields.get? d first with
      | none => simpa [h] using ih
      | some v => simp [Fields.get?]
    · have hmem : name ∈ first :: names ↔ name ∈ names := by simp [Ne.symm hname]
      simp only [hmem, ← ih]
      cases Fields.get? d first <;> simp [Fields.get?, hname]

theorem select_select (names : List String) (d : Document) : select names (select names d) = select names d := by
  refine List.filterMap_congr fun name hname => ?_
  rw [get?_select, if_pos hname]

def keptNames (spec : Document) : List String :=
  (if keepsId spec then ["_id"] else []) ++
    Fields.names (spec.filter fun e => decide (e.1 ≠ "_id") && e.2.isTruthy)

theorem keptNames_nodup (h : (Fields.names spec).Nodup) : (keptNames spec).Nodup := by
  have hpicked : (Fields.names (spec.filter fun e => decide (e.1 ≠ "_id") && e.2.isTruthy)).Nodup :=
    h.sublist (List.filter_sublist.map _)
  unfold keptNames
  split
  · refine List.nodup_cons.2 ⟨fun hmem => ?_, hpicked⟩
    obtain ⟨e, he, hid⟩ := List.mem_map.1 hmem
    simpa [hid] using (List.mem_filter.1 he).2
  · exact hpicked

theorem keepsId_iff (h : (Fields.names spec).Nodup) : keepsId spec = true ↔ ¬spec.Drops "_id" := by
  rw [keepsId, Option.all_eq_true]
  constructor
  · rintro hall ⟨⟨_, w⟩, he, rfl, hdropped⟩
    exact Bool.noConfusion (hdropped.symm.trans (hall w (Fields.get?_of_mem h he)))
  · intro hno w hw
    by_contra hdropped
    exact hno ⟨_, Fields.mem_of_get? hw, rfl, Bool.eq_false_iff.2 hdropped⟩

theorem mem_keptNames_iff (h : (Fields.names spec).Nodup) :
    name ∈ keptNames spec ↔ spec.Keeps name ∨ name = "_id" ∧ ¬spec.Drops "_id" := by
  have hid : name ∈ (if keepsId spec then ["_id"] else []) ↔ name = "_id" ∧ ¬spec.Drops "_id" := by
    rw [← keepsId_iff h]
    cases keepsId spec <;> simp
  have hpicked : name ∈ Fields.names (spec.filter fun e => decide (e.1 ≠ "_id") && e.2.isTruthy) ↔
      name ≠ "_id" ∧ spec.Keeps name := by
    simp only [Fields.names, List.mem_map, List.mem_filter, Bool.and_eq_true, decide_eq_true_eq, Keeps]
    constructor
    · rintro ⟨e, ⟨he, hne, hkept⟩, rfl⟩
      exact ⟨hne, e, he, rfl, hkept⟩
    · rintro ⟨hne, e, he, rfl, hkept⟩
      exact ⟨e, ⟨he, hne, hkept⟩, rfl⟩
  rw [keptNames, List.mem_append, hid, hpicked]
  constructor
  · rintro (hkept | ⟨_, hkept⟩)
    · exact Or.inr hkept
    · exact Or.inl hkept
  · rintro (hkept | hkept)
    · by_cases hname : name = "_id"
      · obtain ⟨e, he, rfl, htruthy⟩ := hkept
        refine Or.inl ⟨hname, ?_⟩
        rintro ⟨f, hf, hfid, hdropped⟩
        have heq : e = f := List.inj_on_of_nodup_map h he hf (hname.trans hfid.symm)
        exact Bool.noConfusion (htruthy.symm.trans (heq ▸ hdropped))
      · exact Or.inr ⟨hname, hkept⟩
    · exact Or.inl hkept

def keepField (d out : Document) (e : String × Value) : Document :=
  if e.1 = "_id" ∨ e.2.isTruthy = false then out
  else
    match Fields.get? d e.1 with
    | some v => Fields.put out e.1 v
    | none => out

theorem foldl_keepField {out : Document} (hspec : (Fields.names spec).Nodup)
    (hout : ∀ e ∈ spec, e.1 ≠ "_id" → e.1 ∉ Fields.names out) :
    spec.foldl (keepField d) out =
      out ++ select (Fields.names (spec.filter fun e => decide (e.1 ≠ "_id") && e.2.isTruthy)) d := by
  induction spec generalizing out with
  | nil => exact (List.append_nil out).symm
  | cons e spec ih =>
    obtain ⟨hfresh, hspec⟩ := List.nodup_cons.1 hspec
    have hrest : ∀ f ∈ spec, f.1 ≠ "_id" → f.1 ∉ Fields.names out := fun f hf =>
      hout f (List.mem_cons_of_mem _ hf)
    rw [List.foldl_cons, keepField]
    by_cases hskip : e.1 = "_id" ∨ e.2.isTruthy = false
    · rw [if_pos hskip, ih hspec hrest]
      rcases hskip with hid | hdropped
      · simp [hid]
      · simp [hdropped]
    · obtain ⟨hid, hkept⟩ := not_or.1 hskip
      rw [Bool.not_eq_false] at hkept
      rw [if_neg hskip]
      cases hv : Fields.get? d e.1 with
      | none =>
        rw [ih hspec hrest]
        simp [hid, hkept, Fields.names, select, hv]
      | some v =>
        have hnew : e.1 ∉ Fields.names out := hout e List.mem_cons_self hid
        dsimp only
        rw [Fields.put_of_not_mem out v hnew, ih hspec ?_]
        · simp [hid, hkept, Fields.names, select, hv]
        · intro f hf hfid hmem
          simp only [Fields.names, List.map_append, List.map_cons, List.map_nil, List.mem_append,
            List.mem_singleton] at hmem
          rcases hmem with hmem | heq
          · exact hrest f hf hfid hmem
          · exact hfresh (List.mem_map.2 ⟨f, hf, heq⟩)

theorem project_of_isInclusion (hspec : (Fields.names spec).Nodup) (h : spec.IsInclusion) (d : Document) :
    project spec d = select (keptNames spec) d := by
  have hmode : ¬isExclusion spec = true := fun hexclusion => isExclusion_iff.1 hexclusion h
  have hid : (if keepsId spec then (Fields.get? d "_id").toList.map (("_id", ·)) else []) =
      select (if keepsId spec then ["_id"] else []) d := by
    cases keepsId spec <;> cases hv : Fields.get? d "_id" <;> simp [select, hv]
  have hproject : project spec d = spec.foldl (keepField d) (select (if keepsId spec then ["_id"] else []) d) := by
    rw [← hid, project, if_neg hmode]
    rfl
  rw [hproject, foldl_keepField hspec]
  · simp [keptNames, select]
  · intro e _ hne hmem
    have hmem := (names_select_sublist _ d).subset hmem
    split at hmem
    · exact hne (List.mem_singleton.1 hmem)
    · cases hmem

/-- A projection that keeps some field beside the id keeps just the fields that it names so, and the id unless it is
dropped. Any other one leaves all fields but those that it drops. Either way the values stay as they are, and
projecting the outcome again does not change it. -/
theorem project_fields (hspec : (Fields.names spec).Nodup) (d : Document) :
    (spec.IsInclusion →
      (Fields.names (project spec d)).Nodup ∧
      ∀ name, Fields.get? (project spec d) name =
        if spec.Keeps name ∨ name = "_id" ∧ ¬spec.Drops "_id" then Fields.get? d name else none) ∧
    (¬spec.IsInclusion → project spec d = d.filter fun e => ¬spec.Drops e.1) ∧
    project spec (project spec d) = project spec d := by
  refine ⟨fun h => ?_, fun h => project_of_not_isInclusion h d, ?_⟩
  · rw [project_of_isInclusion hspec h]
    refine ⟨(keptNames_nodup hspec).sublist (names_select_sublist _ d), fun name => ?_⟩
    rw [get?_select]
    exact if_congr (mem_keptNames_iff hspec) rfl rfl
  · by_cases h : spec.IsInclusion
    · rw [project_of_isInclusion hspec h, project_of_isInclusion hspec h, select_select]
    · rw [project_of_not_isInclusion h, project_of_not_isInclusion h, List.filter_filter]
      simp only [Bool.and_self]

def sampleItem : Document := [("title", .string "Pear"), ("_id", .string "p"), ("stock", .int32 7)]

def titleProjection : Document := [("_id", .int32 0), ("note", .int64 1), ("title", .boolean true)]

theorem project_fields_sampleItem :
    titleProjection.IsInclusion ∧
    project titleProjection sampleItem = [("title", .string "Pear")] ∧
    Fields.get? (project titleProjection sampleItem) "stock" = none ∧
    project titleProjection (project titleProjection sampleItem) = project titleProjection sampleItem := by
  have hspec : (Fields.names titleProjection).Nodup := by decide
  have hinclusion : titleProjection.IsInclusion :=
    ⟨"title", by decide, ("title", .boolean true), by simp [titleProjection], rfl, rfl⟩
  obtain ⟨hkeep, -, hagain⟩ := project_fields hspec sampleItem
  have hstock : ¬(titleProjection.Keeps "stock" ∨ "stock" = "_id" ∧ ¬titleProjection.Drops "_id") := by decide
  exact ⟨hinclusion, rfl, ((hkeep hinclusion).2 "stock").trans (if_neg hstock), hagain⟩

/-- A projection that lists the id alone, to be kept, lets every field through. -/
theorem project_id_alone :
    (∀ e ∈ [("_id", Value.int32 1)], e.1 = "_id" ∧ e.2.isTruthy = true) ∧
    project [("_id", .int32 1)] sampleItem = sampleItem ∧
    Fields.get? sampleItem "title" = some (.string "Pear") ∧
    ¬Keeps [("_id", .int32 1)] "title" := by
  exact ⟨by decide, rfl, rfl, by decide⟩

end Document

end Catalogue
