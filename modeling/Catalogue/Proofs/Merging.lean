import Catalogue.Proofs.Fields
import Catalogue.Proofs.Steps

set_option autoImplicit false

namespace Catalogue.Fields

variable {α β ε : Type} {R : β → α → Prop} {entries done : List (String × β)} {values : List (String × α)}
  {d : Fields α} {name other : String} {a v : α} {b c : β}

/-! ### Last values -/

def IsLast (entries : List (String × β)) (name : String) (b : β) : Prop :=
  ∃ before after, entries = before ++ (name, b) :: after ∧ name ∉ names after

theorem mem_names_concat : other ∈ names (entries ++ [(name, b)]) ↔ other ∈ names entries ∨ other = name := by
  simp [names]

theorem isLast_concat : IsLast (entries ++ [(name, b)]) other c ↔
    other = name ∧ c = b ∨ other ≠ name ∧ IsLast entries other c := by
  constructor
  · rintro ⟨before, after, heq, hafter⟩
    rcases after.eq_nil_or_concat' with rfl | ⟨after, last, rfl⟩
    · obtain ⟨-, hlast⟩ := List.append_inj' heq rfl
      cases hlast
      exact Or.inl ⟨rfl, rfl⟩
    · rw [← List.cons_append, ← List.append_assoc] at heq
      obtain ⟨rfl, hlast⟩ := List.append_inj' heq rfl
      cases hlast
      rw [mem_names_concat, not_or] at hafter
      exact Or.inr ⟨hafter.2, before, after, rfl, hafter.1⟩
  · rintro (⟨rfl, rfl⟩ | ⟨hne, before, after, rfl, hafter⟩)
    · exact ⟨entries, [], rfl, List.not_mem_nil⟩
    · refine ⟨before, after ++ [(name, b)], by simp, ?_⟩
      rw [mem_names_concat]
      exact not_or.2 ⟨hafter, hne⟩

/-! ### What entries are merged to -/

/-- The fields are the names of the entries, each of them once, in order of the places where they come first, and each
with what its last value stands for. -/
structure Merges (R : β → α → Prop) (entries : List (String × β)) (d : Fields α) : Prop where
  names_nodup : (names d).Nodup
  mem_names_iff : ∀ name, name ∈ names d ↔ name ∈ names entries
  first_places : (names d).Pairwise fun x y => (names entries).idxOf x < (names entries).idxOf y
  last_values : ∀ name a, (name, a) ∈ d ↔ ∃ b, IsLast entries name b ∧ R b a

namespace Merges

theorem nil : Merges R [] [] := by
  refine ⟨List.nodup_nil, fun _ => Iff.rfl, List.Pairwise.nil, fun name a => ?_⟩
  simp [IsLast]

theorem first_places_concat (h : Merges R entries d) : (names (put d name a)).Pairwise fun x y =>
    (names (entries ++ [(name, b)])).idxOf x < (names (entries ++ [(name, b)])).idxOf y := by
  have hnames : names (entries ++ [(name, b)]) = names entries ++ [name] := List.map_append
  have hold : ∀ x ∈ names d, (names entries ++ [name]).idxOf x = (names entries).idxOf x :=
    fun x hx => List.idxOf_append_of_mem ((h.mem_names_iff x).1 hx)
  have hkept : (names d).Pairwise fun x y => (names entries ++ [name]).idxOf x < (names entries ++ [name]).idxOf y :=
    h.first_places.imp_of_mem fun hx hy hlt => by rwa [hold _ hx, hold _ hy]
  rw [hnames]
  by_cases hmem : name ∈ names d
  · rwa [names_put_of_mem d a hmem]
  · -- a new name stands behind all entries so far
    have hfresh : name ∉ names entries := fun hin => hmem ((h.mem_names_iff name).2 hin)
    have hput : names (put d name a) = names d ++ [name] := by
      rw [put_of_not_mem d a hmem]
      exact List.map_append
    rw [hput, List.pairwise_append]
    refine ⟨hkept, List.pairwise_singleton _ _, fun x hx y hy => ?_⟩
    cases List.mem_singleton.1 hy
    rw [hold x hx, List.idxOf_append_of_notMem hfresh]
    exact Nat.lt_add_right _ (List.idxOf_lt_length_of_mem ((h.mem_names_iff x).1 hx))

theorem concat (h : Merges R entries d) (hb : ∀ v, R b v ↔ v = a) :
    Merges R (entries ++ [(name, b)]) (put d name a) where
  names_nodup := names_put_nodup name a h.names_nodup
  mem_names_iff x := by
    rw [mem_names_concat, ← h.mem_names_iff]
    by_cases hmem : name ∈ names d
    · rw [names_put_of_mem d a hmem]
      exact ⟨Or.inl, fun hx => hx.elim id fun heq => heq ▸ hmem⟩
    · rw [put_of_not_mem d a hmem, mem_names_concat]
  first_places := h.first_places_concat
  last_values other v := by
    rw [mem_put_iff h.names_nodup, h.last_values]
    simp only [isLast_concat]
    constructor
    · rintro (⟨rfl, rfl⟩ | ⟨hne, c, hlast, hc⟩)
      · exact ⟨b, Or.inl ⟨rfl, rfl⟩, (hb _).2 rfl⟩
      · exact ⟨c, Or.inr ⟨hne, hlast⟩, hc⟩
    · rintro ⟨c, ⟨rfl, rfl⟩ | ⟨hne, hlast⟩, hc⟩
      · exact Or.inl ⟨rfl, (hb _).1 hc⟩
      · exact Or.inr ⟨hne, c, hlast, hc⟩

theorem append (h : Merges R done d)
    (hvalues : List.Forall₂ (fun e r => r.1 = e.1 ∧ ∀ v, R e.2 v ↔ v = r.2) entries values) :
    Merges R (done ++ entries) (values.foldl (fun d e => put d e.1 e.2) d) := by
  induction hvalues generalizing done d with
  | nil => rwa [List.append_nil]
  | @cons e r entries values her _ ih =>
    obtain ⟨name, b⟩ := e
    obtain ⟨_, a⟩ := r
    obtain ⟨rfl, hb⟩ := her
    rw [List.append_cons]
    exact ih (h.concat hb)

end Merges

theorem merges_foldl_put (hd : (names d).Nodup) (values : List (String × α)) :
    Merges Eq (d ++ values) (values.foldl (fun d e => put d e.1 e.2) d) := by
  have hsame : ∀ values : List (String × α),
      List.Forall₂ (fun e r => r.1 = e.1 ∧ ∀ v, e.2 = v ↔ v = r.2) values values :=
    fun _ => List.forall₂_same.2 fun _ _ => ⟨rfl, fun _ => eq_comm⟩
  have hself : Merges Eq d (ofList d) := Merges.nil.append (hsame d)
  rw [ofList_eq_self_iff.2 hd] at hself
  exact hself.append (hsame values)

/-! ### Entries that may stand for no value -/

def build (value : String → β → Except ε α) (entries : List (String × β)) : Except ε (Fields α) := do
  let values ← entries.mapM fun e => do pure (e.1, ← value e.1 e.2)
  pure (ofList values)

/-- What comes of entries: fields just if each of them stands for a value, and otherwise the report on the first one
that does not. -/
structure BuiltFrom (R : β → α → Prop) (report : String → β → ε) (entries : List (String × β))
    (result : Except ε (Fields α)) : Prop where
  ok_iff : (∃ d, result = .ok d) ↔ ∀ e ∈ entries, ∃ a, R e.2 a
  error_iff : ∀ err, result = .error err ↔
    ∃ before name b after, entries = before ++ (name, b) :: after ∧ (∀ e ∈ before, ∃ a, R e.2 a) ∧ (¬∃ a, R b a) ∧
      err = report name b
  merges : ∀ d, result = .ok d → Merges R entries d

section Build

variable {value : String → β → Except ε α} {report : String → β → ε}

theorem build_eq_ok_iff : build value entries = .ok d ↔
    ∃ values, List.Forall₂ (fun e r => r.1 = e.1 ∧ value e.1 e.2 = .ok r.2) entries values ∧ ofList values = d := by
  have hentry : ∀ (e : String × β) (r : String × α),
      (do pure (e.1, ← value e.1 e.2) : Except ε (String × α)) = .ok r ↔ r.1 = e.1 ∧ value e.1 e.2 = .ok r.2 := by
    rintro e ⟨name, a⟩
    cases value e.1 e.2 <;> simp [bind, Except.bind, pure, Except.pure, eq_comm]
  rw [build, bind_eq_ok_iff]
  simp only [mapM_eq_ok_iff, hentry]
  exact exists_congr fun _ => and_congr_right' ⟨Except.ok.inj, congrArg Except.ok⟩

theorem build_eq_error_iff {err : ε} :
    build value entries = .error err ↔ FailsFirst (fun e err => value e.1 e.2 = .error err) entries err := by
  have hentry : ∀ (e : String × β) (err : ε),
      (do pure (e.1, ← value e.1 e.2) : Except ε (String × α)) = .error err ↔ value e.1 e.2 = .error err := by
    intro e err
    cases value e.1 e.2 <;> simp [bind, Except.bind, pure, Except.pure]
  rw [build, bind_eq_error_iff, mapM_eq_error_iff]
  simp only [hentry]
  exact or_iff_left fun ⟨_, _, h⟩ => nomatch h

theorem builtFrom_build (hok : ∀ name b a, value name b = .ok a ↔ R b a)
    (herror : ∀ name b err, value name b = .error err ↔ (¬∃ a, R b a) ∧ err = report name b)
    (entries : List (String × β)) : BuiltFrom R report entries (build value entries) where
  ok_iff := by
    simp only [build_eq_ok_iff, hok]
    constructor
    · rintro ⟨_, values, hvalues, -⟩ e he
      obtain ⟨r, -, -, ha⟩ := exists_right_of_forall₂ hvalues he
      exact ⟨r.2, ha⟩
    · intro h
      have hentries : ∀ e ∈ entries, ∃ r : String × α, r.1 = e.1 ∧ R e.2 r.2 := by
        intro e he
        obtain ⟨a, ha⟩ := h e he
        exact ⟨(e.1, a), rfl, ha⟩
      obtain ⟨values, hvalues⟩ := exists_forall₂ hentries
      exact ⟨_, values, hvalues, rfl⟩
  error_iff err := by
    have hvalue : ∀ e : String × β, (∀ err, value e.1 e.2 ≠ .error err) ↔ ∃ a, R e.2 a := by
      intro e
      simp only [← hok e.1]
      cases value e.1 e.2 <;> simp
    rw [build_eq_error_iff]
    constructor
    · rintro ⟨before, ⟨name, b⟩, after, rfl, hbefore, hfails⟩
      obtain ⟨hb, rfl⟩ := (herror _ _ _).1 hfails
      exact ⟨before, name, b, after, rfl, fun e he => (hvalue e).1 (hbefore e he), hb, rfl⟩
    · rintro ⟨before, name, b, after, rfl, hbefore, hb, rfl⟩
      exact ⟨before, (name, b), after, rfl, fun e he => (hvalue e).2 (hbefore e he), (herror _ _ _).2 ⟨hb, rfl⟩⟩
  merges d h := by
    obtain ⟨values, hvalues, rfl⟩ := build_eq_ok_iff.1 h
    refine Merges.nil.append (hvalues.imp fun e r her => ⟨her.1, fun v => ?_⟩)
    rw [← hok e.1, her.2, Except.ok.injEq, eq_comm]

end Build

end Catalogue.Fields
