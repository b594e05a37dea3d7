import Mathlib.Data.List.Forall2

set_option autoImplicit false

namespace Catalogue

variable {α β σ ε : Type}

/-! ### Lists that correspond -/

theorem exists_right_of_forall₂ {R : α → β → Prop} {l : List α} {bs : List β} (h : List.Forall₂ R l bs) {a : α}
    (ha : a ∈ l) : ∃ b ∈ bs, R a b := by
  induction h with
  | nil => cases ha
  | @cons x y _ _ hxy _ ih =>
    rcases List.mem_cons.1 ha with rfl | ha
    · exact ⟨y, List.mem_cons_self, hxy⟩
    · obtain ⟨b, hb, hab⟩ := ih ha
      exact ⟨b, List.mem_cons_of_mem _ hb, hab⟩

theorem exists_left_of_forall₂ {R : α → β → Prop} {l : List α} {bs : List β} (h : List.Forall₂ R l bs) {b : β}
    (hb : b ∈ bs) : ∃ a ∈ l, R a b :=
  exists_right_of_forall₂ (R := flip R) h.flip hb

theorem exists_forall₂ {R : α → β → Prop} {l : List α} (h : ∀ a ∈ l, ∃ b, R a b) : ∃ bs, List.Forall₂ R l bs := by
  induction l with
  | nil => exact ⟨[], .nil⟩
  | cons a l ih =>
    obtain ⟨b, hb⟩ := h a List.mem_cons_self
    obtain ⟨bs, hbs⟩ := ih fun a' ha' => h a' (List.mem_cons_of_mem _ ha')
    exact ⟨b :: bs, .cons hb hbs⟩

theorem exists_sublist_of_forall₂ {R : α → β → Prop} {l part : List α} {bs : List β} (h : List.Forall₂ R l bs)
    (hpart : part.Sublist l) : ∃ cs, List.Forall₂ R part cs ∧ cs.Sublist bs := by
  induction hpart generalizing bs with
  | slnil => exact ⟨[], .nil, List.nil_sublist _⟩
  | cons a _ ih =>
    obtain ⟨b, bs, _, hbs, rfl⟩ := List.forall₂_cons_left_iff.1 h
    obtain ⟨cs, hcs, hsub⟩ := ih hbs
    exact ⟨cs, hcs, hsub.cons b⟩
  | cons_cons a _ ih =>
    obtain ⟨b, bs, hb, hbs, rfl⟩ := List.forall₂_cons_left_iff.1 h
    obtain ⟨cs, hcs, hsub⟩ := ih hbs
    exact ⟨b :: cs, .cons hb hcs, hsub.cons_cons b⟩

theorem filterMap_sublist_filterMap {f g : α → Option β} (l : List α)
    (h : ∀ a ∈ l, ∀ b, f a = some b → g a = some b) : (l.filterMap f).Sublist (l.filterMap g) := by
  induction l with
  | nil => exact List.Sublist.slnil
  | cons a l ih =>
    have hrest := ih fun x hx => h x (List.mem_cons_of_mem _ hx)
    cases hf : f a with
    | some b =>
      rw [List.filterMap_cons_some hf, List.filterMap_cons_some (h a List.mem_cons_self b hf)]
      exact hrest.cons_cons b
    | none =>
      rw [List.filterMap_cons_none hf]
      cases hg : g a with
      | none => rwa [List.filterMap_cons_none hg]
      | some b =>
        rw [List.filterMap_cons_some hg]
        exact hrest.cons b

/-! ### Runs -/

theorem bind_eq_ok_iff {x : Except ε α} {f : α → Except ε β} {b : β} :
    x >>= f = .ok b ↔ ∃ a, x = .ok a ∧ f a = .ok b := by
  cases x <;> simp [bind, Except.bind]

theorem bind_eq_error_iff {x : Except ε α} {f : α → Except ε β} {e : ε} :
    x >>= f = .error e ↔ x = .error e ∨ ∃ a, x = .ok a ∧ f a = .error e := by
  cases x <;> simp [bind, Except.bind]

theorem eq_of_map_eq_ok {x : Except ε α} {s t : σ} (h : (x.map fun _ => s) = .ok t) : s = t := by
  cases x with
  | error e => cases h
  | ok a => exact Except.ok.inj h

theorem mapM_eq_ok {f : α → Except ε β} {g : α → β} (l : List α) (h : ∀ a ∈ l, f a = .ok (g a)) :
    l.mapM f = .ok (l.map g) := by
  induction l with
  | nil => rfl
  | cons a l ih =>
    rw [List.mapM_cons, h a List.mem_cons_self, ih fun b hb => h b (List.mem_cons_of_mem _ hb)]
    rfl

theorem mapM_eq_ok_iff {f : α → Except ε β} {l : List α} {bs : List β} :
    l.mapM f = .ok bs ↔ List.Forall₂ (fun a b => f a = .ok b) l bs := by
  induction l generalizing bs with
  | nil =>
    rw [List.forall₂_nil_left_iff]
    exact ⟨fun h => (Except.ok.inj h).symm, fun h => h ▸ rfl⟩
  | cons a l ih =>
    rw [List.mapM_cons, bind_eq_ok_iff, List.forall₂_cons_left_iff]
    refine exists_congr fun b => ?_
    rw [bind_eq_ok_iff]
    constructor
    · rintro ⟨hb, bs', hbs', heq⟩
      exact ⟨bs', hb, ih.1 hbs', (Except.ok.inj heq).symm⟩
    · rintro ⟨bs', hb, hbs', rfl⟩
      exact ⟨hb, bs', ih.2 hbs', rfl⟩

/-- A fold whose steps read something that may fail, and then change the state in a way that cannot. -/
theorem foldlM_eq_ok_iff {step : σ → α → Except ε σ} (change : σ → β → σ) {R : α → β → Prop}
    (hstep : ∀ s a t, step s a = .ok t ↔ ∃ b, R a b ∧ change s b = t) {l : List α} {s t : σ} :
    l.foldlM step s = .ok t ↔ ∃ bs, List.Forall₂ R l bs ∧ bs.foldl change s = t := by
  induction l generalizing s with
  | nil => simp [pure, Except.pure]
  | cons a l ih =>
    rw [List.foldlM_cons, bind_eq_ok_iff]
    constructor
    · rintro ⟨u, hu, ht⟩
      obtain ⟨b, hb, rfl⟩ := (hstep s a u).1 hu
      obtain ⟨bs, hbs, rfl⟩ := ih.1 ht
      exact ⟨b :: bs, .cons hb hbs, rfl⟩
    · rintro ⟨bs, hbs, rfl⟩
      obtain ⟨b, bs', hb, hbs', rfl⟩ := List.forall₂_cons_left_iff.1 hbs
      exact ⟨change s b, (hstep s a _).2 ⟨b, hb, rfl⟩, ih.2 ⟨bs', hbs', rfl⟩⟩

def FailsFirst (R : α → ε → Prop) (l : List α) (e : ε) : Prop :=
  ∃ before a after, l = before ++ a :: after ∧ (∀ b ∈ before, ∀ e, ¬R b e) ∧ R a e

namespace FailsFirst

variable {R : α → ε → Prop} {a : α} {l : List α} {e : ε}

theorem not_nil : ¬FailsFirst R [] e := by
  rintro ⟨before, a, after, h, -⟩
  exact List.cons_ne_nil _ _ (List.append_eq_nil_iff.1 h.symm).2

theorem cons_iff : FailsFirst R (a :: l) e ↔ R a e ∨ (∀ e, ¬R a e) ∧ FailsFirst R l e := by
  constructor
  · rintro ⟨before, b, after, heq, hbefore, hb⟩
    cases before with
    | nil =>
      cases heq
      exact Or.inl hb
    | cons c before =>
      obtain ⟨rfl, rfl⟩ := List.cons.inj heq
      obtain ⟨hc, hrest⟩ := List.forall_mem_cons.1 hbefore
      exact Or.inr ⟨hc, before, b, after, rfl, hrest, hb⟩
  · rintro (ha | ⟨ha, before, b, after, rfl, hbefore, hb⟩)
    · exact ⟨[], a, l, rfl, nofun, ha⟩
    · exact ⟨a :: before, b, after, rfl, List.forall_mem_cons.2 ⟨ha, hbefore⟩, hb⟩

theorem append_iff {l' : List α} :
    FailsFirst R (l ++ l') e ↔ FailsFirst R l e ∨ (∀ a ∈ l, ∀ e, ¬R a e) ∧ FailsFirst R l' e := by
  induction l with
  | nil => simp [not_nil]
  | cons a l ih =>
    rw [List.cons_append, cons_iff, cons_iff, ih, List.forall_mem_cons, and_or_left, or_assoc, and_assoc]

theorem exists_iff : (∃ e, FailsFirst R l e) ↔ ∃ a ∈ l, ∃ e, R a e := by
  induction l with
  | nil => simp [not_nil]
  | cons a l ih =>
    simp only [cons_iff, exists_or, exists_and_left, ih, List.exists_mem_cons_iff]
    constructor
    · exact Or.imp_right And.right
    · by_cases ha : ∃ e, R a e
      · exact fun _ => Or.inl ha
      · exact Or.imp_right fun h => ⟨not_exists.1 ha, h⟩

end FailsFirst

theorem mapM_eq_error_iff {f : α → Except ε β} {l : List α} {e : ε} :
    l.mapM f = .error e ↔ FailsFirst (fun a e => f a = .error e) l e := by
  induction l with
  | nil => exact iff_of_false nofun FailsFirst.not_nil
  | cons a l ih =>
    rw [List.mapM_cons, bind_eq_error_iff, FailsFirst.cons_iff, ← ih]
    refine or_congr_right ?_
    cases f a with
    | error d => simp
    | ok b => simp [bind_eq_error_iff, pure, Except.pure]

theorem foldlM_eq_error_iff {step : σ → α → Except ε σ} {R : α → ε → Prop}
    (hstep : ∀ s a e, step s a = .error e ↔ R a e) {l : List α} {s : σ} {e : ε} :
    l.foldlM step s = .error e ↔ FailsFirst R l e := by
  induction l generalizing s with
  | nil => exact iff_of_false nofun FailsFirst.not_nil
  | cons a l ih =>
    rw [List.foldlM_cons, bind_eq_error_iff, FailsFirst.cons_iff, hstep]
    refine or_congr_right ?_
    simp only [← hstep s a]
    cases step s a with
    | error d => simp
    | ok t => simp [ih]

/-! ### Tests that can fail -/

theorem allM_eq_ok_true_iff {f : α → Except ε Bool} {l : List α} :
    l.allM f = .ok true ↔ ∀ a ∈ l, f a = .ok true := by
  induction l with
  | nil => simp [List.allM, pure, Except.pure]
  | cons a l ih =>
    rw [List.allM, bind_eq_ok_iff, List.forall_mem_cons, ← ih]
    constructor
    · rintro ⟨b, hb, hrest⟩
      cases b with
      | false => cases hrest
      | true => exact ⟨hb, hrest⟩
    · rintro ⟨ha, hrest⟩
      exact ⟨true, ha, hrest⟩

theorem exists_allM_eq_ok {f : α → Except ε Bool} {l : List α} (h : ∀ a ∈ l, ∃ b, f a = .ok b) :
    ∃ b, l.allM f = .ok b := by
  induction l with
  | nil => exact ⟨true, rfl⟩
  | cons a l ih =>
    obtain ⟨b, hb⟩ := h a List.mem_cons_self
    obtain ⟨r, hr⟩ := ih fun x hx => h x (List.mem_cons_of_mem _ hx)
    rw [List.allM, hb]
    cases b with
    | false => exact ⟨false, rfl⟩
    | true => exact ⟨r, hr⟩

/-- A test has an answer, and it is yes just where the proposition holds. -/
def Answers (test : Except ε Bool) (p : Prop) : Prop := ∃ b, test = .ok b ∧ (b = true ↔ p)

namespace Answers

variable {test : Except ε Bool} {p q : Prop} {f : α → Except ε Bool} {a : α} {l : List α}

theorem of_eq {b : Bool} (h : test = .ok b) (hb : b = true ↔ p) : Answers test p := ⟨b, h, hb⟩

theorem congr (h : Answers test p) (hpq : p ↔ q) : Answers test q := by
  obtain ⟨b, hb, hp⟩ := h
  exact ⟨b, hb, hp.trans hpq⟩

theorem allM_nil (f : α → Except ε Bool) : Answers ([].allM f) True := ⟨true, rfl, by simp⟩

theorem allM_cons (h : Answers (f a) p) (hrest : Answers (l.allM f) q) : Answers ((a :: l).allM f) (p ∧ q) := by
  obtain ⟨b, hb, hp⟩ := h
  obtain ⟨r, hr, hq⟩ := hrest
  rw [← hp, ← hq, List.allM, hb]
  cases b with
  | false => exact ⟨false, rfl, by simp⟩
  | true => exact ⟨r, hr, by simp⟩

theorem allM_of_forall₂ {P : β → Prop} {bs : List β} (h : List.Forall₂ (fun b a => Answers (f a) (P b)) bs l) :
    Answers (l.allM f) (∀ b ∈ bs, P b) := by
  induction h with
  | nil => exact (allM_nil f).congr (by simp)
  | cons hab _ ih => exact (allM_cons hab ih).congr List.forall_mem_cons.symm

end Answers

end Catalogue
