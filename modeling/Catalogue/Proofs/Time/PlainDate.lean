import Catalogue.Proofs.Time.DateTime

set_option autoImplicit false

namespace Catalogue

open Digits (IsNumeral)

theorem Digits.isBlank_of_isDigit {c : Char} (h : c.isDigit = true) : Unicode.isBlank c = false := by
  have hc : 48 ≤ c.toNat ∧ c.toNat ≤ 57 := by simpa [Char.isDigit, UInt32.le_iff_toNat_le] using h
  simp only [Unicode.isBlank, Unicode.inRanges, Unicode.blankRanges, List.any_cons, List.any_nil, Bool.or_false,
    Bool.or_eq_false_iff, decide_eq_false_iff_not]
  omega

namespace Bound

variable {b cs ds rest y m : List Char} {d : Day} {t : Instant}

/-! ### The form -/

def AllBlank (b : List Char) : Prop := ∀ c ∈ b, Unicode.isBlank c = true

/-- A year of one to four digits, or of any number of digits after a sign. -/
inductive IsYear : List Char → Int → Prop
  | unsigned {ds : List Char} (h : IsNumeral 1 4 ds) : IsYear ds (Digits.value ds)
  | plus {ds : List Char} (h : IsNumeral 1 ds.length ds) : IsYear ('+' :: ds) (Digits.value ds)
  | minus {ds : List Char} (h : IsNumeral 1 ds.length ds) : IsYear ('-' :: ds) (-(Digits.value ds : Int))

/-- A year, a month and a day with dashes between them, each of them behind any blanks, that name a day of the
calendar. -/
def IsPlainDate (cs : List Char) (d : Day) : Prop :=
  ∃ b₁ y b₂ m b₃ ds, cs = b₁ ++ (y ++ '-' :: (b₂ ++ (m ++ '-' :: (b₃ ++ ds)))) ∧
    (AllBlank b₁ ∧ AllBlank b₂ ∧ AllBlank b₃) ∧
    IsYear y d.year ∧ (IsNumeral 1 2 m ∧ d.month = Digits.value m) ∧ (IsNumeral 1 2 ds ∧ d.day = Digits.value ds) ∧
    d.Valid ∧ leastYear ≤ d.year ∧ d.year ≤ mostYear

def IsUsualDate (cs : List Char) (d : Day) : Prop :=
  ∃ y m ds, cs = y ++ '-' :: (m ++ '-' :: ds) ∧ (IsNumeral 4 4 y ∧ d.year = Digits.value y) ∧
    (IsNumeral 2 2 m ∧ d.month = Digits.value m) ∧ (IsNumeral 2 2 ds ∧ d.day = Digits.value ds) ∧ d.Valid

/-! ### Reading -/

theorem allBlank_takeWhile (cs : List Char) : AllBlank (cs.takeWhile Unicode.isBlank) := fun _ hc =>
  List.mem_takeWhile_imp hc

theorem dropWhile_blank (hb : AllBlank b) (hds : IsNumeral 1 ds.length ds) (rest : List Char) :
    (b ++ (ds ++ rest)).dropWhile Unicode.isBlank = ds ++ rest := by
  rw [List.dropWhile_append_of_pos hb]
  cases ds with
  | nil => exact absurd hds.2.1 (by decide)
  | cons c ds => exact List.dropWhile_cons_of_neg (by simp [Digits.isBlank_of_isDigit (hds.1 c List.mem_cons_self)])

theorem number?_blank_append (hb : AllBlank b) (hds : IsNumeral 1 2 ds) (hend : ∀ c ∈ rest.head?, c.isDigit = false) :
    number? 1 2 ((b ++ (ds ++ rest)).dropWhile Unicode.isBlank) = some (Digits.value ds, rest) := by
  rw [dropWhile_blank hb ⟨hds.1, hds.2.1, le_rfl⟩]
  exact number?_append hds (Or.inr hend)

theorem exists_blank_numeral {n : Nat} (h : number? 1 2 (cs.dropWhile Unicode.isBlank) = some (n, rest)) :
    ∃ b ds, cs = b ++ (ds ++ rest) ∧ AllBlank b ∧ IsNumeral 1 2 ds ∧ n = Digits.value ds := by
  obtain ⟨ds, hds, hnumeral, hn⟩ := exists_numeral h
  exact ⟨_, ds, hds ▸ List.takeWhile_append_dropWhile.symm, allBlank_takeWhile cs, hnumeral, hn⟩

theorem number?_signed (hds : IsNumeral 1 ds.length ds) (rest : List Char) :
    number? 1 (ds ++ '-' :: rest).length (ds ++ '-' :: rest) = some (Digits.value ds, '-' :: rest) := by
  refine number?_append (hds.mono le_rfl ?_) (Or.inr ?_)
  · rw [List.length_append]
    exact Nat.le_add_right _ _
  · rintro _ ⟨⟩
    rfl

theorem year?_append {year : Int} (hb : AllBlank b) (hy : IsYear y year) (rest : List Char) :
    year? (b ++ (y ++ '-' :: rest)) = some (year, '-' :: rest) := by
  unfold year?
  cases hy with
  | unsigned hds =>
    have hread : number? 1 4 (y ++ '-' :: rest) = some (Digits.value y, '-' :: rest) := by
      refine number?_append hds (Or.inr ?_)
      rintro _ ⟨⟩
      rfl
    rw [dropWhile_blank hb ⟨hds.1, hds.2.1, le_rfl⟩]
    cases y with
    | nil => exact absurd hds.2.1 (by decide)
    | cons c y =>
      have hc := hds.1 c List.mem_cons_self
      split
      · next heq =>
        cases heq
        cases hc
      · next heq =>
        cases heq
        cases hc
      · rw [hread]
        rfl
  | plus hds =>
    rw [List.dropWhile_append_of_pos hb, List.cons_append, List.dropWhile_cons_of_neg (by decide)]
    exact congrArg (Option.map fun p => ((p.1 : Int), p.2)) (number?_signed hds rest)
  | minus hds =>
    rw [List.dropWhile_append_of_pos hb, List.cons_append, List.dropWhile_cons_of_neg (by decide)]
    exact congrArg (Option.map fun p => (-(p.1 : Int), p.2)) (number?_signed hds rest)

theorem exists_of_year? {year : Int} (h : year? cs = some (year, rest)) :
    ∃ b y, cs = b ++ (y ++ rest) ∧ AllBlank b ∧ IsYear y year := by
  unfold year? at h
  split at h
  · next more hmore =>
    obtain ⟨⟨n, _⟩, hn, h⟩ := Option.map_eq_some_iff.1 h
    cases h
    obtain ⟨ds, rfl, hds, rfl⟩ := exists_numeral hn
    refine ⟨_, '-' :: ds, ?_, allBlank_takeWhile cs, .minus ⟨hds.1, hds.2.1, le_rfl⟩⟩
    rw [List.cons_append, ← hmore, List.takeWhile_append_dropWhile]
  · next more hmore =>
    obtain ⟨⟨n, _⟩, hn, h⟩ := Option.map_eq_some_iff.1 h
    cases h
    obtain ⟨ds, rfl, hds, rfl⟩ := exists_numeral hn
    refine ⟨_, '+' :: ds, ?_, allBlank_takeWhile cs, .plus ⟨hds.1, hds.2.1, le_rfl⟩⟩
    rw [List.cons_append, ← hmore, List.takeWhile_append_dropWhile]
  · obtain ⟨⟨n, _⟩, hn, h⟩ := Option.map_eq_some_iff.1 h
    cases h
    obtain ⟨ds, hmore, hds, rfl⟩ := exists_numeral hn
    exact ⟨_, ds, hmore ▸ List.takeWhile_append_dropWhile.symm, allBlank_takeWhile cs, .unsigned hds⟩

theorem isPlainDate_of_date? (h : date? cs = some d) : IsPlainDate cs d := by
  obtain ⟨⟨year, cs₁⟩, hyear, h⟩ := Option.bind_eq_some_iff.1 h
  obtain ⟨cs₂, hdash, h⟩ := Option.bind_eq_some_iff.1 h
  obtain ⟨⟨month, cs₃⟩, hmonth, h⟩ := Option.bind_eq_some_iff.1 h
  obtain ⟨cs₄, hdash', h⟩ := Option.bind_eq_some_iff.1 h
  obtain ⟨⟨day, cs₅⟩, hday, h⟩ := Option.bind_eq_some_iff.1 h
  dsimp only at hyear hdash hmonth hdash' hday h
  split at h
  · next hvalid =>
    cases h
    obtain ⟨b₁, y, rfl, hb₁, hy⟩ := exists_of_year? hyear
    obtain rfl := char?_eq_some_iff.1 hdash
    obtain ⟨b₂, m, rfl, hb₂, hm, hvm⟩ := exists_blank_numeral hmonth
    obtain rfl := char?_eq_some_iff.1 hdash'
    obtain ⟨b₃, ds, rfl, hb₃, hds, hvd⟩ := exists_blank_numeral hday
    obtain ⟨rfl, hvalid⟩ := hvalid
    exact ⟨b₁, y, b₂, m, b₃, ds, by rw [List.append_nil], ⟨hb₁, hb₂, hb₃⟩, hy, ⟨hm, hvm⟩, ⟨hds, hvd⟩, hvalid⟩
  · cases h

theorem date?_of_isPlainDate (h : IsPlainDate cs d) : date? cs = some d := by
  obtain ⟨b₁, y, b₂, m, b₃, ds, rfl, ⟨hb₁, hb₂, hb₃⟩, hy, ⟨hm, hmonth⟩, ⟨hds, hday⟩, hvalid, hleast, hmost⟩ := h
  have hend : ∀ c ∈ ('-' :: (b₃ ++ ds)).head?, c.isDigit = false := by
    rintro _ ⟨⟩
    rfl
  have hread := dropWhile_blank hb₃ ⟨hds.1, hds.2.1, le_rfl⟩ []
  rw [List.append_nil] at hread
  obtain ⟨year, month, day⟩ := d
  dsimp only at hmonth hday hy hleast hmost
  subst hmonth hday
  simp only [date?, year?_append hb₁ hy, Option.bind_eq_bind, Option.bind_some, char?, if_true,
    number?_blank_append hb₂ hm hend, hread, number?_self hds, hvalid, hleast, hmost, and_self]

theorem date?_eq_some_iff : date? cs = some d ↔ IsPlainDate cs d :=
  ⟨isPlainDate_of_date?, date?_of_isPlainDate⟩

/-! ### The usual form -/

theorem IsUsualDate.isPlainDate (h : IsUsualDate cs d) : IsPlainDate cs d := by
  obtain ⟨y, m, ds, rfl, ⟨hy, hyear⟩, ⟨hm, hmonth⟩, ⟨hds, hday⟩, hvalid⟩ := h
  have hlt : Digits.value y < 10 ^ 4 :=
    (Digits.value_lt hy.1).trans_le (Nat.pow_le_pow_right (by decide) hy.2.2)
  have hnone : AllBlank [] := nofun
  refine ⟨[], y, [], m, [], ds, rfl, ⟨hnone, hnone, hnone⟩, ?_, ⟨hm.mono (by decide) le_rfl, hmonth⟩,
    ⟨hds.mono (by decide) le_rfl, hday⟩, hvalid, ?_, ?_⟩
  · rw [hyear]
    exact .unsigned (hy.mono (by decide) le_rfl)
  · simp only [leastYear]
    omega
  · simp only [mostYear]
    omega

theorem eq_nil_of_allBlank (hb : AllBlank b) (h : ∀ c ∈ b, Unicode.isBlank c = false) : b = [] := by
  cases b with
  | nil => rfl
  | cons c b => exact Bool.noConfusion ((hb c List.mem_cons_self).symm.trans (h c List.mem_cons_self))

theorem isUsualDate_iff (h : IsPlainDate cs d) : IsUsualDate cs d ↔
    cs.length = 10 ∧ (∀ c ∈ cs.head?, c.isDigit = true) ∧ ∀ c ∈ cs, Unicode.isBlank c = false := by
  constructor
  · rintro ⟨y, m, ds, rfl, ⟨hy, -⟩, ⟨hm, -⟩, ⟨hds, -⟩, -⟩
    have hdash : Unicode.isBlank '-' = false := by decide
    refine ⟨?_, ?_, ?_⟩
    · simp only [List.length_append, List.length_cons, le_antisymm hy.2.2 hy.2.1, le_antisymm hm.2.2 hm.2.1,
        le_antisymm hds.2.2 hds.2.1]
    · cases y with
      | nil => exact absurd hy.2.1 (by decide)
      | cons c y =>
        rintro _ ⟨⟩
        exact hy.1 c List.mem_cons_self
    · simp only [List.mem_append, List.mem_cons]
      rintro c (hc | rfl | hc | rfl | hc)
      · exact Digits.isBlank_of_isDigit (hy.1 c hc)
      · exact hdash
      · exact Digits.isBlank_of_isDigit (hm.1 c hc)
      · exact hdash
      · exact Digits.isBlank_of_isDigit (hds.1 c hc)
  · rintro ⟨hlength, hfirst, hblank⟩
    obtain ⟨b₁, y, b₂, m, b₃, ds, rfl, ⟨hb₁, hb₂, hb₃⟩, hy, ⟨hm, hmonth⟩, ⟨hds, hday⟩, hvalid, -⟩ := h
    obtain rfl : b₁ = [] := eq_nil_of_allBlank hb₁ fun c hc => hblank c (by simp [hc])
    obtain rfl : b₂ = [] := eq_nil_of_allBlank hb₂ fun c hc => hblank c (by simp [hc])
    obtain rfl : b₃ = [] := eq_nil_of_allBlank hb₃ fun c hc => hblank c (by simp [hc])
    obtain ⟨year, month, day⟩ := d
    dsimp only at hy hmonth hday
    -- a sign is no digit, and eight digits fill the three numbers
    cases hy with
    | unsigned hy =>
      have hwidths : y.length = 4 ∧ m.length = 2 ∧ ds.length = 2 := by
        obtain ⟨⟨-, -, hy⟩, ⟨-, -, hm⟩, -, -, hds⟩ := And.intro hy (And.intro hm hds)
        simp only [List.nil_append, List.length_append, List.length_cons] at hlength
        omega
      exact ⟨y, m, ds, rfl, ⟨⟨hy.1, hwidths.1.ge, hwidths.1.le⟩, rfl⟩,
        ⟨⟨hm.1, hwidths.2.1.ge, hwidths.2.1.le⟩, hmonth⟩, ⟨⟨hds.1, hwidths.2.2.ge, hwidths.2.2.le⟩, hday⟩, hvalid⟩
    | plus hy => cases hfirst '+' rfl
    | minus hy => cases hfirst '-' rfl

/-! ### Beside dates with times -/

theorem IsPlainDate.valid (h : IsPlainDate cs d) : d.Valid := by
  obtain ⟨_, _, _, _, _, _, -, -, -, -, -, hvalid, -⟩ := h
  exact hvalid

theorem IsYear.mem {year : Int} {c : Char} (h : IsYear y year) (hc : c ∈ y) :
    c.isDigit = true ∨ c = '-' ∨ c = '+' := by
  cases h with
  | unsigned h => exact Or.inl (h.1 c hc)
  | plus h => exact (List.mem_cons.1 hc).elim (Or.inr ∘ Or.inr) fun hc => Or.inl (h.1 c hc)
  | minus h => exact (List.mem_cons.1 hc).elim (Or.inr ∘ Or.inl) fun hc => Or.inl (h.1 c hc)

theorem IsPlainDate.mem {c : Char} (h : IsPlainDate cs d) (hc : c ∈ cs) :
    Unicode.isBlank c = true ∨ c.isDigit = true ∨ c = '-' ∨ c = '+' := by
  obtain ⟨b₁, y, b₂, m, b₃, ds, rfl, ⟨hb₁, hb₂, hb₃⟩, hy, ⟨hm, -⟩, ⟨hds, -⟩, -⟩ := h
  simp only [List.mem_append, List.mem_cons] at hc
  rcases hc with hc | hc | rfl | hc | hc | rfl | hc | hc
  · exact Or.inl (hb₁ c hc)
  · exact Or.inr (hy.mem hc)
  · exact Or.inr (Or.inr (Or.inl rfl))
  · exact Or.inl (hb₂ c hc)
  · exact Or.inr (Or.inl (hm.1 c hc))
  · exact Or.inr (Or.inr (Or.inl rfl))
  · exact Or.inl (hb₃ c hc)
  · exact Or.inr (Or.inl (hds.1 c hc))

theorem IsPlainDate.not_mem {c : Char} (h : IsPlainDate cs d)
    (hc : ¬(Unicode.isBlank c = true ∨ c.isDigit = true ∨ c = '-' ∨ c = '+')) : c ∉ cs :=
  fun hmem => hc (h.mem hmem)

theorem IsPlainDate.not_isDateTime (h : IsPlainDate cs d) (t : Instant) : ¬IsDateTime cs t := fun ht =>
  h.not_mem (by decide) ht.colon_mem

/-! ### Both forms -/

theorem read_eq_some_iff : read cs = some t ↔ IsDateTime cs t ∨ ∃ d, IsPlainDate cs d ∧ t = .midnight d := by
  unfold read
  rw [← dateTime?_eq_some_iff]
  simp only [← date?_eq_some_iff]
  cases hdateTime : dateTime? cs with
  | some u =>
    have hplain (d : Day) : date? cs ≠ some d := fun hd =>
      (date?_eq_some_iff.1 hd).not_isDateTime u (dateTime?_eq_some_iff.1 hdateTime)
    simp [hplain]
  | none => simp [eq_comm]

theorem isProper_read (h : read cs = some t) : t.IsProper := by
  rcases read_eq_some_iff.1 h with ht | ⟨d, -, rfl⟩
  · exact ht.isProper
  · exact Instant.isProper_midnight d

theorem read_text (h : t.IsProper) (h0 : 0 ≤ t.day.year) (h1 : t.day.year ≤ 9999) : read t.text = some t :=
  read_eq_some_iff.2 (Or.inl (Instant.isDateTime_text h h0 h1))

/-- A year that has a sign is not read as that of a date and time, and the time keeps the text from being a plain
date. -/
theorem read_text_eq_none (h : ¬(0 ≤ t.day.year ∧ t.day.year ≤ 9999)) : read t.text = none := by
  have htime : 'T' ∈ t.text := by simp [Instant.text]
  have hsign : ∃ c rest, t.text = c :: rest ∧ c.isDigit = false := by
    simp only [Instant.text, Instant.yearText, if_neg h, List.append_assoc, List.cons_append]
    split
    · exact ⟨_, _, rfl, rfl⟩
    · exact ⟨_, _, rfl, rfl⟩
  rw [Option.eq_none_iff_forall_ne_some]
  intro u hu
  rcases read_eq_some_iff.1 hu with ht | ⟨d, hd, -⟩
  · obtain ⟨c, rest, htext, hc⟩ := hsign
    obtain ⟨y, mo, da, sep, hr, mi, sec, f, nanos, o, offset, heq, ⟨hy, -⟩, -⟩ := ht
    rw [htext] at heq
    cases y with
    | nil => exact absurd hy.2.1 (by decide)
    | cons e y =>
      obtain ⟨rfl, -⟩ := List.cons.inj heq
      exact Bool.noConfusion (hc.symm.trans (hy.1 c List.mem_cons_self))
  · exact hd.not_mem (by decide) htime

end Bound

theorem Instant.day_midnight {d : Day} (h : d.Valid) : (midnight d).day = d := by
  rw [day, midnight, Int.mul_ediv_cancel _ (by decide), Day.ofNumber_number h]

end Catalogue
