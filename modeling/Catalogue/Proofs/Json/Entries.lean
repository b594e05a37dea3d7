import Catalogue.Proofs.Json.Writing

set_option autoImplicit false

namespace Catalogue.Json

variable {α β ε : Type} {d : Decoder α} {entries : List (String × α)} {text : String} {a : α}

def IsEntry (d : Decoder α) (f : Key × Reading) (e : String × α) : Prop := f.1 = .named e.1 ∧ d f.2 = .ok e.2

/-- The text is an object of these entries in their order, whether or not names come again. -/
def HoldsEntries (d : Decoder α) (text : String) (entries : List (String × α)) : Prop :=
  ∃ fields, read text = (.object fields none, []) ∧ List.Forall₂ (IsEntry d) fields entries

theorem decodeFields_eq_ok_iff {fields : List (Key × Reading)} {stop : Option Fault} :
    decodeFields d fields stop = .ok entries ↔ stop = none ∧ List.Forall₂ (IsEntry d) fields entries := by
  induction fields generalizing entries with
  | nil => cases stop <;> simp [decodeFields, ofFault, Except.map, eq_comm]
  | cons f fields ih =>
    obtain ⟨key, r⟩ := f
    rw [decodeFields, List.forall₂_cons_left_iff]
    simp only [bind_eq_ok_iff, ih, IsEntry]
    constructor
    · rintro ⟨name, hname, a, ha, rest, ⟨rfl, hrest⟩, heq⟩
      cases key with
      | flawed f g => cases hname
      | named s =>
        cases hname
        exact ⟨rfl, _, rest, ⟨rfl, ha⟩, hrest, (Except.ok.inj heq).symm⟩
    · rintro ⟨rfl, ⟨name, a⟩, rest, ⟨rfl, ha⟩, hrest, rfl⟩
      exact ⟨name, rfl, a, ha, rest, ⟨rfl, hrest⟩, rfl⟩

theorem decodeText_bind (h : decodeText d text = .ok a) (make : α → Except Error β) :
    decodeText (fun r => d r >>= make) text = make a := by
  obtain ⟨ha, hrest⟩ := decodeText_eq_ok_iff.1 h
  rw [decodeText_eq, ha, hrest]
  cases hmake : make a <;> simp [bind, Except.bind, hmake]

theorem decodeText_decodeEntries_iff (expected : String) :
    decodeText (decodeEntries expected d) text = .ok entries ↔ HoldsEntries d text entries := by
  rw [decodeText_eq_ok_iff]
  constructor
  · rintro ⟨hdecode, hrest⟩
    rcases hread : read text with ⟨r, rest⟩
    rw [hread] at hdecode hrest
    cases r with
    | object fields stop =>
      obtain ⟨rfl, hentries⟩ := decodeFields_eq_ok_iff.1 hdecode
      exact ⟨fields, hrest ▸ hread, hentries⟩
    | _ => cases hdecode
  · rintro ⟨fields, hread, hentries⟩
    rw [hread]
    exact ⟨decodeFields_eq_ok_iff.2 ⟨rfl, hentries⟩, rfl⟩

theorem holdsEntries_write {fields : List (String × String)}
    (h : List.Forall₂ (fun f e => f.1 = e.1 ∧ d (.string f.2) = .ok e.2) fields entries) :
    HoldsEntries d (write (.object (fields.map fun f => (f.1, string f.2)))) entries := by
  refine ⟨fields.map fun f => (.named f.1, .string f.2), read_write_object ?_, ?_⟩
  · rw [List.forall₂_map_left_iff, List.forall₂_map_right_iff, List.forall₂_same]
    exact fun f _ => ⟨rfl, readsAs_string f.2⟩
  · rw [List.forall₂_map_left_iff]
    exact h.imp fun f e hf => ⟨congrArg Key.named hf.1, hf.2⟩

/-- A text gives what is made of the entries that it holds, and one that holds no entries gives nothing. -/
structure MakesOfEntries (d : Decoder α) (make : List (String × α) → Except ε β) (parse : String → Except ε β) :
    Prop where
  eq_of_holds : ∀ text entries, HoldsEntries d text entries → parse text = make entries
  holds_of_ok : ∀ text b, parse text = .ok b → ∃ entries, HoldsEntries d text entries

theorem makesOfEntries_decodeText (d : Decoder α) (expected : String)
    (make : List (String × α) → Except Error β) :
    MakesOfEntries d make (decodeText fun r => decodeEntries expected d r >>= make) where
  eq_of_holds _ _ h := decodeText_bind ((decodeText_decodeEntries_iff expected).2 h) make
  holds_of_ok text b h := by
    obtain ⟨hb, hrest⟩ := decodeText_eq_ok_iff.1 h
    obtain ⟨entries, hentries, -⟩ := bind_eq_ok_iff.1 hb
    exact ⟨entries, (decodeText_decodeEntries_iff expected).1 (decodeText_eq_ok_iff.2 ⟨hentries, hrest⟩)⟩

end Catalogue.Json
