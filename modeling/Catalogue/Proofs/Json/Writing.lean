import Catalogue.Json.Decode
import Catalogue.Proofs.Steps

set_option autoImplicit false

namespace Catalogue.Json

variable {fuel depth : Nat} {c : Char} {cs more rest : List Char} {r : Reading}

/-! ### Strings -/

theorem hex?_digitChar : ∀ d < 16, Digits.hex? (Nat.digitChar d) = some d := by decide

theorem hexUnit_control (h : c.toNat < 32) : hexUnit
    ('0' :: '0' :: Nat.digitChar (c.toNat / 16) :: Nat.digitChar (c.toNat % 16) :: more) = .ok c.toNat := by
  have hzero : Digits.hex? '0' = some 0 := by decide
  have hsixteens := hex?_digitChar (c.toNat / 16) (by omega)
  have hones := hex?_digitChar (c.toNat % 16) (Nat.mod_lt _ (by decide))
  simp only [hexUnit, hzero, hsixteens, hones, Except.ok.injEq]
  omega

theorem scanString_escapeChar (fuel : Nat) (c : Char) (more : List Char) :
    scanString (fuel + 1) (escapeChar c ++ more) = (scanString fuel more).push c := by
  unfold escapeChar
  split_ifs with hquote hslash hb hf hn hr ht hcontrol
  · subst hquote
    rfl
  · subst hslash
    rfl
  · subst hb
    rfl
  · subst hf
    rfl
  · subst hn
    rfl
  · subst hr
    rfl
  · subst ht
    rfl
  · have hsurrogate : isTrailing c.toNat = false ∧ isLeading c.toNat = false := by
      simp only [isTrailing, isLeading, decide_eq_false_iff_not]
      omega
    simp [scanString, hexUnit_control hcontrol, hsurrogate, Char.ofNat_toNat]
  · simp [scanString, hquote, hslash, hcontrol]

theorem scanString_flatMap (cs rest : List Char) (h : cs.length < fuel) :
    scanString fuel (cs.flatMap escapeChar ++ '"' :: rest) = ⟨none, cs, .ok rest⟩ := by
  obtain ⟨fuel, rfl⟩ := Nat.exists_eq_succ_of_ne_zero (Nat.ne_zero_of_lt h)
  induction cs generalizing fuel with
  | nil => rfl
  | cons c cs ih =>
    obtain ⟨fuel, rfl⟩ := Nat.exists_eq_succ_of_ne_zero (Nat.ne_zero_of_lt (Nat.lt_of_succ_lt_succ h))
    rw [List.flatMap_cons, List.append_assoc, scanString_escapeChar, ih fuel (Nat.lt_of_succ_lt_succ h)]
    rfl

theorem one_le_length_escapeChar (c : Char) : 1 ≤ (escapeChar c).length := by
  unfold escapeChar
  split_ifs <;> simp

theorem length_le_length_flatMap (cs : List Char) : cs.length ≤ (cs.flatMap escapeChar).length := by
  induction cs with
  | nil => exact Nat.le_refl _
  | cons c cs ih =>
    have hc := one_le_length_escapeChar c
    simp only [List.flatMap_cons, List.length_append, List.length_cons]
    omega

theorem scanString_quote (s : String) (rest : List Char) :
    scanString ((s.toList.flatMap escapeChar ++ '"' :: rest).length + 1) (s.toList.flatMap escapeChar ++ '"' :: rest) =
      ⟨none, s.toList, .ok rest⟩ := by
  refine scanString_flatMap _ rest ?_
  have hlength := length_le_length_flatMap s.toList
  simp only [List.length_append]
  omega

theorem quote_append (s : String) (rest : List Char) :
    quote s ++ rest = '"' :: (s.toList.flatMap escapeChar ++ '"' :: rest) := by
  simp [quote]

theorem readString_quote (s : String) (rest : List Char) :
    readString (s.toList.flatMap escapeChar ++ '"' :: rest) = (.string s, some rest) := by
  simp only [readString, scanString_quote, String.ofList_toList]

theorem readKey_quote (s : String) (rest : List Char) :
    readKey (s.toList.flatMap escapeChar ++ '"' :: rest) = (.named s, some rest) := by
  simp only [readKey, scanString_quote, String.ofList_toList]

/-! ### Values -/

/-- Wherever the value is written, it is read as `r` and the text behind it is left. -/
def ReadsAs (j : Json) (r : Reading) : Prop :=
  ∀ fuel depth rest, readValue (fuel + 1) depth (j.compact ++ rest) = (r, some rest)

theorem readsAs_null : ReadsAs null .null := fun _ _ _ => rfl

theorem readsAs_string (s : String) : ReadsAs (string s) (.string s) := by
  intro fuel depth rest
  have hcompact : (string s).compact = quote s := by simp [compact, scalarText]
  rw [hcompact, quote_append]
  exact readString_quote s rest

/-! ### Objects -/

theorem readFields_field {k : Key} (first : Bool) (hkey : readKey cs = (k, some (':' :: more)))
    (hvalue : readValue fuel depth more = (r, some rest)) :
    readFields (fuel + 1) depth first ((if first then [] else [',']) ++ '"' :: cs) =
      ((k, r) :: (readFields fuel depth false rest).1, (readFields fuel depth false rest).2) := by
  rw [readFields]
  cases first <;> simp [skipBlanks, isBlank, hkey, hvalue]

def FieldReadsAs (f : String × Json) (e : Key × Reading) : Prop := e.1 = .named f.1 ∧ ReadsAs f.2 e.2

variable {fields : List (String × Json)} {entries : List (Key × Reading)}

theorem readFields_compactFields (h : List.Forall₂ FieldReadsAs fields entries) (hfuel : fields.length + 1 < fuel)
    (first : Bool) : readFields fuel depth first (compactFields first fields ++ rest) = (entries, .closed rest) := by
  obtain ⟨fuel, rfl⟩ := Nat.exists_eq_succ_of_ne_zero (Nat.ne_zero_of_lt hfuel)
  induction h generalizing fuel first with
  | nil => cases first <;> rfl
  | @cons f e fields entries hf _ ih =>
    obtain ⟨k, j⟩ := f
    obtain ⟨_, r⟩ := e
    obtain ⟨rfl, hj⟩ := hf
    have hlt := Nat.lt_of_succ_lt_succ hfuel
    obtain ⟨fuel, rfl⟩ := Nat.exists_eq_succ_of_ne_zero (Nat.ne_zero_of_lt hlt)
    have hvalue := hj fuel depth (compactFields false fields ++ rest)
    have hkey := readKey_quote k (':' :: (j.compact ++ (compactFields false fields ++ rest)))
    simp only [compactFields, List.append_assoc, List.cons_append, quote_append]
    rw [readFields_field first hkey hvalue, ih false fuel hlt]

theorem length_lt_length_compactFields (first : Bool) (fields : List (String × Json)) :
    fields.length < (compactFields first fields).length := by
  induction fields generalizing first with
  | nil => exact Nat.zero_lt_one
  | cons f fields ih =>
    have hrest := ih false
    simp only [compactFields, List.length_append, List.length_cons]
    omega

theorem read_write_object (h : List.Forall₂ FieldReadsAs fields entries) :
    read (write (.object fields)) = (.object entries none, []) := by
  have hlength := length_lt_length_compactFields true fields
  have hfields : readFields (2 * (compactFields true fields).length + 3) 1 true (compactFields true fields ++ []) =
      (entries, .closed []) := readFields_compactFields h (by omega) true
  rw [List.append_nil] at hfields
  simp only [read, write, String.toList_ofList, compact, List.length_cons, Nat.mul_add]
  rw [readValue]
  simp [skipBlanks, isBlank, hfields, depthLimit, Ending.stop, Ending.rest]

theorem decodeText_eq {α : Type} (d : Decoder α) (s : String) : decodeText d s =
    d (read s).1 >>= fun a => if (read s).2.isEmpty then .ok a else .error (.fault .trailingCharacters) := rfl

theorem decodeText_eq_ok_iff {α : Type} {d : Decoder α} {s : String} {a : α} :
    decodeText d s = .ok a ↔ d (read s).1 = .ok a ∧ (read s).2 = [] := by
  rw [decodeText_eq, bind_eq_ok_iff]
  cases (read s).2 <;> simp

theorem exists_of_decodeText {α : Type} {d : Decoder α} {s : String} {a : α} (h : decodeText d s = .ok a) :
    ∃ r, d r = .ok a :=
  ⟨(read s).1, (decodeText_eq_ok_iff.1 h).1⟩

theorem decodeText_write_object {α : Type} (d : Decoder α) (h : List.Forall₂ FieldReadsAs fields entries) :
    decodeText d (write (.object fields)) = d (.object entries none) := by
  rw [decodeText_eq, read_write_object h]
  cases hd : d (.object entries none) <;> simp [bind, Except.bind]

end Catalogue.Json
