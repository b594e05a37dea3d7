import Catalogue.Unicode.LowerCase
import Mathlib.Data.List.Basic

set_option autoImplicit false

namespace Catalogue.Unicode

def EndsWord (before behind : List Char) : Prop := meetsCased before.reverse = true ∧ meetsCased behind = false

instance (before behind : List Char) : Decidable (EndsWord before behind) :=
  inferInstanceAs (Decidable (_ ∧ _))

/-- Each capital sigma of the piece ends a word in the piece just if it ends one in the whole text. -/
def KeepsSigmas (before piece behind : List Char) : Prop :=
  ∀ left right, piece = left ++ 'Σ' :: right → (EndsWord (before ++ left) (right ++ behind) ↔ EndsWord left right)

def lowerAt (before : List Char) (c : Char) (behind : List Char) : List Char :=
  if c = 'Σ' then if EndsWord before behind then ['ς'] else ['σ'] else lowerChar c

def lowerBetween (before : List Char) : List Char → List Char → List Char
  | [], _ => []
  | c :: piece, behind => lowerAt before c (piece ++ behind) ++ lowerBetween (before ++ [c]) piece behind

theorem lowerFrom_cons (before : List Char) (c : Char) (cs : List Char) :
    lowerFrom before.reverse (c :: cs) = lowerAt before c cs ++ lowerFrom (before ++ [c]).reverse cs := by
  have himage : (if meetsCased before.reverse && !meetsCased cs then ['ς'] else ['σ']) =
      if EndsWord before cs then ['ς'] else ['σ'] :=
    if_congr (by simp [EndsWord]) rfl rfl
  rw [List.reverse_append, List.reverse_singleton, lowerFrom, himage]
  rfl

theorem lowerFrom_append (before piece behind : List Char) : lowerFrom before.reverse (piece ++ behind) =
    lowerBetween before piece behind ++ lowerFrom (before ++ piece).reverse behind := by
  induction piece generalizing before with
  | nil => simp [lowerBetween]
  | cons c piece ih =>
    rw [List.cons_append, lowerFrom_cons, ih, lowerBetween, List.append_assoc, List.append_assoc]
    rfl

theorem lowerBetween_nil (piece : List Char) : lowerBetween [] piece [] = lowerFrom [] piece := by
  have h := lowerFrom_append [] piece []
  simp only [List.append_nil, lowerFrom] at h
  exact h.symm

theorem length_lowerAt (before behind before' behind' : List Char) (c : Char) :
    (lowerAt before c behind).length = (lowerAt before' c behind').length := by
  unfold lowerAt
  split
  · split <;> split <;> rfl
  · rfl

theorem lowerAt_eq_iff {before behind before' behind' : List Char} {c : Char} :
    lowerAt before c behind = lowerAt before' c behind' ↔
      (c = 'Σ' → (EndsWord before behind ↔ EndsWord before' behind')) := by
  by_cases hc : c = 'Σ'
  · by_cases h : EndsWord before behind <;> by_cases h' : EndsWord before' behind' <;> simp [lowerAt, hc, h, h']
  · simp [lowerAt, hc]

theorem lowerBetween_eq_iff (before behind left piece : List Char) :
    lowerBetween (before ++ left) piece behind = lowerBetween left piece [] ↔
      ∀ more right, piece = more ++ 'Σ' :: right →
        (EndsWord (before ++ left ++ more) (right ++ behind) ↔ EndsWord (left ++ more) right) := by
  induction piece generalizing left with
  | nil => simp [lowerBetween]
  | cons c piece ih =>
    have hsplit : lowerBetween (before ++ left) (c :: piece) behind = lowerBetween left (c :: piece) [] ↔
        lowerAt (before ++ left) c (piece ++ behind) = lowerAt left c (piece ++ []) ∧
          lowerBetween (before ++ left ++ [c]) piece behind = lowerBetween (left ++ [c]) piece [] :=
      ⟨fun h => List.append_inj h (length_lowerAt _ _ _ _ c), fun h => congrArg₂ (· ++ ·) h.1 h.2⟩
    rw [hsplit, lowerAt_eq_iff, List.append_assoc before, ih, List.append_nil]
    constructor
    · rintro ⟨hfirst, hrest⟩ more right hpiece
      cases more with
      | nil =>
        obtain ⟨hc, rfl⟩ := List.cons.inj hpiece
        simpa using hfirst hc
      | cons _ more =>
        obtain ⟨rfl, rfl⟩ := List.cons.inj hpiece
        simpa using hrest more right rfl
    · intro hall
      refine ⟨?_, fun more right hpiece => ?_⟩
      · rintro rfl
        simpa using hall [] piece rfl
      · simpa using hall (c :: more) right (congrArg (c :: ·) hpiece)

/-- A piece becomes within a text what it becomes by itself just if its sigmas end words in both or in neither. -/
theorem lowerBetween_eq_lowerFrom_iff (before piece behind : List Char) :
    lowerBetween before piece behind = lowerFrom [] piece ↔ KeepsSigmas before piece behind := by
  rw [← lowerBetween_nil]
  simpa [KeepsSigmas] using lowerBetween_eq_iff before behind [] piece

theorem keepsSigmas_of_not_mem {piece : List Char} (h : 'Σ' ∉ piece) (before behind : List Char) :
    KeepsSigmas before piece behind := by
  rintro left right rfl
  simp at h

theorem lowerFrom_infix {before piece behind : List Char} (h : KeepsSigmas before piece behind) :
    lowerFrom [] piece <:+: lowerFrom [] (before ++ piece ++ behind) := by
  have hbefore := lowerFrom_append [] before (piece ++ behind)
  have hpiece := lowerFrom_append before piece behind
  rw [(lowerBetween_eq_lowerFrom_iff before piece behind).2 h] at hpiece
  rw [List.reverse_nil, List.nil_append, hpiece] at hbefore
  rw [List.append_assoc, hbefore, ← List.append_assoc]
  exact ⟨_, _, rfl⟩

end Catalogue.Unicode
