set_option autoImplicit false

namespace Catalogue

def isPiece {α : Type} [BEq α] (p : List α) : List α → Bool
  | [] => p.isEmpty
  | a :: as => p.isPrefixOf (a :: as) || isPiece p as

theorem isPiece_iff {α : Type} [BEq α] [LawfulBEq α] (p s : List α) :
    isPiece p s = true ↔ p <:+: s := by
  induction s with
  | nil => simp [isPiece]
  | cons a as ih =>
    simp only [isPiece, Bool.or_eq_true, List.isPrefixOf_iff_prefix, ih, List.infix_cons_iff]

end Catalogue
