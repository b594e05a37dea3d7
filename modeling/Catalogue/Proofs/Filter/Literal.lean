import Catalogue.Proofs.Filter.Evaluation
import Catalogue.Proofs.Pattern.Literal

set_option autoImplicit false

namespace Catalogue

open Unicode (foldChar)

namespace Pattern

variable {text s : String}

theorem compilesLiteral_iff : CompilesLiteral text ↔ literalSize true text.toList ≤ sizeLimit := by
  rw [CompilesLiteral, read?_escape]
  split <;> simp [*]

theorem findsLiteral_iff (hcompiles : CompilesLiteral text) : FindsLiteral text s ↔
    ∃ run, run <:+: s.toList ∧ List.Forall₂ (fun c d => foldChar c = foldChar d) text.toList run := by
  have hsize := compilesLiteral_iff.1 hcompiles
  simp only [FindsLiteral, read?_escape, if_pos hsize, Option.some.injEq, exists_eq_left', occursIn_literalDraft_iff,
    Unicode.sameChar_true]

end Pattern

namespace FilterRule

/-- Both rules on texts write one condition, and a document meets it where it has, at the place of the condition, a
string with a run of characters that equals the text up to case. -/
theorem isMatch_literal (field path : String) {text : String} (hcompiles : Pattern.CompilesLiteral text)
    (d : Document) :
    substring.condition field (.string text) = .ok (.document (literal text)) ∧
    languageSubstring.condition field (.string text) = .ok (.document (literal text)) ∧
    ∃ b, Store.isMatch d [(path, .document (literal text))] = .ok b ∧
      (b = true ↔ ∃ s, Document.lookup d path = some (.string s) ∧ ∃ run, run <:+: s.toList ∧
        List.Forall₂ (fun c d => foldChar c = foldChar d) text.toList run) := by
  refine ⟨rfl, rfl, ?_⟩
  have hmeets := answers_literal hcompiles (Document.lookup d path)
  refine (Answers.allM_cons hmeets (.allM_nil _)).congr ?_
  simp only [and_true, Pattern.findsLiteral_iff hcompiles]

theorem isMatch_literal_signs : Pattern.CompilesLiteral "(É.*)" ∧
    Store.isMatch [("note", .string "see (é.*) there")] [("note", .document (literal "(É.*)"))] = .ok true := by
  have hcompiles : Pattern.CompilesLiteral "(É.*)" := Pattern.compilesLiteral_iff.2 (by decide +kernel)
  obtain ⟨_, _, b, hb, hiff⟩ := isMatch_literal "note" "note" hcompiles [("note", .string "see (é.*) there")]
  have hrun : "(é.*)".toList <:+: "see (é.*) there".toList := ⟨"see ".toList, " there".toList, by decide⟩
  have hsame : List.Forall₂ (fun c d => foldChar c = foldChar d) "(É.*)".toList "(é.*)".toList :=
    .cons rfl (.cons (by decide +kernel) (.cons rfl (.cons rfl (.cons rfl .nil))))
  exact ⟨hcompiles, (hiff.2 ⟨_, rfl, _, hrun, hsame⟩) ▸ hb⟩

end FilterRule

end Catalogue
