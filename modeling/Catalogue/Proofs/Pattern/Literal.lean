import Catalogue.Pattern.Literal
import Catalogue.Pattern.Reader
import Mathlib.Algebra.Ring.Nat
import Mathlib.Data.List.Forall2

/-!
Texts that are taken literally. Reading takes an escaped text apart into one item for each character, whichever
characters stand next to each other: a character with a meaning of its own stands behind a backslash, and any other
one begins no group, repetition or set. The pattern steps over a run of the same length as the text, from each place
where the run equals the text character by character, and over nothing else.
-/

set_option autoImplicit false

namespace Catalogue

open Unicode (sameChar)

/-! ### Places of a text -/

namespace Places

variable {s : CharSet} {cs : List Char} {ps : Places} {i : Nat}

theorem isSome_iff : ps.isSome = true ↔ ∃ i : Nat, ps[i]? = some true := by
  simp [isSome, List.any_eq_true, List.mem_iff_getElem?]

theorem getElem?_all (n : Nat) (i : Nat) : (all n)[i]? = some true ↔ i ≤ n := by
  rw [all, List.getElem?_replicate, Option.ite_none_right_eq_some, and_iff_left rfl, Nat.lt_succ_iff]

theorem getElem?_step : (step s cs ps)[i]? = some true ↔
    ∃ j c, i = j + 1 ∧ ps[j]? = some true ∧ cs[j]? = some c ∧ s.contains c = true := by
  cases i with
  | zero => simp [step]
  | succ j =>
    simp only [step, List.getElem?_cons_succ, List.getElem?_zipWith_eq_some, Bool.and_eq_true, Nat.add_right_cancel_iff]
    constructor
    · rintro ⟨p, c, hp, hc, rfl, hcontains⟩
      exact ⟨j, c, rfl, hp, hc, hcontains⟩
    · rintro ⟨_, c, rfl, hp, hc, hcontains⟩
      exact ⟨true, c, hp, hc, rfl, hcontains⟩

end Places

namespace Pattern

variable {folded : Bool}

/-! ### Reading -/

def startFlags (folded : Bool) : Flags := ⟨folded, false, false, false, false, false⟩

def charDraft (folded : Bool) (c : Char) : Draft := .ofSet (.char folded c)

def literalDraft (folded : Bool) (text : List Char) : Draft := .join sequence (text.map (charDraft folded))

/-- What has a meaning where an item could begin. -/
def groupSigns : List Char := [')', '|', '*', '+', '?', '\x7b', '(']

theorem isMeta_iff {c : Char} : isMeta c = true ↔ c ∈
    ['\\', '.', '+', '*', '?', '(', ')', '|', '[', ']', '\x7b', '\x7d', '^', '$', '#', '&', '-', '~'] := by
  rw [isMeta, List.contains_iff_mem]

theorem isMeta_of_mem_groupSigns {c : Char} (h : c ∈ groupSigns) : isMeta c = true := by
  simp only [groupSigns, List.mem_cons, List.not_mem_nil, or_false] at h
  rcases h with rfl | rfl | rfl | rfl | rfl | rfl | rfl <;> rfl

theorem readItem_of_isMeta {c : Char} (h : isMeta c = true) (rest : List Char) :
    readItem (startFlags folded) ('\\' :: c :: rest) = some (charDraft folded c, rest) := by
  simp only [isMeta_iff, List.mem_cons, List.not_mem_nil, or_false] at h
  rcases h with rfl | rfl | rfl | rfl | rfl | rfl | rfl | rfl | rfl | rfl | rfl | rfl | rfl | rfl | rfl | rfl | rfl |
    rfl <;> rfl

theorem readItem_of_not_isMeta {c : Char} (h : isMeta c = false) (rest : List Char) :
    readItem (startFlags folded) (c :: rest) = some (charDraft folded c, rest) := by
  unfold readItem
  split
  case h_1 he => cases he
  case h_7 he =>
    obtain ⟨rfl, rfl⟩ := List.cons.inj he
    rfl
  -- the other forms begin with characters that have a meaning
  all_goals
    obtain ⟨rfl, rfl⟩ := List.cons.inj ‹_›
    cases h

theorem readBody_item {c : Char} {cs rest : List Char} {d : Draft} (hc : c ∉ groupSigns)
    (hitem : readItem (startFlags folded) (c :: cs) = some (d, rest)) (fuel left : Nat) (names : List (List Char))
    (b : Body) : readBody (fuel + 1) left (startFlags folded) names b (c :: cs) =
      readBody fuel left (startFlags folded) names (b.add d) rest := by
  rw [readBody]
  simp only [Flags.gap, startFlags, Bool.false_eq_true, if_false]
  split
  case h_1 he => cases he
  case h_9 =>
    change (readItem (startFlags folded) (c :: cs)).bind _ = _
    rw [hitem]
    rfl
  all_goals
    obtain ⟨rfl, rfl⟩ := List.cons.inj ‹_›
    exact absurd (by decide) hc

theorem escape_cons (c : Char) (cs : List Char) :
    escape (c :: cs) = (if isMeta c then ['\\', c] else [c]) ++ escape cs := List.flatMap_cons

theorem length_le_escape (cs : List Char) : cs.length ≤ (escape cs).length := by
  induction cs with
  | nil => exact Nat.le_refl _
  | cons c cs ih =>
    rw [escape_cons, List.length_append, List.length_cons]
    split <;> simp only [List.length_cons, List.length_nil] <;> omega

def Body.addText (folded : Bool) (b : Body) (text : List Char) : Body :=
  text.foldl (fun b c => b.add (charDraft folded c)) b

/-- Reading an escaped text adds one item for each of its characters. -/
theorem readBody_escape (folded : Bool) (text : List Char) (fuel left : Nat) (names : List (List Char)) (b : Body)
    (h : text.length < fuel) : readBody fuel left (startFlags folded) names b (escape text) =
      some ⟨(b.addText folded text).finish, names, []⟩ := by
  induction text generalizing fuel b with
  | nil =>
    obtain ⟨fuel, rfl⟩ := Nat.exists_eq_add_one.2 h
    rfl
  | cons c text ih =>
    obtain ⟨fuel, rfl⟩ := Nat.exists_eq_add_one.2 (Nat.zero_lt_of_lt h)
    have htext := ih fuel (b.add (charDraft folded c)) (Nat.lt_of_succ_lt_succ h)
    rw [escape_cons]
    cases hmeta : isMeta c with
    | true => exact (readBody_item (by decide) (readItem_of_isMeta hmeta _) fuel left names b).trans htext
    | false =>
      have hc : c ∉ groupSigns := fun hmem => by simp [isMeta_of_mem_groupSigns hmem] at hmeta
      exact (readBody_item hc (readItem_of_not_isMeta hmeta _) fuel left names b).trans htext

theorem branches_addText (b : Body) (text : List Char) : (b.addText folded text).branches = b.branches := by
  induction text generalizing b with
  | nil => rfl
  | cons c text ih => exact ih _

theorem items_addText (b : Body) (text : List Char) :
    (b.addText folded text).items = (text.map (charDraft folded)).reverse ++ b.items := by
  induction text generalizing b with
  | nil => rfl
  | cons c text ih =>
    have htext := ih (b.add (charDraft folded c))
    rw [List.map_cons, List.reverse_cons, List.append_assoc]
    exact htext

theorem finish_addText (text : List Char) : (Body.start.addText folded text).finish = literalDraft folded text := by
  have hlast : (Body.start.addText folded text).lastBranch = literalDraft folded text := by
    rw [Body.lastBranch, items_addText, Body.start, List.append_nil, List.reverse_reverse, literalDraft]
  rw [Body.finish, branches_addText, hlast]
  rfl

theorem depth_literalDraft (text : List Char) : (literalDraft folded text).depth ≤ 1 := by
  have hdeepest : ∀ text : List Char, Draft.deepest (text.map (charDraft folded)) = 0 := by
    intro text
    simp [Draft.deepest, charDraft, Draft.ofSet, List.foldl_map]
  match text with
  | [] => exact Nat.zero_le _
  | [_] => exact Nat.zero_le _
  | c :: d :: text => exact Nat.le_of_eq (congrArg (· + 1) (hdeepest (c :: d :: text)))

def literalSize (folded : Bool) (text : List Char) : Nat := (text.map fun c => setSize (.char folded c)).sum

theorem size_sequence (ps : List Pattern) : (sequence ps).size = (ps.map size).sum := by
  induction ps with
  | nil => rfl
  | cons p ps ih => exact congrArg (p.size + ·) ih

theorem size_literalDraft (text : List Char) : (literalDraft folded text).pattern.size = literalSize folded text := by
  have hsum : ((text.map (charDraft folded)).map fun d => d.pattern.size).sum = literalSize folded text := by
    rw [List.map_map]
    rfl
  rw [← hsum, literalDraft]
  unfold Draft.join
  split
  · next d he => simp [he]
  · rw [size_sequence, List.map_map]
    rfl

theorem read?_escape (text : List Char) : read? folded (escape text) =
    if literalSize folded text ≤ sizeLimit then some (literalDraft folded text).pattern else none := by
  have hbody := readBody_escape folded text ((escape text).length + 1) depthLimit [] .start
    (Nat.lt_succ_of_le (length_le_escape text))
  have hdepth : (literalDraft folded text).depth ≤ depthLimit := Nat.le_trans (depth_literalDraft text) (by decide)
  rw [finish_addText] at hbody
  unfold startFlags at hbody
  simp [read?, hbody, hdepth, size_literalDraft]

/-! ### Matching -/

theorem after_literalDraft (text cs : List Char) (ps : Places) : (literalDraft folded text).pattern.after cs ps =
    (sequence (text.map fun c => one (.char folded c))).after cs ps := by
  have hpatterns : (text.map (charDraft folded)).map (·.pattern) = text.map fun c => one (.char folded c) := by
    rw [List.map_map]
    rfl
  rw [← hpatterns, literalDraft]
  unfold Draft.join
  split
  · next d he =>
    rw [he]
    rfl
  · rfl

theorem cons_prefix_drop_iff {α : Type} {a : α} {run xs : List α} {i : Nat} :
    a :: run <+: xs.drop i ↔ xs[i]? = some a ∧ run <+: xs.drop (i + 1) := by
  rw [List.drop_eq_getElem?_toList_append]
  cases h : xs[i]? with
  | none =>
    have hnil : xs.drop (i + 1) = [] := List.drop_eq_nil_of_le (Nat.le_succ_of_le (List.getElem?_eq_none_iff.1 h))
    simp [hnil]
  | some b => simp [List.cons_prefix_cons, eq_comm]

/-- From a place, the pattern of a text leads over a run that equals the text character by character. -/
theorem isSome_after_iff (text cs : List Char) (ps : Places) :
    ((sequence (text.map fun c => one (.char folded c))).after cs ps).isSome = true ↔
      ∃ (i : Nat) (run : List Char), ps[i]? = some true ∧ run <+: cs.drop i ∧
        List.Forall₂ (sameChar folded · ·) text run := by
  induction text generalizing ps with
  | nil =>
    change Places.isSome ps = true ↔ _
    simp [Places.isSome_iff]
  | cons c text ih =>
    rw [List.map_cons, after_sequence_cons, after, ih]
    constructor
    · rintro ⟨_, run, hstep, hrun, hsame⟩
      obtain ⟨j, d, rfl, hplace, hd, hcontains⟩ := Places.getElem?_step.1 hstep
      exact ⟨j, d :: run, hplace, cons_prefix_drop_iff.2 ⟨hd, hrun⟩, .cons hcontains hsame⟩
    · rintro ⟨j, run, hplace, hrun, hsame⟩
      obtain ⟨d, behind, hcontains, hbehind, rfl⟩ := List.forall₂_cons_left_iff.1 hsame
      obtain ⟨hd, hprefix⟩ := cons_prefix_drop_iff.1 hrun
      exact ⟨j + 1, behind, Places.getElem?_step.2 ⟨j, d, rfl, hplace, hd, hcontains⟩, hprefix, hbehind⟩

theorem occursIn_literalDraft_iff (text cs : List Char) : (literalDraft folded text).pattern.occursIn cs = true ↔
    ∃ run, run <:+: cs ∧ List.Forall₂ (sameChar folded · ·) text run := by
  rw [occursIn, after_literalDraft, isSome_after_iff]
  simp only [Places.getElem?_all]
  constructor
  · rintro ⟨i, run, _, hrun, hsame⟩
    exact ⟨run, hrun.isInfix.trans (List.drop_suffix i cs).isInfix, hsame⟩
  · rintro ⟨run, hrun, hsame⟩
    obtain ⟨before, behind, rfl⟩ := hrun
    refine ⟨before.length, run, ?_, ?_, hsame⟩
    · simp
    · simp

end Pattern

end Catalogue
