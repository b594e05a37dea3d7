import Catalogue.Category.Names
import Catalogue.Failure
import Catalogue.Json.Basic
import Catalogue.Piece
import Catalogue.Unicode.LowerCase

set_option autoImplicit false

namespace Catalogue

structure Category where
  id : String
  names : Names := []
  parent : Option String := none
  priority : Int64 := 0
deriving DecidableEq, Repr

namespace Category

def withName (c : Category) (language name : String) : Category :=
  { c with names := c.names.insert language name }

def withParent (c : Category) (parent : String) : Category := { c with parent := some parent }

def name? (c : Category) (language : String) : Option String := Fields.get? c.names language

def nameContains (c : Category) (text language : String) : Bool :=
  (c.name? language).any fun name => isPiece (Unicode.lower text) (Unicode.lower name)

def siblingOrder (a b : Category) : Ordering := (compare a.priority b.priority).then (compare a.id b.id)

def siblingLe (a b : Category) : Bool := siblingOrder a b != .gt

def sortSiblings (cs : List Category) : List Category := cs.mergeSort siblingLe

def firstOccurrences : List Category → List Category
  | [] => []
  | c :: cs => c :: (firstOccurrences cs).filter fun d => d.id != c.id

theorem mem_of_mem_firstOccurrences {c : Category} {cs : List Category}
    (h : c ∈ firstOccurrences cs) : c ∈ cs := by
  induction cs with
  | nil => cases h
  | cons d cs ih =>
    simp only [firstOccurrences, List.mem_cons, List.mem_filter] at h
    rcases h with rfl | ⟨h, _⟩
    · exact List.mem_cons_self
    · exact List.mem_cons_of_mem _ (ih h)

theorem firstOccurrences_nodup (cs : List Category) : ((firstOccurrences cs).map (·.id)).Nodup := by
  induction cs with
  | nil => exact List.nodup_nil
  | cons c cs ih =>
    simp only [firstOccurrences, List.map_cons, List.nodup_cons, List.mem_map, List.mem_filter]
    constructor
    · rintro ⟨d, ⟨_, hne⟩, he⟩
      simp [he] at hne
    · exact ih.sublist (List.filter_sublist.map _)

theorem firstOccurrences_of_nodup {cs : List Category} (h : (cs.map (·.id)).Nodup) :
    firstOccurrences cs = cs := by
  induction cs with
  | nil => rfl
  | cons c cs ih =>
    obtain ⟨hc, hcs⟩ := List.nodup_cons.1 h
    rw [firstOccurrences, ih hcs]
    congr 1
    refine List.filter_eq_self.2 fun d hd => ?_
    have hne : d.id ≠ c.id := fun he => hc (List.mem_map.2 ⟨d, hd, he⟩)
    exact bne_iff_ne.2 hne

theorem mem_firstOccurrences_iff {c : Category} {cs : List Category} :
    c ∈ firstOccurrences cs ↔ cs.find? (·.id == c.id) = some c := by
  induction cs with
  | nil => simp [firstOccurrences]
  | cons d cs ih =>
    simp only [firstOccurrences, List.mem_cons, List.mem_filter, ih, List.find?_cons]
    by_cases hd : d.id = c.id
    · simp [hd, eq_comm]
    · have hne : c ≠ d := fun he => hd (he ▸ rfl)
      have hbeq : (d.id == c.id) = false := beq_eq_false_iff_ne.2 hd
      simp [hne, Ne.symm hd, hbeq]

theorem mem_ids_firstOccurrences {id : String} {cs : List Category} :
    id ∈ (firstOccurrences cs).map (·.id) ↔ id ∈ cs.map (·.id) := by
  induction cs with
  | nil => rfl
  | cons d cs ih =>
    simp only [List.mem_map] at ih
    by_cases hd : d.id = id
    · simp [firstOccurrences, hd]
    · have hfilter : (∃ a, (a ∈ firstOccurrences cs ∧ ¬a.id = d.id) ∧ a.id = id) ↔
          ∃ a ∈ firstOccurrences cs, a.id = id := by
        constructor
        · rintro ⟨a, ⟨ha, _⟩, he⟩
          exact ⟨a, ha, he⟩
        · rintro ⟨a, ha, he⟩
          exact ⟨a, ⟨ha, fun h => hd (h ▸ he)⟩, he⟩
      simp [firstOccurrences, hfilter, ih]

/-! ### Stored categories -/

def idText? : Value → Option String
  | .string s => some s
  | .objectId id => some id.text
  | .int32 n => some (toString n.toInt)
  | .int64 n => some (toString n.toInt)
  | _ => none

def malformed {α : Type} (flaw : CategoryFlaw) : Except Failure α := .error (.malformedCategory flaw)

def optionalField (d : Document) (name : String) : Option Value :=
  match Fields.get? d name with
  | some .null => none
  | v => v

def readNames (id : String) : Option Value → Except Failure Names
  | none => .ok []
  | some (.document fields) => do
    let entries ← fields.mapM fun (language, name) =>
      match name with
      | .string s => .ok (language, s)
      | v => malformed (.nameNotString id language v)
    pure (Names.ofList entries)
  | some v => malformed (.namesNotDocument id v)

/-- The category that a stored document is. Its id stands in `_id`, or else in `id`. -/
def ofDocument (d : Document) : Except Failure Category := do
  let id ← match Fields.get? d "_id" <|> Fields.get? d "id" with
    | none => malformed .missingId
    | some v =>
      match idText? v with
      | some id => .ok id
      | none => malformed (.unusableId v)
  let names ← readNames id (optionalField d "names")
  let parent ← match optionalField d "parent" with
    | none => .ok none
    | some v =>
      match idText? v with
      | some p => .ok (some p)
      | none => malformed (.unusableParent id v)
  let priority ← match optionalField d "priority" with
    | none => .ok 0
    | some v =>
      match v.toInt? with
      | some n => .ok (Int64.ofInt n)
      | none => malformed (.priorityNotInteger id v)
  pure { id, names, parent, priority }

def jsonFields (c : Category) : List (String × Json) :=
  [("id", .string c.id), ("names", .object (c.names.map fun e => (e.1, .string e.2))),
    ("parent", Json.ofOption .string c.parent), ("priority", .integer c.priority.toInt)]

end Category

end Catalogue
