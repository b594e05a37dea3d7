set_option autoImplicit false

namespace Catalogue

abbrev Fields (α : Type) := List (String × α)

namespace Fields

variable {α : Type}

def names (d : Fields α) : List String := d.map (·.1)

def get? : Fields α → String → Option α
  | [], _ => none
  | (k, v) :: rest, name => if k = name then some v else get? rest name

def put : Fields α → String → α → Fields α
  | [], name, value => [(name, value)]
  | (k, v) :: rest, name, value =>
    if k = name then (name, value) :: rest else (k, v) :: put rest name value

def ofList (entries : List (String × α)) : Fields α :=
  entries.foldl (fun d e => put d e.1 e.2) []

def erase (d : Fields α) (name : String) : Fields α := d.filter fun e => e.1 != name

theorem get?_put_self (d : Fields α) (name : String) (value : α) :
    get? (put d name value) name = some value := by
  induction d with
  | nil => simp [put, get?]
  | cons e rest ih =>
    obtain ⟨k, v⟩ := e
    by_cases h : k = name <;> simp [put, get?, h, ih]

theorem get?_put_of_ne (d : Fields α) {name other : String} (value : α) (h : name ≠ other) :
    get? (put d name value) other = get? d other := by
  induction d with
  | nil => simp [put, get?, h]
  | cons e rest ih =>
    obtain ⟨k, v⟩ := e
    by_cases hk : k = name
    · simp [put, get?, hk, h]
    · simp [put, get?, hk, ih]

theorem names_put_of_mem (d : Fields α) {name : String} (value : α) (h : name ∈ names d) :
    names (put d name value) = names d := by
  induction d with
  | nil => simp [names] at h
  | cons e rest ih =>
    obtain ⟨k, v⟩ := e
    by_cases hk : k = name
    · simp [put, names, hk]
    · have hmem : name ∈ names rest := by
        simpa [names, Ne.symm hk] using h
      simpa [put, names, hk] using ih hmem

theorem put_of_not_mem (d : Fields α) {name : String} (value : α) (h : name ∉ names d) :
    put d name value = d ++ [(name, value)] := by
  induction d with
  | nil => rfl
  | cons e rest ih =>
    obtain ⟨k, v⟩ := e
    have hk : k ≠ name := fun he => h (by simp [names, he])
    have hrest : name ∉ names rest := fun hm => h (by
      simp only [names, List.map_cons, List.mem_cons] at hm ⊢
      exact Or.inr hm)
    simp [put, hk, ih hrest]

theorem names_put_nodup {d : Fields α} (name : String) (value : α) (h : (names d).Nodup) :
    (names (put d name value)).Nodup := by
  by_cases hm : name ∈ names d
  · rwa [names_put_of_mem d value hm]
  · rw [put_of_not_mem d value hm]
    simp only [names, List.map_append, List.map_cons, List.map_nil]
    refine List.nodup_append.2 ⟨h, by simp, ?_⟩
    intro a ha b hb hab
    simp only [List.mem_singleton] at hb
    exact hm (hb ▸ hab ▸ ha)

end Fields

end Catalogue
