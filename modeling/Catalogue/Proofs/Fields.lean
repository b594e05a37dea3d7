import Catalogue.Fields
import Mathlib.Data.List.Nodup

set_option autoImplicit false

namespace Catalogue.Fields

variable {α : Type} {d entries : Fields α} {name : String} {value : α}

theorem mem_of_get? (h : get? d name = some value) : (name, value) ∈ d := by
  induction d with
  | nil => cases h
  | cons e rest ih =>
    obtain ⟨k, v⟩ := e
    by_cases hk : k = name
    · simp only [get?, hk, if_true, Option.some.injEq] at h
      rw [hk, h]
      exact List.mem_cons_self
    · simp only [get?, hk, if_false] at h
      exact List.mem_cons_of_mem _ (ih h)

theorem get?_of_mem (hd : (names d).Nodup) (h : (name, value) ∈ d) : get? d name = some value := by
  induction d with
  | nil => cases h
  | cons e rest ih =>
    obtain ⟨k, v⟩ := e
    obtain ⟨hfresh, hrest⟩ := List.nodup_cons.1 hd
    rcases List.mem_cons.1 h with heq | hmem
    · cases heq
      exact if_pos rfl
    · have hk : k ≠ name := fun heq => hfresh (List.mem_map.2 ⟨_, hmem, heq.symm⟩)
      simpa [get?, hk] using ih hrest hmem

theorem mem_iff_get?_eq_some (hd : (names d).Nodup) : (name, value) ∈ d ↔ get? d name = some value :=
  ⟨get?_of_mem hd, mem_of_get?⟩

theorem mem_put_iff {other : String} {v : α} (hd : (names d).Nodup) :
    (other, v) ∈ put d name value ↔ other = name ∧ v = value ∨ other ≠ name ∧ (other, v) ∈ d := by
  rw [mem_iff_get?_eq_some (names_put_nodup name value hd), mem_iff_get?_eq_some hd]
  by_cases h : other = name
  · subst h
    simp [get?_put_self, eq_comm]
  · simp [get?_put_of_ne d value (Ne.symm h), h]

theorem mem_put {e : String × α} (h : e ∈ put d name value) : e = (name, value) ∨ e ∈ d := by
  induction d with
  | nil => exact Or.inl (List.mem_singleton.1 h)
  | cons entry rest ih =>
    obtain ⟨k, v⟩ := entry
    by_cases hk : k = name
    · simp only [put, hk, if_true, List.mem_cons] at h
      exact h.imp_right (List.mem_cons_of_mem _)
    · simp only [put, hk, if_false, List.mem_cons] at h
      rcases h with rfl | h
      · exact Or.inr List.mem_cons_self
      · exact (ih h).imp_right (List.mem_cons_of_mem _)

theorem mem_foldl_put {e : String × α} (h : e ∈ entries.foldl (fun d e => put d e.1 e.2) d) :
    e ∈ entries ∨ e ∈ d := by
  induction entries generalizing d with
  | nil => exact Or.inr h
  | cons entry entries ih =>
    rcases ih h with hin | hin
    · exact Or.inl (List.mem_cons_of_mem _ hin)
    · rcases mem_put hin with rfl | hin
      · exact Or.inl List.mem_cons_self
      · exact Or.inr hin

theorem mem_of_mem_ofList {e : String × α} (h : e ∈ ofList entries) : e ∈ entries :=
  (mem_foldl_put h).resolve_right List.not_mem_nil

theorem erase_put (d : Fields α) (name : String) (value : α) : erase (put d name value) name = erase d name := by
  induction d with
  | nil => simp [put, erase]
  | cons e rest ih =>
    obtain ⟨k, v⟩ := e
    simp only [erase] at ih
    by_cases hk : k = name
    · simp [put, erase, hk]
    · simp [put, erase, hk, ih]

theorem names_foldl_put_nodup (entries : List (String × α)) (h : (names d).Nodup) :
    (names (entries.foldl (fun d e => put d e.1 e.2) d)).Nodup := by
  induction entries generalizing d with
  | nil => exact h
  | cons entry entries ih => exact ih (names_put_nodup entry.1 entry.2 h)

theorem names_ofList_nodup (entries : List (String × α)) : (names (ofList entries)).Nodup :=
  names_foldl_put_nodup entries List.nodup_nil

theorem foldl_put_of_nodup (h : (names (d ++ entries)).Nodup) :
    entries.foldl (fun d e => put d e.1 e.2) d = d ++ entries := by
  induction entries generalizing d with
  | nil => exact (List.append_nil d).symm
  | cons entry entries ih =>
    have hnew : entry.1 ∉ names d := by
      intro hm
      rw [names, List.map_append, List.nodup_append] at h
      exact h.2.2 _ hm _ List.mem_cons_self rfl
    have happend : d ++ entry :: entries = (d ++ [entry]) ++ entries := by simp
    rw [List.foldl_cons, put_of_not_mem d entry.2 hnew, happend]
    exact ih (happend ▸ h)

theorem ofList_eq_self_iff : ofList entries = entries ↔ (names entries).Nodup := by
  constructor
  · intro h
    rw [← h]
    exact names_ofList_nodup entries
  · intro h
    exact foldl_put_of_nodup (d := []) h

end Catalogue.Fields
