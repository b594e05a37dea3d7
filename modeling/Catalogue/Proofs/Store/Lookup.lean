import Catalogue.Store.Lookup
import Mathlib.Algebra.Ring.Nat
import Mathlib.Data.List.Nodup

/-!
What a transitive lookup finds. In a collection whose documents can be told apart, a document is found in the
first round that links reach it in, once, and it is found if any links reach it: a round that finds nothing
leaves nothing for later ones.
-/

set_option autoImplicit false

namespace Catalogue.Store.LookupSpec

variable {spec : LookupSpec} {source : List Document} {starts values : List Value} {seen : List String} {n : Nat}
variable {listed : List (Nat × Document)}

/-- In round `n` a document is reached by `n + 1` links, the first of them from a start value. -/
inductive Reached (spec : LookupSpec) (source : List Document) (starts : List Value) : Nat → Document → Prop
  | first {d : Document} (hd : d ∈ source) (hlink : spec.isLinked starts d = true) : Reached spec source starts 0 d
  | next {n : Nat} {d e : Document} {v : Value} (hd : Reached spec source starts n d)
      (hv : Document.lookup d spec.connectFrom = some v) (he : e ∈ source) (hlink : spec.isLinked [v] e = true) :
      Reached spec source starts (n + 1) e

def FirstReached (spec : LookupSpec) (source : List Document) (starts : List Value) (n : Nat) (d : Document) : Prop :=
  Reached spec source starts n d ∧ ∀ m < n, ¬Reached spec source starts m d

theorem Reached.mem {d : Document} (h : Reached spec source starts n d) : d ∈ source := by
  cases h with
  | first hd _ => exact hd
  | next _ _ he _ => exact he

theorem Reached.exists_firstReached {d : Document} (h : Reached spec source starts n d) :
    ∃ m ≤ n, FirstReached spec source starts m d := by
  induction n using Nat.strongRecOn with
  | _ n ih =>
    by_cases hearlier : ∃ m < n, Reached spec source starts m d
    · obtain ⟨m, hm, hd⟩ := hearlier
      obtain ⟨k, hk, hfirst⟩ := ih m hm hd
      exact ⟨k, Nat.le_trans hk (Nat.le_of_lt hm), hfirst⟩
    · exact ⟨n, Nat.le_refl n, h, fun m hm hd => hearlier ⟨m, hm, hd⟩⟩

theorem isLinked_iff {d : Document} :
    spec.isLinked values d = true ↔ ∃ v ∈ values, spec.isLinked [v] d = true := by
  unfold isLinked
  cases Document.lookup d spec.connectTo with
  | none => simp
  | some w => simp

theorem FirstReached.previous {e : Document} (h : FirstReached spec source starts (n + 1) e) :
    ∃ d v, FirstReached spec source starts n d ∧ Document.lookup d spec.connectFrom = some v ∧
      spec.isLinked [v] e = true := by
  obtain ⟨hreached, hfirst⟩ := h
  cases hreached with
  | @next _ d _ v hd hv he hlink =>
    refine ⟨d, v, ⟨hd, fun m hm hearlier => ?_⟩, hv, hlink⟩
    exact hfirst (m + 1) (by omega) (.next hearlier hv he hlink)

theorem FirstReached.unique {m : Nat} {d : Document} (hm : FirstReached spec source starts m d)
    (hn : FirstReached spec source starts n d) : m = n :=
  Nat.le_antisymm (Nat.le_of_not_lt fun hlt => hm.2 n hlt hn.1) (Nat.le_of_not_lt fun hlt => hn.2 m hlt hm.1)

/-! ### One round -/

theorem of_mem_hits {d : Document} (h : d ∈ spec.hits values seen source) :
    d ∈ source ∧ spec.isLinked values d = true ∧ key d ∉ seen := by
  induction source generalizing seen with
  | nil => cases h
  | cons e source ih =>
    rw [hits] at h
    split at h
    · next hnew =>
      rcases List.mem_cons.1 h with rfl | h
      · rw [Bool.and_eq_true, Bool.not_eq_true', List.contains_eq_mem, decide_eq_false_iff_not] at hnew
        exact ⟨List.mem_cons_self, hnew⟩
      · obtain ⟨hd, hlink, hseen⟩ := ih h
        exact ⟨List.mem_cons_of_mem _ hd, hlink, fun hin => hseen (List.mem_cons_of_mem _ hin)⟩
    · exact (ih h).imp_left (List.mem_cons_of_mem _)

theorem hits_eq_filter (spec : LookupSpec) (values : List Value) (seen : List String)
    (hkeys : (source.map key).Nodup) :
    spec.hits values seen source = source.filter fun d => spec.isLinked values d && !seen.contains (key d) := by
  induction source generalizing seen with
  | nil => rfl
  | cons d ds ih =>
    obtain ⟨hd, hds⟩ := List.nodup_cons.1 hkeys
    rw [hits, List.filter_cons, ih seen hds, ih (key d :: seen) hds]
    split
    · congr 1
      refine List.filter_congr fun e he => ?_
      have hne : (key e == key d) = false := beq_eq_false_iff_ne.2 fun h => hd (h ▸ List.mem_map_of_mem he)
      rw [List.contains_cons, hne, Bool.false_or]
    · rfl

def IsFrontier (spec : LookupSpec) (source : List Document) (starts : List Value) : Nat → Value → Prop
  | 0, v => v ∈ starts
  | n + 1, v => ∃ d, FirstReached spec source starts n d ∧ Document.lookup d spec.connectFrom = some v

structure BeforeRound (spec : LookupSpec) (source : List Document) (starts : List Value) (n : Nat)
    (values : List Value) (seen : List String) : Prop where
  mem_values : ∀ v, v ∈ values ↔ IsFrontier spec source starts n v
  mem_seen : ∀ d ∈ source, key d ∈ seen ↔ ∃ m < n, Reached spec source starts m d

namespace BeforeRound

variable (h : BeforeRound spec source starts n values seen) (hkeys : (source.map key).Nodup)

include h hkeys

theorem mem_hits_iff {e : Document} : e ∈ spec.hits values seen source ↔ FirstReached spec source starts n e := by
  rw [hits_eq_filter spec values seen hkeys, List.mem_filter, Bool.and_eq_true, Bool.not_eq_true',
    List.contains_eq_mem, decide_eq_false_iff_not, isLinked_iff]
  constructor
  · rintro ⟨he, ⟨v, hv, hlink⟩, hnew⟩
    rw [h.mem_seen e he] at hnew
    refine ⟨?_, fun m hm hearlier => hnew ⟨m, hm, hearlier⟩⟩
    have hfrontier := (h.mem_values v).1 hv
    cases n with
    | zero => exact .first he (isLinked_iff.2 ⟨v, hfrontier, hlink⟩)
    | succ n =>
      obtain ⟨d, hd, hdv⟩ := hfrontier
      exact .next hd.1 hdv he hlink
  · intro hfirst
    have he := hfirst.1.mem
    refine ⟨he, ?_, ?_⟩
    · cases n with
      | zero =>
        obtain ⟨hreached, _⟩ := hfirst
        cases hreached with
        | first _ hlink =>
          obtain ⟨v, hv, hlink⟩ := isLinked_iff.1 hlink
          exact ⟨v, (h.mem_values v).2 hv, hlink⟩
      | succ n =>
        obtain ⟨d, v, hd, hdv, hlink⟩ := hfirst.previous
        exact ⟨v, (h.mem_values v).2 ⟨d, hd, hdv⟩, hlink⟩
    · rw [h.mem_seen e he]
      rintro ⟨m, hm, hearlier⟩
      exact hfirst.2 m hm hearlier

theorem next : BeforeRound spec source starts (n + 1)
    ((spec.hits values seen source).filterMap (Document.lookup · spec.connectFrom))
    (seen ++ (spec.hits values seen source).map key) := by
  constructor
  case mem_values =>
    intro v
    simp only [List.mem_filterMap, h.mem_hits_iff hkeys, IsFrontier]
  case mem_seen =>
    intro d hd
    have hfound : key d ∈ (spec.hits values seen source).map key ↔ FirstReached spec source starts n d := by
      rw [← h.mem_hits_iff hkeys, List.mem_map]
      constructor
      · rintro ⟨e, he, hke⟩
        have hein := ((h.mem_hits_iff hkeys).1 he).1.mem
        rwa [← List.inj_on_of_nodup_map hkeys hein hd hke]
      · exact fun hin => ⟨d, hin, rfl⟩
    rw [List.mem_append, h.mem_seen d hd, hfound]
    constructor
    · rintro (⟨m, hm, hreached⟩ | hfirst)
      · exact ⟨m, by omega, hreached⟩
      · exact ⟨n, by omega, hfirst.1⟩
    · rintro ⟨m, hm, hreached⟩
      obtain ⟨k, hk, hfirst⟩ := hreached.exists_firstReached
      rcases Nat.lt_or_eq_of_le (show k ≤ n by omega) with hless | rfl
      · exact Or.inl ⟨k, hless, hfirst.1⟩
      · exact Or.inr hfirst

end BeforeRound

/-! ### All rounds -/

def unseen (source : List Document) (seen : List String) : Nat :=
  (source.filter fun d => !seen.contains (key d)).length

theorem unseen_append_lt {found : List Document} {d : Document} (hd : d ∈ source) (hfound : d ∈ found)
    (hnew : key d ∉ seen) : unseen source (seen ++ found.map key) < unseen source seen := by
  have hfilter : (source.filter fun e => !(seen ++ found.map key).contains (key e)) =
      (source.filter fun e => !seen.contains (key e)).filter fun e => !(found.map key).contains (key e) := by
    rw [List.filter_filter]
    refine List.filter_congr fun e _ => ?_
    simp only [List.contains_append, Bool.not_or, Bool.and_comm]
  have hkey : key d ∈ found.map key := List.mem_map_of_mem hfound
  unfold unseen
  rw [hfilter, List.length_filter_lt_length_iff_exists]
  exact ⟨d, by simp [hd, hnew], by simpa using hkey⟩

theorem unseen_hits_lt (h : spec.hits values seen source ≠ []) :
    unseen source (seen ++ (spec.hits values seen source).map key) < unseen source seen := by
  obtain ⟨d, hd⟩ := List.exists_mem_of_ne_nil _ h
  obtain ⟨hsource, _, hnew⟩ := of_mem_hits hd
  exact unseen_append_lt hsource hd hnew

theorem hits_nil (spec : LookupSpec) (seen : List String) (source : List Document) :
    spec.hits [] seen source = [] := by
  induction source generalizing seen with
  | nil => rfl
  | cons d ds ih =>
    have hlink : spec.isLinked [] d = false := by
      unfold isLinked
      cases Document.lookup d spec.connectTo <;> rfl
    rw [hits, hlink, Bool.false_and, if_neg Bool.false_ne_true, ih]

theorem reach_nil (spec : LookupSpec) (source : List Document) (fuel depth : Nat) (seen : List String) :
    spec.reach source fuel depth [] seen = [] := by
  cases fuel <;> rfl

theorem reach_succ (spec : LookupSpec) (source : List Document) (fuel depth : Nat) (values : List Value)
    (seen : List String) : spec.reach source (fuel + 1) depth values seen =
      (spec.hits values seen source).map (spec.annotate depth) ++
        spec.reach source fuel (depth + 1)
          ((spec.hits values seen source).filterMap (Document.lookup · spec.connectFrom))
          (seen ++ (spec.hits values seen source).map key) := by
  cases values with
  | nil => simp [reach, hits_nil, reach_nil]
  | cons v values => rfl

theorem exists_firstReached_of_le {m : Nat} {d : Document} (h : FirstReached spec source starts m d)
    (hle : n ≤ m) : ∃ e, FirstReached spec source starts n e := by
  induction m, hle using Nat.le_induction generalizing d with
  | base => exact ⟨d, h⟩
  | succ m _ ih =>
    obtain ⟨e, _, he, _⟩ := h.previous
    exact ih he

section

variable (hkeys : (source.map key).Nodup) (h : BeforeRound spec source starts n values seen)

include hkeys h

theorem BeforeRound.unseen_next_lt {d : Document} (hd : FirstReached spec source starts n d) :
    unseen source (seen ++ (spec.hits values seen source).map key) < unseen source seen :=
  unseen_hits_lt (List.ne_nil_of_mem ((h.mem_hits_iff hkeys).2 hd))

/-- Each round with something new leaves less to be seen. -/
theorem BeforeRound.lt_of_firstReached {m : Nat} {d : Document} (hd : FirstReached spec source starts m d)
    (hle : n ≤ m) : m < n + unseen source seen := by
  induction hk : m - n generalizing n values seen with
  | zero =>
    obtain rfl : n = m := by omega
    have hless := h.unseen_next_lt hkeys hd
    omega
  | succ k ih =>
    obtain ⟨e, he⟩ := exists_firstReached_of_le hd hle
    have hless := h.unseen_next_lt hkeys he
    have hlt := ih (h.next hkeys) (by omega) (by omega)
    omega

end

/-- What the rounds from `n` on find, each document with its round. The rounds end when no value is left. -/
inductive Rounds (spec : LookupSpec) (source : List Document) :
    Nat → List Value → List String → List (Nat × Document) → Prop
  | done {n : Nat} {seen : List String} : Rounds spec source n [] seen []
  | round {n : Nat} {values : List Value} {seen : List String} {later : List (Nat × Document)} (hne : values ≠ [])
      (hlater : Rounds spec source (n + 1)
        ((spec.hits values seen source).filterMap (Document.lookup · spec.connectFrom))
        (seen ++ (spec.hits values seen source).map key) later) :
      Rounds spec source n values seen ((spec.hits values seen source).map (n, ·) ++ later)

theorem exists_rounds (spec : LookupSpec) (source : List Document) (n : Nat) (values : List Value)
    (seen : List String) : ∃ listed, Rounds spec source n values seen listed := by
  induction hk : unseen source seen using Nat.strongRecOn generalizing n values seen with
  | _ k ih =>
    by_cases hvalues : values = []
    · exact ⟨[], hvalues ▸ .done⟩
    · by_cases hhits : spec.hits values seen source = []
      · have hlater : Rounds spec source (n + 1)
            ((spec.hits values seen source).filterMap (Document.lookup · spec.connectFrom))
            (seen ++ (spec.hits values seen source).map key) [] := by
          rw [hhits]
          exact .done
        exact ⟨_, .round hvalues hlater⟩
      · obtain ⟨later, hlater⟩ := ih _ (hk ▸ unseen_hits_lt hhits) (n + 1) _ _ rfl
        exact ⟨_, .round hvalues hlater⟩

/-- One more round than there are documents not seen yet is as good as any number of them. -/
theorem Rounds.reach_eq (h : Rounds spec source n values seen listed) {fuel : Nat}
    (hfuel : unseen source seen < fuel) :
    spec.reach source fuel n values seen = listed.map fun p => spec.annotate p.1 p.2 := by
  induction h generalizing fuel with
  | done => exact reach_nil spec source fuel _ _
  | @round n values seen later _ hlater ih =>
    obtain ⟨fuel, rfl⟩ := Nat.exists_eq_add_one_of_ne_zero (Nat.ne_zero_of_lt hfuel)
    rw [reach_succ, List.map_append, List.map_map]
    by_cases hhits : spec.hits values seen source = []
    · rw [hhits] at hlater ⊢
      cases hlater with
      | done => simp [reach_nil]
      | round hne _ => exact absurd rfl hne
    · have hless := unseen_hits_lt hhits
      rw [ih (by omega)]
      rfl

section

variable (h : Rounds spec source n values seen listed)

include h

theorem Rounds.le : ∀ p ∈ listed, n ≤ p.1 := by
  induction h with
  | done => exact fun _ hp => absurd hp List.not_mem_nil
  | @round n _ _ later _ _ ih =>
    intro p hp
    rcases List.mem_append.1 hp with hp | hp
    · obtain ⟨d, _, rfl⟩ := List.mem_map.1 hp
      exact Nat.le_refl n
    · exact Nat.le_of_succ_le (ih p hp)

theorem Rounds.ascending : listed.Pairwise fun p q => p.1 ≤ q.1 := by
  induction h with
  | done => exact .nil
  | @round n values seen later _ hlater ih =>
    refine List.pairwise_append.2 ⟨List.pairwise_map.2 (List.pairwise_of_forall fun _ _ => Nat.le_refl n), ih, ?_⟩
    intro p hp q hq
    obtain ⟨d, _, rfl⟩ := List.mem_map.1 hp
    exact Nat.le_of_succ_le (hlater.le q hq)

variable (hkeys : (source.map key).Nodup) (hbefore : BeforeRound spec source starts n values seen)

include hkeys hbefore

theorem Rounds.mem_iff {m : Nat} {d : Document} :
    (m, d) ∈ listed ↔ n ≤ m ∧ FirstReached spec source starts m d := by
  induction h with
  | @done n seen =>
    refine iff_of_false List.not_mem_nil ?_
    rintro ⟨hle, hd⟩
    obtain ⟨e, he⟩ := exists_firstReached_of_le hd hle
    have hin := (hbefore.mem_hits_iff hkeys).2 he
    rw [hits_nil] at hin
    cases hin
  | @round n values seen later _ _ ih =>
    have hhit : (m, d) ∈ (spec.hits values seen source).map (n, ·) ↔
        m = n ∧ FirstReached spec source starts m d := by
      rw [List.mem_map]
      constructor
      · rintro ⟨e, he, heq⟩
        obtain ⟨rfl, rfl⟩ := Prod.mk.inj heq
        exact ⟨rfl, (hbefore.mem_hits_iff hkeys).1 he⟩
      · rintro ⟨rfl, hd⟩
        exact ⟨d, (hbefore.mem_hits_iff hkeys).2 hd, rfl⟩
    rw [List.mem_append, hhit, ih (hbefore.next hkeys), ← or_and_right]
    exact and_congr_left fun _ => by omega

theorem Rounds.nodup : (listed.map (·.2)).Nodup := by
  induction h with
  | done => exact List.nodup_nil
  | @round n values seen later _ hlater ih =>
    have hnext := hbefore.next hkeys
    rw [List.map_append, List.map_map, List.nodup_append]
    refine ⟨?_, ih hnext, ?_⟩
    · have hsource : source.Nodup := hkeys.of_map _
      change ((spec.hits values seen source).map id).Nodup
      rw [List.map_id, hits_eq_filter spec values seen hkeys]
      exact hsource.filter _
    · rintro d hd e he rfl
      obtain ⟨d, hhit, rfl⟩ := List.mem_map.1 hd
      obtain ⟨⟨m, e⟩, hin, rfl⟩ := List.mem_map.1 he
      obtain ⟨hle, hfirst⟩ := (hlater.mem_iff hkeys hnext).1 hin
      have hm := hfirst.unique ((hbefore.mem_hits_iff hkeys).1 hhit)
      omega

end

theorem beforeRound_zero (spec : LookupSpec) (source : List Document) (starts : List Value) :
    BeforeRound spec source starts 0 starts [] where
  mem_values _ := Iff.rfl
  mem_seen _ _ := by simp

def found (spec : LookupSpec) (source : List Document) (d : Document) : List Document :=
  spec.reach source (source.length + 1) 0 (Document.lookup d spec.start).toList []

theorem found_eq_nil {d : Document}
    (h : ∀ e ∈ source, spec.isLinked (Document.lookup d spec.start).toList e = false) : spec.found source d = [] := by
  have hhits : spec.hits (Document.lookup d spec.start).toList [] source = [] := by
    refine List.eq_nil_iff_forall_not_mem.2 fun e he => ?_
    obtain ⟨hsource, hlink, _⟩ := of_mem_hits he
    rw [h e hsource] at hlink
    cases hlink
  rw [found, reach_succ, hhits]
  exact reach_nil spec source _ _ _

theorem Rounds.found_eq {d : Document} (h : Rounds spec source 0 (Document.lookup d spec.start).toList [] listed) :
    spec.found source d = listed.map fun p => spec.annotate p.1 p.2 :=
  h.reach_eq (Nat.lt_succ_of_le (List.length_filter_le _ _))

theorem mem_found_iff (hkeys : (source.map key).Nodup) {d x : Document} :
    x ∈ spec.found source d ↔
      ∃ n e, FirstReached spec source (Document.lookup d spec.start).toList n e ∧ x = spec.annotate n e := by
  obtain ⟨rounds, h⟩ := exists_rounds spec source 0 (Document.lookup d spec.start).toList []
  have hmem := fun n e => h.mem_iff hkeys (beforeRound_zero spec source _) (m := n) (d := e)
  rw [h.found_eq, List.mem_map]
  constructor
  · rintro ⟨⟨n, e⟩, hin, rfl⟩
    exact ⟨n, e, ((hmem n e).1 hin).2, rfl⟩
  · rintro ⟨n, e, hfirst, rfl⟩
    exact ⟨(n, e), (hmem n e).2 ⟨Nat.zero_le n, hfirst⟩, rfl⟩

theorem FirstReached.lt_length {d : Document} (hkeys : (source.map key).Nodup)
    (h : FirstReached spec source starts n d) : n < source.length := by
  have hlt := (beforeRound_zero spec source starts).lt_of_firstReached hkeys h (Nat.zero_le n)
  have hle : unseen source [] ≤ source.length := List.length_filter_le _ _
  omega

end Catalogue.Store.LookupSpec
