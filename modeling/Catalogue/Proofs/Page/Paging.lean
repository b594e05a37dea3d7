import Catalogue.Proofs.Filter.Evaluation
import Catalogue.Proofs.Page.Stages
import Catalogue.Query
import Catalogue.Sample
import Mathlib.Algebra.Ring.Nat
import Mathlib.Order.Bounds.Defs

set_option autoImplicit false

namespace Catalogue

/-! ### Windows of one size -/

theorem flatMap_windows {α : Type} (xs : List α) (size count : Nat) :
    ((List.range count).flatMap fun i => (xs.drop (i * size)).take size) = xs.take (count * size) := by
  induction count with
  | zero => simp
  | succ count ih =>
    rw [List.range_succ, List.flatMap_append, ih, Nat.succ_mul, List.take_add, List.flatMap_singleton]

def windowCount (length size : Nat) : Nat := (length + size - 1) / size

theorem le_windowCount_mul {size : Nat} (length : Nat) (h : 0 < size) : length ≤ windowCount length size * size := by
  have hdiv := Nat.div_add_mod (length + size - 1) size
  have hmod := Nat.mod_lt (length + size - 1) h
  rw [Nat.mul_comm] at hdiv
  unfold windowCount
  omega

theorem windowCount_isLeast {size : Nat} (length : Nat) (h : 0 < size) :
    IsLeast {k | length ≤ k * size} (windowCount length size) := by
  refine ⟨le_windowCount_mul length h, fun k hk => ?_⟩
  have hless : length + size - 1 < size * (k + 1) := by
    change length ≤ k * size at hk
    rw [Nat.mul_succ, Nat.mul_comm]
    omega
  exact Nat.lt_succ_iff.1 (Nat.div_lt_of_lt_mul hless)

theorem windowCount_le {size : Nat} (length : Nat) (h : 0 < size) : windowCount length size ≤ length :=
  (windowCount_isLeast length h).2 (Nat.le_mul_of_pos_right length h)

/-! ### Reading an answer back -/

namespace Page

theorem readItems_documents {answer : Document} {items : List Document}
    (h : Fields.get? answer "items" = some (.array (items.map .document))) : readItems answer = .ok items := by
  have hitems : items.mapM (readItem ∘ Value.document) = .ok (items.map id) := mapM_eq_ok items fun _ _ => rfl
  rw [readItems, h]
  refine List.mapM_map.trans ?_
  rw [hitems, List.map_id]

theorem readTotal_counted {answer : Document} {n : Nat} (hn : n < 2 ^ 31)
    (h : Fields.get? answer "totalCount" = some (.array ((Database.counted n).map .document))) :
    readTotal answer = .ok n := by
  rw [readTotal, h]
  by_cases hzero : n = 0
  · rw [hzero]
    rfl
  · have hint : (Int32.ofNat n).toInt = n := Int32.toInt_ofNat_of_lt hn
    simp [Database.counted, hzero, readCount, Fields.get?, Value.toInt?, hint]

theorem ofAnswer_facet (items : List Document) {n : Nat} (w : Window) (hn : n < 2 ^ 31) :
    ofAnswer [[("items", .array (items.map .document)),
      ("totalCount", .array ((Database.counted n).map .document))]] w = .ok (ofWindow items n w) := by
  have hitems : readItems [("items", .array (items.map .document)),
      ("totalCount", .array ((Database.counted n).map .document))] = .ok items := readItems_documents rfl
  rw [ofAnswer, hitems, readTotal_counted hn rfl]
  rfl

theorem items_ofWindow (items : List Document) (n : Nat) (w : Window) : (ofWindow items n w).items = items := by
  cases w <;> rfl

theorem total_ofWindow (items : List Document) (n : Nat) (w : Window) : (ofWindow items n w).total = n := by
  cases w <;> rfl

theorem totalPages_ofWindow_page (items : List Document) {n : Nat} (hn : n < 2 ^ 31) (current size : UInt32)
    (h : 0 < size) : (ofWindow items n (.page current size h)).totalPages = windowCount n size.toNat := by
  have hle : windowCount n size.toNat ≤ numberCap :=
    Nat.le_trans (windowCount_le n (UInt32.lt_iff_toNat_lt.1 h)) (Nat.le_trans (Nat.le_of_lt hn) (by decide))
  exact Nat.min_eq_left hle

end Page

/-! ### Windows as they are asked for -/

namespace Pagination

theorem window_full {p : Pagination} (h : p.full = true) (defaultSize : UInt32) : p.window defaultSize = .all := by
  rw [window, if_pos h]

theorem window_ofPage {number size : UInt32} (hnumber : 0 < number) (hsize : 0 < size) (defaultSize : UInt32) :
    (ofPage number size).window defaultSize = .page number size hsize := by
  have hne : number ≠ 0 := (UInt32.pos_iff_ne_zero).1 hnumber
  simp [window, ofPage, hne, hsize]

end Pagination

namespace Query

def answer (db : Database) (settings : Settings) (q : Query) : Except Failure Page :=
  Id.run (q.run (Store.ofDatabase db) settings)

def paged (q : Query) (p : Pagination) : Query := { q with pagination := some p }

def firstPages (db : Database) (settings : Settings) (q : Query) (size : UInt32) (count : Nat) :
    Except Failure (List Page) :=
  (List.range count).mapM fun i => (q.paged (.ofPage (UInt32.ofNat (i + 1)) size)).answer db settings

/-- Every answer to a query is a page of these documents, whatever page is asked for. -/
structure Lists (db : Database) (settings : Settings) (q : Query) (items : List Document) : Prop where
  answers : ∃ page, q.answer db settings = .ok page
  whole : ∀ p : Pagination, p.full = true → ∃ page, (q.paged p).answer db settings = .ok page ∧
    page.items = items ∧ page.total = items.length
  part : ∀ number size : UInt32, 0 < number → 0 < size →
    ∃ page, (q.paged (.ofPage number size)).answer db settings = .ok page ∧
      page.items = (items.drop ((number.toNat - 1) * size.toNat)).take size.toNat ∧
      page.total = items.length ∧ page.totalPages = windowCount items.length size.toNat
  past : ∀ number size : UInt32, 0 < size → windowCount items.length size.toNat < number.toNat →
    ∃ page, (q.paged (.ofPage number size)).answer db settings = .ok page ∧
      page.items = [] ∧ page.total = items.length
  together : ∀ size : UInt32, 0 < size → ∃ pages,
    q.firstPages db settings size (windowCount items.length size.toNat) = .ok pages ∧
      pages.flatMap Page.items = items

theorem listing_eq_ok_iff {q : Query} {settings : Settings} {l : Listing} : q.listing settings = .ok l ↔
    q.filter.predicate q.rules (q.language.getD settings.defaultLanguage) = .ok l.predicate ∧
      l.sort = q.sort.orDefault q.defaultSort ∧ l.projection = q.projection ∧
      l.window = (q.pagination.getD {}).window settings.defaultPageSize := by
  rw [listing]
  cases q.filter.predicate q.rules (q.language.getD settings.defaultLanguage) with
  | error e =>
    constructor
    · intro h
      cases h
    · rintro ⟨h, _⟩
      cases h
  | ok predicate =>
    constructor
    · intro h
      cases h
      exact ⟨rfl, rfl, rfl, rfl⟩
    · obtain ⟨lpredicate, lsort, lprojection, lwindow⟩ := l
      rintro ⟨h, rfl, rfl, rfl⟩
      cases h
      rfl

theorem listing_paged {q : Query} {settings : Settings} {l : Listing} (h : q.listing settings = .ok l)
    (p : Pagination) :
    (q.paged p).listing settings = .ok { l with window := p.window settings.defaultPageSize } := by
  obtain ⟨hpredicate, hsort, hprojection, _⟩ := listing_eq_ok_iff.1 h
  exact listing_eq_ok_iff.2 ⟨hpredicate, hsort, hprojection, rfl⟩

section

variable {db : Database} {settings : Settings} {q : Query} {l : Listing}
  (h : q.listing settings = .ok l)
  (htexts : ∀ field s, (field, FilterValue.string s) ∈ q.filter → Pattern.CompilesLiteral s)
  (hcount : (Store.satisfying l.predicate (db.collection q.collection)).length < 2 ^ 31)

include h htexts hcount

theorem answer_eq_ok : q.answer db settings =
    .ok (Page.ofWindow (l.window.cut (l.items (db.collection q.collection)))
      (l.items (db.collection q.collection)).length l.window) := by
  have hmatch : ∀ d ∈ db.collection q.collection, ∃ b, Store.isMatch d l.predicate = .ok b :=
    fun d _ => FilterSpec.exists_isMatch_eq_ok (listing_eq_ok_iff.1 h).1 htexts d
  have hitems : (l.items (db.collection q.collection)).length < 2 ^ 31 := by
    rwa [Listing.length_items]
  have hanswer := Listing.aggregate_pipeline hmatch hcount
  simp only [answer, run, h, Store.ofDatabase, hanswer, Except.mapError, pure_bind]
  exact Page.ofAnswer_facet _ l.window hitems

theorem answer_paged (p : Pagination) :
    (q.paged p).answer db settings =
      .ok (Page.ofWindow ((p.window settings.defaultPageSize).cut (l.items (db.collection q.collection)))
        (l.items (db.collection q.collection)).length (p.window settings.defaultPageSize)) :=
  answer_eq_ok (listing_paged h p) htexts hcount

theorem answer_ofPage {number size : UInt32} (hnumber : 0 < number) (hsize : 0 < size) :
    (q.paged (.ofPage number size)).answer db settings =
      .ok (Page.ofWindow
        (((l.items (db.collection q.collection)).drop ((number.toNat - 1) * size.toNat)).take size.toNat)
        (l.items (db.collection q.collection)).length (.page number size hsize)) := by
  rw [answer_paged h htexts hcount, Pagination.window_ofPage hnumber hsize]
  rfl

theorem firstPages_eq_ok {size : UInt32} (hsize : 0 < size) {count : Nat} (hcap : count < 2 ^ 32) :
    q.firstPages db settings size count = .ok ((List.range count).map fun i =>
      Page.ofWindow (((l.items (db.collection q.collection)).drop (i * size.toNat)).take size.toNat)
        (l.items (db.collection q.collection)).length (.page (UInt32.ofNat (i + 1)) size hsize)) := by
  refine mapM_eq_ok _ fun i hi => ?_
  have hi' : i + 1 < 2 ^ 32 := by
    have hlt := List.mem_range.1 hi
    omega
  have htoNat : (UInt32.ofNat (i + 1)).toNat = i + 1 := UInt32.toNat_ofNat_of_lt hi'
  have hnumber : 0 < UInt32.ofNat (i + 1) := by
    rw [UInt32.lt_iff_toNat_lt, htoNat]
    exact Nat.succ_pos i
  rw [answer_ofPage h htexts hcount hnumber hsize, htoNat]
  rfl

theorem lists_items : q.Lists db settings (l.items (db.collection q.collection)) := by
  have hlength : (l.items (db.collection q.collection)).length < 2 ^ 31 := by
    rwa [Listing.length_items]
  constructor
  case answers => exact ⟨_, answer_eq_ok h htexts hcount⟩
  case whole =>
    intro p hp
    refine ⟨_, answer_paged h htexts hcount p, ?_⟩
    rw [Pagination.window_full hp, Page.items_ofWindow, Page.total_ofWindow]
    exact ⟨rfl, rfl⟩
  case part =>
    intro number size hnumber hsize
    refine ⟨_, answer_ofPage h htexts hcount hnumber hsize, ?_⟩
    rw [Page.items_ofWindow, Page.total_ofWindow, Page.totalPages_ofWindow_page _ hlength]
    exact ⟨rfl, rfl, rfl⟩
  case past =>
    intro number size hsize hpast
    have hnumber : 0 < number := UInt32.lt_iff_toNat_lt.2 (Nat.lt_of_le_of_lt (Nat.zero_le _) hpast)
    refine ⟨_, answer_ofPage h htexts hcount hnumber hsize, ?_, Page.total_ofWindow _ _ _⟩
    have hcovered := le_windowCount_mul (l.items (db.collection q.collection)).length
      (UInt32.lt_iff_toNat_lt.1 hsize)
    have hskip := Nat.mul_le_mul_right size.toNat (Nat.le_sub_one_of_lt hpast)
    rw [Page.items_ofWindow, List.drop_eq_nil_of_le (Nat.le_trans hcovered hskip), List.take_nil]
  case together =>
    intro size hsize
    have hcovered := le_windowCount_mul (l.items (db.collection q.collection)).length
      (UInt32.lt_iff_toNat_lt.1 hsize)
    have hcap := windowCount_le (l.items (db.collection q.collection)).length (UInt32.lt_iff_toNat_lt.1 hsize)
    refine ⟨_, firstPages_eq_ok h htexts hcount hsize (by omega), ?_⟩
    rw [List.flatMap_map]
    simp only [Page.items_ofWindow]
    rw [flatMap_windows]
    exact List.take_of_length_le hcovered

end

/-- The pages of a query that can be compiled are the parts of one listing: the documents of its collection
that satisfy its predicate, sorted and projected. -/
theorem pages_of_listing {db : Database} {settings : Settings} {q : Query} {l : Listing}
    (h : q.listing settings = .ok l)
    (htexts : ∀ field s, (field, FilterValue.string s) ∈ q.filter → Pattern.CompilesLiteral s)
    (hcount : (Store.satisfying l.predicate (db.collection q.collection)).length < 2 ^ 31) :
    ∃ sorted, StablySorted (Document.compareBy l.sort.toDocument)
        (Store.satisfying l.predicate (db.collection q.collection)) sorted ∧
      (l.sort = [] → sorted = Store.satisfying l.predicate (db.collection q.collection)) ∧
      q.Lists db settings (sorted.map (Document.projected l.projection)) := by
  refine ⟨Database.sortBy l.sort.toDocument (Store.satisfying l.predicate (db.collection q.collection)),
    Database.stablySorted_sortBy _ _, ?_, lists_items h htexts hcount⟩
  intro hsort
  rw [hsort]
  exact Database.sortBy_nil _

def sampleDatabase : Database := [("orders", Sample.orders 4)]

def sampleQuery : Query where
  collection := "orders"
  rules := [("status", .substring)]
  filter := [("status", .string "AI")]
  sort := [("total", .descending)]
  projection := some [("number", .int32 1)]

def sampleListing : Listing where
  predicate := [("status", .document [("$regex", .string "AI"), ("$options", .string "i")])]
  sort := [("total", .descending)]
  projection := some [("number", .int32 1)]
  window := .page 1 10 (by decide)

theorem pages_of_listing_sample : sampleQuery.listing {} = .ok sampleListing ∧ Pattern.CompilesLiteral "AI" ∧
    (Store.satisfying sampleListing.predicate (sampleDatabase.collection sampleQuery.collection)).length = 2 ∧
    ∃ sorted : List Document, sorted.length = 2 ∧
      sampleQuery.Lists sampleDatabase {} (sorted.map (Document.projected sampleListing.projection)) := by
  have hlisting : sampleQuery.listing {} = .ok sampleListing := rfl
  have htext : Pattern.CompilesLiteral "AI" := rfl
  have htexts : ∀ field s, (field, FilterValue.string s) ∈ sampleQuery.filter → Pattern.CompilesLiteral s := by
    intro field s hs
    cases List.mem_singleton.1 hs
    exact htext
  have hlength : (Store.satisfying sampleListing.predicate
      (sampleDatabase.collection sampleQuery.collection)).length = 2 := rfl
  have hcount : (Store.satisfying sampleListing.predicate
      (sampleDatabase.collection sampleQuery.collection)).length < 2 ^ 31 := by
    rw [hlength]
    decide
  obtain ⟨sorted, hsorted, _, hlists⟩ := pages_of_listing hlisting htexts hcount
  exact ⟨hlisting, htext, hlength, sorted, hsorted.perm.length_eq.trans hlength, hlists⟩

end Query

end Catalogue
