import Catalogue.Document.Decode
import Catalogue.Filter.Decode
import Catalogue.Filter.Predicate
import Catalogue.Page.Basic
import Catalogue.Page.Pipeline
import Catalogue.Settings
import Catalogue.Store.Basic

set_option autoImplicit false

namespace Catalogue

structure Query where
  collection : String
  rules : RuleTable := []
  filter : FilterSpec := []
  sort : SortSpec := []
  defaultSort : SortSpec := []
  projection : Option Document := none
  pagination : Option Pagination := none
  language : Option String := none

namespace Query

/-! ### Reading -/

structure Parts where
  collection : Option String := none
  rules : Option RuleTable := none
  filter : Option FilterSpec := none
  sort : Option SortSpec := none
  defaultSort : Option SortSpec := none
  projection : Option (Option Document) := none
  pagination : Option (Option Pagination) := none
  language : Option (Option String) := none

def Parts.holds (name : String) (p : Parts) : Bool :=
  match name with
  | "collection" => p.collection.isSome
  | "rules" => p.rules.isSome
  | "filter" => p.filter.isSome
  | "sort" => p.sort.isSome
  | "defaultSort" => p.defaultSort.isSome
  | "projection" => p.projection.isSome
  | "pagination" => p.pagination.isSome
  | _ => p.language.isSome

def Parts.take (name : String) (r : Json.Reading) (p : Parts) : Except Json.Error Parts :=
  match name with
  | "collection" => do pure { p with collection := some (← Json.decodeString r) }
  | "rules" => do pure { p with rules := some (← RuleTable.decode r) }
  | "filter" => do pure { p with filter := some (← FilterSpec.decode r) }
  | "sort" => do pure { p with sort := some (← SortSpec.decode r) }
  | "defaultSort" => do pure { p with defaultSort := some (← SortSpec.decode r) }
  | "projection" => do pure { p with projection := some (← Json.decodeOption Document.decode r) }
  | "pagination" => do pure { p with pagination := some (← Json.decodeOption Pagination.decode r) }
  | _ => do pure { p with language := some (← Json.decodeOption Json.decodeString r) }

def record : Json.Record Parts where
  title := "GatherQuery"
  fields :=
    ["collection", "rules", "filter", "sort", "defaultSort", "projection", "pagination", "language"]
  strict := false
  optional name := ["rules", "filter", "sort", "defaultSort"].contains name
  blank := {}
  holds := Parts.holds
  take := Parts.take

def decode (r : Json.Reading) : Except Json.Error Query := do
  let p ← record.decode r
  pure {
    collection := ← Json.required "collection" p.collection
    rules := p.rules.getD []
    filter := p.filter.getD []
    sort := p.sort.getD []
    defaultSort := p.defaultSort.getD []
    projection := p.projection.join
    pagination := p.pagination.join
    language := p.language.join }

/-! ### Resolving and answering -/

def listing (q : Query) (settings : Settings) : Except Failure Listing := do
  let predicate ← q.filter.predicate q.rules (q.language.getD settings.defaultLanguage)
  pure {
    predicate
    sort := q.sort.orDefault q.defaultSort
    projection := q.projection
    window := (q.pagination.getD {}).window settings.defaultPageSize }

/-- The page that a query asks for, in one exchange with the store. -/
def run {m : Type → Type} [Monad m] (store : Store m) (settings : Settings) (q : Query) :
    m (Except Failure Page) := do
  match q.listing settings with
  | .error e => pure (.error e)
  | .ok l =>
    match ← store.aggregate q.collection l.pipeline with
    | .error e => pure (.error (.datastore e))
    | .ok answer => pure (Page.ofAnswer answer l.window)

end Query

end Catalogue
