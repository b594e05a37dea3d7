import Catalogue.Document.Text
import Catalogue.Page.Window
import Catalogue.Sort.Spec

set_option autoImplicit false

namespace Catalogue

/-- A stage is a document whose first field names the operation and holds its argument. -/
abbrev Pipeline := List Document

namespace Pipeline

def names (p : Pipeline) : List String := p.filterMap fun stage => stage.head?.map (·.1)

def toJson (p : Pipeline) : Json := .array (p.map Document.toJson)

end Pipeline

structure Listing where
  predicate : Document
  sort : SortSpec
  projection : Option Document
  window : Window

namespace Listing

/-- The stages that cut a listing down to its window. The offset is capped at the greatest 64-bit integer. -/
def windowStages : Window → Pipeline
  | .all => [[("$match", .document [])]]
  | .page current size h =>
    let skip := min (Window.page current size h).skip 9223372036854775807
    [[("$skip", .int64 (Int64.ofNat skip))], [("$limit", .int64 (Int64.ofNat size.toNat))]]

def countStages : Pipeline := [[("$count", .string "count")]]

def sortStages (s : SortSpec) : Pipeline :=
  if s.isEmpty then [] else [[("$sort", .document s.toDocument)]]

def projectStages : Option Document → Pipeline
  | none | some [] => []
  | some d => [[("$project", .document d)]]

def facetStage (w : Window) : Document :=
  [("$facet", .document [
    ("items", .array ((windowStages w).map .document)),
    ("totalCount", .array (countStages.map .document))])]

def pipeline (l : Listing) : Pipeline :=
  [[("$match", .document l.predicate)]] ++ sortStages l.sort ++ projectStages l.projection ++
    [facetStage l.window]

end Listing

end Catalogue
