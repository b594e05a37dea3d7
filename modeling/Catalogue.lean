import Catalogue.Category.Stored
import Catalogue.Main
import Catalogue.Proofs.Category.InputOrder
import Catalogue.Proofs.Category.RoundTrip
import Catalogue.Proofs.Page.Paging
import Catalogue.Sample
import Catalogue.Proofs.Category.Subgraph
import Catalogue.Proofs.Category.Cycles
import Catalogue.Proofs.Category.Pruning
import Catalogue.Proofs.Category.Descendants
import Catalogue.Proofs.Store.Lookup
import Catalogue.Proofs.Category.Collection
import Catalogue.Proofs.Category.Expansion
import Catalogue.Proofs.Category.Hierarchy
import Catalogue.Proofs.Category.Promotion
import Catalogue.Proofs.Category.Search
import Catalogue.Proofs.Filter.Conditions
import Catalogue.Proofs.Filter.Constraints
import Catalogue.Proofs.Category.Preorder
import Catalogue.Proofs.Store.Closure
import Catalogue.Proofs.Category.Identity
import Catalogue.Proofs.Category.SiblingOrder
import Catalogue.Proofs.Category.TopLevel
import Catalogue.Proofs.Page.Metadata
import Catalogue.Proofs.Filter.Bounds
import Catalogue.Proofs.Filter.Dates
import Catalogue.Proofs.Store.SortKeys
import Catalogue.Proofs.Pattern.Literal
import Catalogue.Proofs.Filter.Literal
import Catalogue.Proofs.Unicode.LowerCase
import Catalogue.Proofs.Category.Names
import Catalogue.Proofs.Binary64.Integers
import Catalogue.Proofs.Filter.Integers
import Catalogue.Proofs.Store.Projection
import Catalogue.Proofs.Filter.Rejection
import Catalogue.Proofs.Time.PlainDate
import Catalogue.Proofs.Time.Calendar
import Catalogue.Proofs.Time.DateTime
import Catalogue.Proofs.Filter.Wire
import Catalogue.Proofs.Tables
