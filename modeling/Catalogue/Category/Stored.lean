import Catalogue.Category.Expansion
import Catalogue.Category.Forest
import Catalogue.Json.Decode
import Catalogue.Settings
import Catalogue.Store.Basic

set_option autoImplicit false

namespace Catalogue

structure NameSearch where
  text : String
  language : Option String

namespace NameSearch

structure Parts where
  text : Option String := none
  language : Option (Option String) := none

def record : Json.Record Parts where
  title := "CategorySearch"
  fields := ["text", "language"]
  strict := false
  optional _ := false
  blank := {}
  holds name p := if name = "text" then p.text.isSome else p.language.isSome
  take name r p :=
    if name = "text" then do pure { p with text := some (← Json.decodeString r) }
    else do pure { p with language := some (← Json.decodeOption Json.decodeString r) }

def decode (r : Json.Reading) : Except Json.Error NameSearch := do
  let p ← record.decode r
  pure ⟨← Json.required "text" p.text, p.language.join⟩

end NameSearch

structure StoredCategories (m : Type → Type) where
  store : Store m
  settings : Settings

namespace StoredCategories

variable {m : Type → Type} [Monad m]

/-- What `read` makes of the categories that match, with their descendants. -/
def traverse {α : Type} (stored : StoredCategories m) (predicate : Document)
    (read : List Document → Except Failure α) : m (Except Failure α) := do
  let collection := stored.settings.categoryCollection
  match ← stored.store.aggregate collection (Expansion.pipeline collection predicate) with
  | .error e => pure (.error (.datastore e))
  | .ok rows => pure (read rows)

def expand (stored : StoredCategories m) (predicate : Document) :
    m (Except Failure (List Placed)) :=
  stored.traverse predicate Expansion.expand

def graph (stored : StoredCategories m) : m (Except Failure Graph) :=
  stored.traverse Expansion.rootsPredicate Expansion.graph

def topMatches (stored : StoredCategories m) (text : String) (language : Option String) :
    m (Except Failure (List String)) :=
  stored.traverse Expansion.rootsPredicate fun rows => do
    let g ← Expansion.graph rows
    pure (g.topMatches text (language.getD stored.settings.defaultLanguage))

def list (stored : StoredCategories m) (predicate : Document) (search : Option NameSearch) :
    m (Except Failure (List Category)) :=
  stored.traverse predicate fun rows => do
    let g ← Expansion.graph rows
    pure (match search with
      | some s => g.search s.text (s.language.getD stored.settings.defaultLanguage)
      | none => g.flat)

def forest (stored : StoredCategories m) (predicate : Document) (search : Option NameSearch) :
    m (Except Failure (List Tree)) := do
  match ← stored.list predicate search with
  | .error e => pure (.error e)
  | .ok cs => pure (.ok (Tree.rebuild cs))

end StoredCategories

end Catalogue
