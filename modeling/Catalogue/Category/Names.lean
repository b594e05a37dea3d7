import Catalogue.Fields

set_option autoImplicit false

namespace Catalogue

/-- Entries by language, ascending. -/
abbrev Names := Fields String

namespace Names

def insert : Names → String → String → Names
  | [], language, name => [(language, name)]
  | (l, n) :: rest, language, name =>
    if language = l then (language, name) :: rest
    else if language < l then (language, name) :: (l, n) :: rest
    else (l, n) :: insert rest language name

/-- Of several names for one language the last counts. -/
def ofList (entries : List (String × String)) : Names :=
  entries.foldl (fun names e => names.insert e.1 e.2) []

end Names

end Catalogue
