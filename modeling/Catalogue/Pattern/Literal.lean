set_option autoImplicit false

namespace Catalogue.Pattern

def isMeta (c : Char) : Bool :=
  ['\\', '.', '+', '*', '?', '(', ')', '|', '[', ']', '\x7b', '\x7d', '^', '$', '#', '&', '-', '~'].contains c

def escape (cs : List Char) : List Char := cs.flatMap fun c => if isMeta c then ['\\', c] else [c]

end Catalogue.Pattern
