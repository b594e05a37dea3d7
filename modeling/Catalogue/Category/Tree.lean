import Catalogue.Category.Basic

set_option autoImplicit false

namespace Catalogue

inductive Tree
  | node (category : Category) (children : List Tree)

namespace Tree

def category : Tree → Category
  | node c _ => c

def children : Tree → List Tree
  | node _ ts => ts

def leaf (c : Category) : Tree := node c []

mutual

def size : Tree → Nat
  | node _ ts => 1 + sizes ts

def sizes : List Tree → Nat
  | [] => 0
  | t :: ts => size t + sizes ts

end

mutual

def preorder : Tree → List Category
  | node c ts => c :: flatten ts

def flatten : List Tree → List Category
  | [] => []
  | t :: ts => preorder t ++ flatten ts

end

mutual

def same : Tree → Tree → Bool
  | node c ts, node d us => c == d && sameForest ts us

def sameForest : List Tree → List Tree → Bool
  | [], [] => true
  | t :: ts, u :: us => same t u && sameForest ts us
  | _, _ => false

end

mutual

def toJson : Tree → Json
  | node c ts => .object (c.jsonFields ++ [("children", .array (forestToJson ts))])

def forestToJson : List Tree → List Json
  | [] => []
  | t :: ts => toJson t :: forestToJson ts

end

mutual

theorem length_preorder (t : Tree) : (preorder t).length = size t := by
  cases t with
  | node c ts => simp [preorder, size, length_flatten ts, Nat.add_comm]

theorem length_flatten (ts : List Tree) : (flatten ts).length = sizes ts := by
  cases ts with
  | nil => rfl
  | cons t ts => simp [flatten, sizes, length_preorder t, length_flatten ts]

end

end Tree

end Catalogue
