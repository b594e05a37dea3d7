import Catalogue.Failure
import Catalogue.Store.Database

set_option autoImplicit false

namespace Catalogue

structure Store (m : Type → Type) where
  aggregate : String → Pipeline → m (Except StoreError (List Document))

namespace Store

variable {m : Type → Type} [Monad m]

def ofDatabase (db : Database) : Store m where
  aggregate collection p := pure ((db.aggregate collection p).mapError .stage)

def always (answer : Except StoreError (List Document)) : Store m where
  aggregate _ _ := pure answer

end Store

end Catalogue
