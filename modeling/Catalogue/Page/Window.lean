import Catalogue.Json.Basic
import Catalogue.Json.Decode

set_option autoImplicit false

namespace Catalogue

structure Pagination where
  current : Option UInt32 := none
  pageSize : Option UInt32 := none
  full : Bool := false
deriving DecidableEq, Repr

inductive Window
  | all
  | page (current size : UInt32) (size_pos : 0 < size)
deriving DecidableEq

namespace Window

def page? (current size : UInt32) : Option Window :=
  if h : 0 < size then some (page current size h) else none

def skip : Window → Nat
  | all => 0
  | page current size _ => (current.toNat - 1) * size.toNat

end Window

namespace Pagination

def ofPage (current size : UInt32) : Pagination := ⟨some current, some size, false⟩

def everything : Pagination := ⟨none, none, true⟩

/-- The first page where none is asked for; sizes that are absent or zero give way to the default, and a
default of zero to one. -/
def window (p : Pagination) (defaultSize : UInt32) : Window :=
  if p.full then .all
  else
    let current := p.current.getD 1
    let current := if current = 0 then 1 else current
    let asked := p.pageSize.getD 0
    if h : 0 < asked then .page current asked h
    else if h : 0 < defaultSize then .page current defaultSize h
    else .page current 1 (by decide)

structure Parts where
  current : Option (Option UInt32)
  pageSize : Option (Option UInt32)
  full : Option Bool

def record : Json.Record Parts where
  title := "Pagination"
  fields := ["current", "pageSize", "full"]
  strict := false
  optional name := name == "full"
  blank := ⟨none, none, none⟩
  holds name p :=
    if name = "current" then p.current.isSome
    else if name = "pageSize" then p.pageSize.isSome
    else p.full.isSome
  take name r p :=
    if name = "current" then do pure { p with current := some (← Json.decodeOption Json.decodeUInt32 r) }
    else if name = "pageSize" then do
      pure { p with pageSize := some (← Json.decodeOption Json.decodeUInt32 r) }
    else do pure { p with full := some (← Json.decodeBoolean r) }

def decode (r : Json.Reading) : Except Json.Error Pagination := do
  let p ← record.decode r
  pure ⟨p.current.join, p.pageSize.join, p.full.getD false⟩

def toJson (p : Pagination) : Json :=
  let number := Json.ofOption fun n : UInt32 => Json.integer n.toNat
  .object [("current", number p.current), ("pageSize", number p.pageSize), ("full", .boolean p.full)]

end Pagination

end Catalogue
