set_option autoImplicit false

namespace Catalogue

structure Settings where
  defaultPageSize : UInt32 := 10
  defaultLanguage : String := "en"
  categoryCollection : String := "categories"
  storeUrl : Option String := none
  storeDatabase : String := "backoffice"
deriving DecidableEq, Repr

inductive NumberFlaw
  | empty
  | invalidDigit
  | tooLarge
deriving DecidableEq, Repr

namespace NumberFlaw

def message : NumberFlaw → String
  | empty => "cannot parse integer from empty string"
  | invalidDigit => "invalid digit found in string"
  | tooLarge => "number too large to fit in target type"

end NumberFlaw

inductive SettingsError
  | pageSizeNotNumber (flaw : NumberFlaw)
  | pageSizeZero
deriving DecidableEq, Repr

namespace SettingsError

def messages : SettingsError → List String
  | pageSizeNotNumber flaw => ["DEFAULT_PAGE_SIZE must be a valid u32", flaw.message]
  | pageSizeZero => ["DEFAULT_PAGE_SIZE must be greater than zero"]

end SettingsError

namespace Settings

/-- Digits after an optional plus sign. Of two flaws the one that stands first counts, so too large a
number hides a later character that is no digit. -/
def parseNumber (limit : Nat) (cs : List Char) : Except NumberFlaw Nat :=
  let digits := match cs with
    | '+' :: d :: rest => d :: rest
    | cs => cs
  if cs.isEmpty then .error .empty
  else
    digits.foldlM
      (fun n c =>
        if !c.isDigit then .error .invalidDigit
        else
          let n := n * 10 + (c.toNat - '0'.toNat)
          if n < limit then .ok n else .error .tooLarge)
      0

def readPageSize (s : String) : Except SettingsError UInt32 :=
  match parseNumber 4294967296 s.toList with
  | .error flaw => .error (.pageSizeNotNumber flaw)
  | .ok 0 => .error .pageSizeZero
  | .ok (n + 1) => .ok (UInt32.ofNat (n + 1))

def ofEnvironment (valueOf : String → Option String) : Except SettingsError Settings := do
  let blank : Settings := {}
  let defaultPageSize ← match valueOf "DEFAULT_PAGE_SIZE" with
    | some s => readPageSize s
    | none => pure blank.defaultPageSize
  pure {
    defaultPageSize
    defaultLanguage := (valueOf "DEFAULT_LANGUAGE").getD blank.defaultLanguage
    categoryCollection := (valueOf "CATEGORY_COLLECTION").getD blank.categoryCollection
    storeUrl := (valueOf "MONGODB_URL").filter (!·.isEmpty)
    storeDatabase := (valueOf "MONGODB_DATABASE").getD blank.storeDatabase }

end Settings

end Catalogue
