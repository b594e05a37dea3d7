import Catalogue.Fields

/-!
Reading a file by its path, seen from a directory that holds files only. A path is followed name by name:
a dot stays in a directory, two dots leave it, and a name that is followed by another, or by nothing after a
slash, must be that of a directory. Of what is outside of the directory only the empty device is known.
-/

set_option autoImplicit false

namespace Catalogue

inductive FileFault
  | missing
  | denied
  | notDirectory
  | isDirectory
  | nameTooLong
  | other (reason : String)
deriving DecidableEq, Repr

namespace FileFault

def message : FileFault → String
  | missing => "No such file or directory (os error 2)"
  | denied => "Permission denied (os error 13)"
  | notDirectory => "Not a directory (os error 20)"
  | isDirectory => "Is a directory (os error 21)"
  | nameTooLong => "File name too long (os error 36)"
  | other reason => reason

end FileFault

abbrev Directory := Fields String

namespace Directory

inductive Place
  | inside
  | outside
  | root
  | devices
  | file (text : String)
deriving DecidableEq, Repr

/-- The most bytes of a name, and of a path with its end. -/
def longestName : Nat := 255

def longestPath : Nat := 4096

def parts : List Char → List (List Char)
  | [] => [[]]
  | c :: cs =>
    if c = '/' then [] :: parts cs
    else
      match parts cs with
      | p :: ps => (c :: p) :: ps
      | [] => [[c]]

def enter (d : Directory) (place : Place) (name : String) : Except FileFault Place :=
  match place with
  | .inside => ((Fields.get? d name).map Place.file).elim (.error .missing) .ok
  | .root => if name = "dev" then .ok .devices else .error .missing
  | .devices => if name = "null" then .ok (.file "") else .error .missing
  | _ => .error .missing

def step (d : Directory) (place : Place) (part : List Char) : Except FileFault Place :=
  let name := String.ofList part
  match place with
  | .file _ => .error .notDirectory
  | _ =>
    if name = "" ∨ name = "." then .ok place
    else if name = ".." then
      .ok (match place with
        | .inside | .outside => .outside
        | _ => .root)
    else if longestName < name.utf8ByteSize then .error .nameTooLong
    else enter d place name

def follow (d : Directory) : Place → List (List Char) → Except FileFault Place
  | place, [] => .ok place
  | place, p :: ps => do follow d (← step d place p) ps

def read (d : Directory) (path : String) : Except FileFault String :=
  if path.isEmpty then .error .missing
  else if longestPath ≤ path.utf8ByteSize then .error .nameTooLong
  else
    let start := if path.toList.head? = some '/' then Place.root else .inside
    match follow d start (parts path.toList) with
    | .error e => .error e
    | .ok (.file text) => .ok text
    | .ok _ => .error .isDirectory

end Directory

end Catalogue
