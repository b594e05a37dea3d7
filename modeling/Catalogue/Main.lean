import Catalogue.Command.Run

set_option autoImplicit false

namespace Catalogue.Command

def fault : IO.Error → FileFault
  | .noFileOrDirectory .. => .missing
  | .permissionDenied .. => .denied
  | .inappropriateType _ n _ => if n = 20 then .notDirectory else .isDirectory
  | .invalidArgument _ 36 _ => .nameTooLong
  | e => .other (toString e)

def fetch (path : String) : IO (Except FileFault String) := do
  try
    pure (.ok (← IO.FS.readFile path))
  catch e => pure (.error (fault e))

/-- The first file `.env` of the working directory and those above it. -/
def fetchEnvironmentFile : IO (Except FileFault String) := do
  let above := (← IO.currentDir).toString.toList.count '/'
  for n in List.range (above + 1) do
    let found ← fetch (String.join (List.replicate n "../") ++ ".env")
    if found.toBool then return found
  pure (.error .missing)

def pieces (p : Char → Bool) (cs : List Char) : List String :=
  let (done, last) := cs.foldl
    (fun (done, last) c => if p c then (done, c :: last) else (last :: done, []))
    (([] : List (List Char)), ([] : List Char))
  ((last :: done).filter (!·.isEmpty)).map fun piece => String.ofList piece.reverse

def mentioned (text : String) : List String :=
  pieces Environment.continuesName text.toList ++ pieces Unicode.isAlphanumeric text.toList

def fetchVariables (names : List String) : IO Environment := do
  let mut env : Environment := []
  for name in names do
    match ← IO.getEnv name with
    | some value => env := Fields.put env name value
    | none => pure ()
  pure env

def settingNames : List String :=
  ["DEFAULT_PAGE_SIZE", "DEFAULT_LANGUAGE", "CATEGORY_COLLECTION", "MONGODB_URL", "MONGODB_DATABASE"]

def inputFile : Invocation → Option String
  | .perform (.explain path) => some path
  | .perform (.tree path _ _) => some path
  | _ => none

end Catalogue.Command

open Catalogue in
def main (args : List String) : IO UInt32 := do
  let invocation := Invocation.read args
  let environmentFile ← Command.fetchEnvironmentFile
  let env ← Command.fetchVariables
    (Command.settingNames ++ (environmentFile.toOption.map Command.mentioned).getD [])
  let input ← (Command.inputFile invocation).mapM Command.fetch
  let files : Command.Files := fun path =>
    if Command.inputFile invocation = some path then input.getD environmentFile else environmentFile
  let outcome := invocation.run env files
  IO.print outcome.output
  IO.eprint outcome.errors
  pure outcome.exitCode
