import Catalogue.Category.Decode
import Catalogue.Category.Forest
import Catalogue.Command.Directory
import Catalogue.Command.Line
import Catalogue.Environment
import Catalogue.Query

set_option autoImplicit false

namespace Catalogue

structure Report where
  message : String
  causes : List String
deriving DecidableEq, Repr

namespace Report

def indentLines (blanks : Nat) (s : String) : String :=
  String.ofList (s.toList.flatMap fun c => if c = '\n' then '\n' :: List.replicate blanks ' ' else [c])

def numbered : Nat → List String → List String
  | _, [] => []
  | n, cause :: rest =>
    let digits := toString n
    let margin := String.ofList (List.replicate (5 - digits.length) ' ')
    (margin ++ digits ++ ": " ++ indentLines 7 cause) :: numbered (n + 1) rest

/-- The lines of a report: a single cause is indented, several ones are numbered. -/
def text (r : Report) : String :=
  let causes := match r.causes with
    | [] => []
    | [cause] => ["", "Caused by:", "    " ++ indentLines 4 cause]
    | causes => "" :: "Caused by:" :: numbered 0 causes
  "\n".intercalate (("Error: " ++ r.message) :: causes)

end Report

structure Outcome where
  exitCode : UInt32
  output : String
  errors : String
deriving DecidableEq, Repr

namespace Outcome

def versionText : String := "backoffice 0.2.1-devel\n"

def usage : String :=
  "Usage: backoffice explain <REQUEST>\n" ++
  "       backoffice tree [--search <SEARCH>] [--language <LANGUAGE>] <CATEGORIES>\n" ++
  "       backoffice --version\n"

def ofReport (r : Report) : Outcome := ⟨1, "", r.text ++ "\n"⟩

def aborted : Outcome := ⟨101, "", "failed to set environment variable\n"⟩

end Outcome

namespace Command

abbrev Files := String → Except FileFault String

def readFile (files : Files) (path : String) : Except Report String :=
  (files path).mapError fun cause => ⟨"failed to read " ++ path, [cause.message]⟩

def readSettings (env : Environment) : Except Report Settings :=
  (Settings.ofEnvironment (Fields.get? env)).mapError fun e =>
    ⟨"failed to load configuration", e.messages⟩

def decodeFile {α : Type} (d : Json.Decoder α) (failed text : String) : Except Report α :=
  (Json.decodeText d text).mapError fun e => ⟨failed, [e.message]⟩

def perform (settings : Settings) (files : Files) : Command → Except Report Json
  | explain request => do
    let text ← readFile files request
    let query ← decodeFile Query.decode "failed to parse gather request" text
    let listing ← (query.listing settings).mapError fun e =>
      (⟨"failed to compile request", [e.message]⟩ : Report)
    pure listing.pipeline.toJson
  | tree categories search language => do
    let text ← readFile files categories
    let cs ← decodeFile Category.decodeList "failed to parse category listing" text
    let g := Graph.ofList cs
    let flat := match search with
      | some s => g.search s (language.getD settings.defaultLanguage)
      | none => g.flat
    pure (.array (Tree.forestToJson (Tree.rebuild flat)))

/-- The environment with the variables of the file `.env`, if there is one; none if they are unusable. -/
def loadEnvironment (env : Environment) (files : Files) : Option Environment :=
  match files ".env" with
  | .ok text => env.addFile text
  | .error _ => some env

end Command

def Invocation.outcome (env : Environment) (files : Command.Files) : Invocation → Outcome
  | .version => ⟨0, Outcome.versionText, ""⟩
  | .help => ⟨0, Outcome.usage, ""⟩
  | .misuse => ⟨2, "", Outcome.usage⟩
  | .perform c =>
    let shown := do
      let settings ← Command.readSettings env
      c.perform settings files
    match shown with
    | .ok j => ⟨0, j.writeIndented ++ "\n", ""⟩
    | .error r => Outcome.ofReport r

/-- The outcome of a run of the program. An unusable variable ends it before anything else. -/
def Invocation.run (env : Environment) (files : Command.Files) (i : Invocation) : Outcome :=
  match Command.loadEnvironment env files with
  | none => .aborted
  | some env => i.outcome env files

end Catalogue
