set_option autoImplicit false

namespace Catalogue

inductive Command
  | explain (request : String)
  | tree (categories : String) (search language : Option String)
deriving DecidableEq, Repr

inductive Invocation
  | perform (c : Command)
  | version
  | help
  | misuse
deriving DecidableEq, Repr

namespace Command

structure Given where
  file : Option String := none
  search : Option String := none
  language : Option String := none

/-- The argument is an option; a lone dash is none. -/
def isOption (arg : String) : Bool :=
  match arg.toList with
  | '-' :: _ :: _ => true
  | _ => false

def Given.setFile (g : Given) (arg : String) : Option Given :=
  if g.file.isSome || arg.isEmpty then none else some { g with file := some arg }

def Given.setOption (g : Given) (name : List Char) (value : String) : Option Given :=
  if name = "--search".toList ∧ g.search.isNone then some { g with search := some value }
  else if name = "--language".toList ∧ g.language.isNone then some { g with language := some value }
  else none

def isHelp (arg : String) : Bool := arg == "--help" || "-h".toList.isPrefixOf arg.toList

/-- The arguments of a command that has options if `searches`. After a double dash there are only files;
the value of an option follows an equals sign or is the next argument, unless that is an option. -/
def readArguments (searches : Bool) (perform : Given → Option Command) :
    Given → Bool → List String → Invocation
  | g, _, [] =>
    match perform g with
    | some c => .perform c
    | none => .misuse
  | g, true, arg :: rest =>
    match g.setFile arg with
    | some g => readArguments searches perform g true rest
    | none => .misuse
  | g, false, arg :: rest =>
    if arg = "--" then readArguments searches perform g true rest
    else if isHelp arg then .help
    else if isOption arg then
      if searches then
        let cs := arg.toList
        match cs.dropWhile (· != '=') with
        | '=' :: value =>
          match g.setOption (cs.takeWhile (· != '=')) (String.ofList value) with
          | some g => readArguments searches perform g false rest
          | none => .misuse
        | _ =>
          match rest with
          | [] => .misuse
          | value :: rest =>
            if isOption value then .misuse
            else
              match g.setOption cs value with
              | some g => readArguments searches perform g false rest
              | none => .misuse
      else .misuse
    else
      match g.setFile arg with
      | some g => readArguments searches perform g false rest
      | none => .misuse

def names : List String := ["explain", "tree", "help"]

end Command

namespace Invocation

def read : List String → Invocation
  | "explain" :: args =>
    Command.readArguments false (fun g => g.file.map .explain) {} false args
  | "tree" :: args =>
    Command.readArguments true (fun g => g.file.map (.tree · g.search g.language)) {} false args
  | ["help"] => .help
  | ["help", name] => if Command.names.contains name then .help else .misuse
  | arg :: _ =>
    if Command.isHelp arg then .help
    else if arg = "--version" ∨ "-V".toList.isPrefixOf arg.toList then .version
    else .misuse
  | [] => .misuse

end Invocation

end Catalogue
