import ApiCatalog.Catalog
import ApiCatalog.Cli.Arguments

set_option autoImplicit false

namespace ApiCatalog.Cli

def helpOption : OptionSpec := { name := "--help", isEager := true }

def programSpec : CommandSpec where
  options :=
    [{ name := "--version", isEager := true },
     { name := "--root", short := some 'r', takesValue := true },
     { name := "--json" }, { name := "--plain" }, { name := "--no-color" },
     { name := "--quiet", short := some 'q' }, { name := "--verbose", short := some 'v' },
     helpOption]
  commands := ["check", "inspect"]

def checkSpec : CommandSpec where
  options := [{ name := "--strict" }, helpOption]

def inspectSpec : CommandSpec where
  options := [helpOption]
  commands := ["endpoints", "categories", "variables", "headers", "document", "mock"]

def endpointsSpec : CommandSpec where
  options :=
    [{ name := "--type", short := some 't', takesValue := true
       choices := some ["http", "websocket", "socketio", "sse"] }, helpOption]

def plainSpec : CommandSpec where
  options := [helpOption]

def mockSpec : CommandSpec where
  options := [helpOption]
  needed := ["METHOD", "PATH"]

structure Invocation where
  options : Arguments
  command : String
  rest : List String

def missingCommand {α : Type} : Except Detour α := .error (.misused "Missing command.")

def Invocation.read (parser : Parser) (arguments : List String) : Except Detour Invocation := do
  let a ← parser.read programSpec arguments
  match a.values with
  | [] => missingCommand
  | command :: rest => return ⟨a, command, rest⟩

inductive Command
  | check (strict : Bool)
  | endpoints (kind : Option EndpointKind)
  | categories
  | listVariables
  | headers
  | document
  | mock (method path : String)
  deriving DecidableEq, Repr

namespace Command

def readMock (parser : Parser) (arguments : List String) : Except Detour Command := do
  let a ← parser.read mockSpec arguments
  match a.values with
  | [method, path] => return mock method path
  | _ => missingCommand

def readInspect (parser : Parser) (arguments : List String) : Except Detour Command := do
  let a ← parser.read inspectSpec arguments
  match a.values with
  | "endpoints" :: rest =>
    let a ← parser.read endpointsSpec rest
    return endpoints ((a.value? "--type").bind EndpointKind.ofName?)
  | "categories" :: rest => (parser.read plainSpec rest).map fun _ => categories
  | "variables" :: rest => (parser.read plainSpec rest).map fun _ => listVariables
  | "headers" :: rest => (parser.read plainSpec rest).map fun _ => headers
  | "document" :: rest => (parser.read plainSpec rest).map fun _ => document
  | "mock" :: rest => readMock parser rest
  | _ => missingCommand

def read (parser : Parser) (invocation : Invocation) : Except Detour Command := do
  if invocation.command = "check" then
    let a ← parser.read checkSpec invocation.rest
    return check (a.has "--strict")
  else readInspect parser invocation.rest

end Command

end ApiCatalog.Cli
