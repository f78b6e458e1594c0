import ApiCatalog.Cli.Run
import ApiCatalog.Externals.Standard
import ApiCatalog.Record.Standard
import ApiCatalog.Report.Standard

set_option autoImplicit false

namespace ApiCatalog.Cli

namespace Parser

-- A cluster of short options. The last one of them may lack its value.
def readCluster (specs : List OptionSpec) :
    List Char → Except String (List Occurrence × Option String)
  | [] => .ok ([], none)
  | c :: rest =>
    match specs.find? (·.short == some c) with
    | none => .error s!"No such option: -{c}"
    | some spec =>
      if !spec.takesValue then
        (readCluster specs rest).map fun (more, lacking) => (⟨spec.name, ""⟩ :: more, lacking)
      else if rest.isEmpty then .ok ([], some spec.name)
      else .ok ([⟨spec.name, String.ofList rest⟩], none)

-- One argument that starts with a dash. Only a long option has its value behind an equals sign.
def readOption (specs : List OptionSpec) (argument : String) :
    Except String (List Occurrence × Option String) :=
  let chars := argument.toList
  let name := String.ofList (chars.takeWhile (· != '='))
  let attached := match chars.dropWhile (· != '=') with
    | _ :: value => some (String.ofList value)
    | [] => none
  match specs.find? (·.name == name), attached with
  | some spec, some value =>
    if spec.takesValue then .ok ([⟨spec.name, value⟩], none)
    else .error s!"Option '{name}' does not take a value."
  | some spec, none =>
    if spec.takesValue then .ok ([], some spec.name) else .ok ([⟨spec.name, ""⟩], none)
  | none, _ =>
    if "--".toList.isPrefixOf chars then .error s!"No such option: {name}"
    else readCluster specs (chars.drop 1)

def isOption (argument : String) : Bool :=
  match argument.toList with
  | '-' :: _ :: _ => true
  | _ => false

def readArguments (specs : List OptionSpec) (mixed : Bool) :
    List String → Except String Arguments
  | [] => .ok {}
  | "--" :: rest => .ok { values := rest }
  | argument :: rest =>
    if isOption argument then
      match readOption specs argument with
      | .error detail => .error detail
      | .ok (given, none) => (readArguments specs mixed rest).map (·.withOptions given)
      | .ok (given, some name) =>
        match rest with
        | [] => .error s!"Option '{name}' requires an argument."
        | value :: rest =>
          (readArguments specs mixed rest).map (·.withOptions (given ++ [⟨name, value⟩]))
    else if mixed then
      (readArguments specs mixed rest).map fun a => { a with values := argument :: a.values }
    else .ok { values := argument :: rest }

def firstEager? (spec : CommandSpec) (a : Arguments) : Option String :=
  (a.options.find? fun given => spec.options.any fun o => o.name == given.name && o.isEager).map
    (·.name)

def badChoice? (spec : CommandSpec) (a : Arguments) : Option String :=
  spec.options.findSome? fun o => do
    let choices ← o.choices
    let value ← a.value? o.name
    if choices.contains value then none else some value

def checkValues (spec : CommandSpec) (values : List String) : Except Detour Unit :=
  if spec.commands.isEmpty then
    match spec.needed.drop values.length, values.drop spec.needed.length with
    | name :: _, _ => .error (.misused s!"Missing argument '{name}'.")
    | [], value :: _ => .error (.misused s!"Got unexpected extra argument ({value})")
    | [], [] => .ok ()
  else
    match values with
    | [] => .error (.misused "Missing command.")
    | command :: _ =>
      if spec.commands.contains command then .ok ()
      else .error (.misused s!"No such command '{command}'.")

-- An eager option goes before everything but malformed options.
def readSpec (spec : CommandSpec) (arguments : List String) : Except Detour Arguments := do
  let a ← (readArguments spec.options spec.commands.isEmpty arguments).mapError .misused
  match firstEager? spec a with
  | some option => throw (.eager option)
  | none =>
    checkValues spec a.values
    match badChoice? spec a with
    | some value => throw (.misused s!"Invalid value: '{value}'")
    | none => return a

def standard : Parser := ⟨readSpec⟩

end Parser

def Surroundings.standard (disk : Disk) : Surroundings where
  disk
  externals := .standard []
  records := .standard
  painter := .standard
  parser := .standard
  encodes text := text.toList.all fun c => (Text.strayUnit? c).isNone

end ApiCatalog.Cli
