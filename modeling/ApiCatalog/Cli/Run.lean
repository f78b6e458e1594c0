import ApiCatalog.Cli.Command
import ApiCatalog.Record
import ApiCatalog.Report.Console
import ApiCatalog.Store

set_option autoImplicit false

namespace ApiCatalog.Cli

/-- All that a command depends on: what it can see, and what does parts of its work. The standard
output may be unable to take some texts; the standard error takes all of them. -/
structure Surroundings where
  disk : Disk
  externals : Externals
  records : RecordLibrary
  painter : Painter
  parser : Parser
  encodes : String → Bool
  environment : Environment := []
  terminal : Bool := false
  system : String := "Linux"
  home : PathName := {}
  -- The moment of the run, as it appears in the name of a crash log.
  time : String := ""

-- What a command has written, and where it wants the log of a crash.
structure Transcript where
  stdout : String := ""
  stderr : String := ""
  crashLog : Option PathName := none
  deriving DecidableEq, Repr

inductive ExitCode
  | success
  | failure
  | misuse
  | unreadable
  | malformed
  deriving DecidableEq, Repr

def ExitCode.number : ExitCode → Nat
  | success => 0
  | failure => 1
  | misuse => 2
  | unreadable => 3
  | malformed => 4

-- Why a command ends early: with a code, with a complaint that is still to be written, or
-- because of something that nobody expected.
inductive Stop
  | exit (code : ExitCode)
  | misused (message : String)
  | crashed

abbrev Run := ExceptT Stop (StateM Transcript)

namespace Run

def print (w : Surroundings) : List String → Run Unit
  | [] => pure ()
  | text :: rest => do
    if !w.encodes text then throw .crashed
    modify fun t => { t with stdout := t.stdout ++ text }
    print w rest

def put (w : Surroundings) : Output → Run Unit
  | .ok texts => print w texts
  | .error _ => throw .crashed

def say (w : Surroundings) (console : Console) (severity : Severity) (message : String) :
    Run Unit :=
  match console.diagnostic w.painter severity message with
  | .ok text => modify fun t => { t with stderr := t.stderr ++ text }
  | .error _ => throw .crashed

def failWith {α : Type} (w : Surroundings) (console : Console) (code : ExitCode)
    (message : String) : Run α := do
  say w console .error message
  throw (.exit code)

end Run

open Run

def exitCodeOf : DocumentError → ExitCode
  | .unreadable .. => .unreadable
  | .malformed _ => .malformed

def loadSnapshot (w : Surroundings) (console : Console) (settings : Settings) : Run Snapshot := do
  say w console .debug s!"Loading root document: {settings.rootFile}"
  let store : Store := { root := .ofText settings.rootFile, settings }
  match (store.load w.disk w.externals).result with
  | .ok snapshot => return snapshot
  | .error (.crashed _) => throw .crashed
  | .error (.reported e) => failWith w console (exitCodeOf e) e.message

def orDash (text : Option String) : String := (text.filter (· != "")).getD "-"

def outcomeRow (o : Outcome) : List String :=
  [o.source, o.status, o.reason, orDash (some o.message)]

def endpointRow (e : Endpoint) : List String :=
  [e.id, e.kind.name, orDash e.method, e.path, orDash e.name,
   orDash ((e.categoryName.filter (· != "")).or e.categoryId)]

def variableRow (v : Variable) : List String := [v.name, v.type, v.default.getD "-"]

def headerRow (h : Header) : List String := [h.name, h.default.getD "-"]

mutual
def nodeLines (depth : Nat) : CategoryNode → List String
  | ⟨id, name, _, count, children⟩ =>
    (String.ofList (List.replicate (2 * depth) ' ') ++ id ++ "\t" ++ orDash name ++ "\t" ++
      toString count) :: nodesLines (depth + 1) children

def nodesLines (depth : Nat) : List CategoryNode → List String
  | [] => []
  | node :: rest => nodeLines depth node ++ nodesLines depth rest
end

mutual
def nodeLabels (depth : Nat) : CategoryNode → List (Nat × String)
  | ⟨id, name, _, count, children⟩ =>
    (depth, (name.filter (· != "")).getD id ++ s!" ({count})") :: nodesLabels (depth + 1) children

def nodesLabels (depth : Nat) : List CategoryNode → List (Nat × String)
  | [] => []
  | node :: rest => nodeLabels depth node ++ nodesLabels depth rest
end

def outcomeTable (w : Surroundings) (console : Console) (outcomes : List Outcome) : Output :=
  console.table w.painter "Import outcomes" ["Source", "Status", "Reason", "Message"]
    (outcomes.map outcomeRow)

def endpointTable (w : Surroundings) (console : Console) (endpoints : List Endpoint) : Output :=
  console.table w.painter s!"Endpoints ({endpoints.length})"
    ["ID", "Type", "Method", "Path", "Name", "Category"] (endpoints.map endpointRow)

def runCheck (w : Surroundings) (console : Console) (strict : Bool) (snapshot : Snapshot) :
    Run Unit := do
  put w (outcomeTable w console snapshot.outcomes)
  let endpoints := snapshot.endpoints.length
  let categories := snapshot.categoryTree.length
  say w console .success
    s!"Loaded {endpoints} endpoint(s) in {categories} top-level category(ies)"
  let skipped := (snapshot.outcomes.filter (·.isSkipped)).length
  if skipped ≠ 0 then
    say w console .warning s!"{skipped} import(s) skipped"
    if strict then throw (.exit .failure)

def runEndpoints (w : Surroundings) (console : Console) (kind : Option EndpointKind)
    (snapshot : Snapshot) : Run Unit :=
  put w (endpointTable w console (snapshot.endpoints.filter fun e => kind.all (· == e.kind)))

def runCategories (w : Surroundings) (console : Console) (snapshot : Snapshot) : Run Unit :=
  let nodes := snapshot.categoryTree
  put w <| match console.format with
  | .json => console.data w.painter (.list ((nodeObjects nodes).map (w.records.dump .outward)))
  | .plain => .ok ((nodesLines 0 nodes).map Console.line)
  | .rich => (w.painter.tree console.width ((0, "Categories") :: nodesLabels 1 nodes)).map ([·])

def runVariables (w : Surroundings) (console : Console) (snapshot : Snapshot) : Run Unit :=
  let declared := snapshot.document.configVariables
  put w (console.table w.painter s!"Variables ({declared.length})" ["Name", "Type", "Default"]
    (declared.map variableRow))

def runHeaders (w : Surroundings) (console : Console) (snapshot : Snapshot) : Run Unit :=
  let headers := snapshot.document.headers
  put w (console.table w.painter s!"Headers ({headers.length})" ["Name", "Default"]
    (headers.map headerRow))

def runMock (w : Surroundings) (console : Console) (method path : String) (snapshot : Snapshot) :
    Run Unit :=
  match Endpoint.find? snapshot.endpoints method path with
  | some endpoint => put w (console.data w.painter (mockPayload endpoint.response))
  | none => failWith w console .misuse s!"No HTTP endpoint matches {Text.upper method} {path}"

def runCommand (w : Surroundings) (console : Console) (settings : Settings) (command : Command) :
    Run Unit := do
  match command with
  | .mock _ path =>
    if !"/".toList.isPrefixOf path.toList then
      throw (.misused s!"Endpoint path must start with '/' (got '{path}')")
  | _ => pure ()
  let snapshot ← loadSnapshot w console settings
  match command with
  | .check strict => runCheck w console strict snapshot
  | .endpoints kind => runEndpoints w console kind snapshot
  | .categories => runCategories w console snapshot
  | .listVariables => runVariables w console snapshot
  | .headers => runHeaders w console snapshot
  | .document =>
    put w (console.data w.painter (w.records.dump .outward snapshot.document.object))
  | .mock method path => runMock w console method path snapshot

def Invocation.console (w : Surroundings) (i : Invocation) : Except Crash Console :=
  let choice : FormatChoice :=
    if i.options.has "--json" then .fixed .json
    else if i.options.has "--plain" then .fixed .plain
    else .auto
  Console.ofOptions w.painter choice (i.options.has "--no-color") (i.options.has "--quiet")
    (i.options.has "--verbose") w.terminal w.environment

def Surroundings.directory (w : Surroundings) : PathName := ⟨.root, w.disk.workingDirectory⟩

def Invocation.settings (w : Surroundings) (i : Invocation) :
    Except (Failure SettingsError) Settings :=
  Settings.ofSurroundings w.externals.conversions w.disk w.directory w.environment
    (i.options.value? "--root") (if i.options.has "--verbose" then some "DEBUG" else none)

def settle (w : Surroundings) (console : Console) (i : Invocation) : Run Settings :=
  match i.settings w with
  | .ok settings => return settings
  | .error (.crashed _) => throw .crashed
  | .error (.reported e) => failWith w console .failure (e.message w.externals.explain)

def versionLine : String := "reqcraft 0.1.0"

def usage : String := "Usage: reqcraft [OPTIONS] COMMAND [ARGS]..."

def takeDetour {α : Type} (w : Surroundings) : Detour → Run α
  | .eager option => do
    print w [Console.line (if option = "--version" then versionLine else usage)]
    throw (.exit .success)
  | .misused detail => do
    modify fun t => { t with stderr := t.stderr ++ Console.line (usage ++ "\n" ++ detail) }
    throw (.exit .misuse)

-- The settings are settled before the arguments of the command are looked at.
def runInvocation (w : Surroundings) (console : Console) (i : Invocation) : Run Unit := do
  let settings ← settle w console i
  match Command.read w.parser i with
  | .ok command => runCommand w console settings command
  | .error detour => takeDetour w detour

def crashLog (w : Surroundings) : PathName :=
  (Settings.dataDirectory w.system w.environment w.home).append
    (.ofText s!"logs/crash-{w.time}.log")

-- What is still to be written after an early end. If that fails too, nothing is.
def afterStop (w : Surroundings) (console : Console) : Stop → Run ExitCode
  | .exit code => return code
  | .misused message => do
    say w console .error message
    return .misuse
  | .crashed => do
    modify fun t => { t with crashLog := some (crashLog w) }
    say w console .error s!"Unexpected error. Debug log: {(crashLog w).toText}"
    return .failure

def finish (w : Surroundings) (console : Console) (result : Except Stop Unit × Transcript) :
    ExitCode × Transcript :=
  match result with
  | (.ok (), t) => (.success, t)
  | (.error stop, t) =>
    match (afterStop w console stop).run.run t with
    | (.ok code, t) => (code, t)
    | (.error _, t) => (.failure, t)

/-- The whole program: its exit code and what it writes. Without a console nothing can be said. -/
def run (w : Surroundings) (arguments : List String) : ExitCode × Transcript :=
  match Invocation.read w.parser arguments with
  | .error detour => finish w {} ((takeDetour w detour).run.run {})
  | .ok i =>
    match i.console w with
    | .ok console => finish w console ((runInvocation w console i).run.run {})
    | .error _ => (.failure, { crashLog := some (crashLog w) })

end ApiCatalog.Cli
