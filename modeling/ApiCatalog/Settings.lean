import ApiCatalog.Check
import ApiCatalog.Files.Disk
import ApiCatalog.Json.Read

set_option autoImplicit false

namespace ApiCatalog

structure Settings where
  rootFile : String := ".rqc"
  fetchTimeout : Binary64 := .ofRatio false 30 1
  remoteImports : Bool := true
  logLevel : String := "WARNING"
  deriving DecidableEq, Repr

abbrev Environment := List (String × String)

def Environment.get? (environment : Environment) (name : String) : Option String :=
  (environment.lookup name).filter (· != "")

inductive SettingsError
  | unreadable (path : PathName) (detail : String)
  | notNumber (name value : String)
  | notFlag (name value : String)
  | rejected (issues : List Issue)
  | unknownLevel (name : String)
  | notPositive (timeout : Binary64)

def SettingsError.message (explain : String → List Issue → String) : SettingsError → String
  | unreadable path detail => s!"Invalid project config at {path.toText}: {detail}"
  | notNumber name value => s!"{name} must be a number (got '{value}')"
  | notFlag name value => s!"{name} must be a boolean (got '{value}')"
  | rejected issues => "Invalid configuration: " ++ explain "ProjectConfig" issues
  | unknownLevel name => s!"Unknown log level '{name}'"
  | notPositive timeout => s!"fetch_timeout must be positive (got {timeout.toText})"

namespace Settings

def projectFile : String := "reqcraft.json"

def ofProject (disk : Disk) (directory : PathName) :
    Except (Failure SettingsError) (Option Entries) := do
  let path := directory.append (.ofText projectFile)
  let unreadable (detail : String) := Failure.reported (SettingsError.unreadable path detail)
  if ← (disk.isFile path).mapError .crashed then
    let text ← (disk.readText path).mapError fun e => unreadable (e.message path)
    match ← (Json.ofText text).mapError fun fault => unreadable (fault.message text.toList) with
    | .mapping entries => return some entries
    | _ => throw (unreadable "expected a JSON object")
  else return none

def trueWords : List String := ["1", "true", "yes", "on"]

def falseWords : List String := ["0", "false", "no", "off"]

def readTimeout (name value : String) : Except SettingsError Value :=
  match Number.read? value with
  | some timeout => .ok (.float timeout)
  | none => .error (.notNumber name value)

def readFlag (name value : String) : Except SettingsError Value :=
  let word := Text.lower (Text.trimText value)
  if trueWords.contains word then .ok (.bool true)
  else if falseWords.contains word then .ok (.bool false)
  else .error (.notFlag name value)

def readWord (_ value : String) : Except SettingsError Value := .ok (.text value)

def overrides : List (String × String × (String → String → Except SettingsError Value)) :=
  [("REQCRAFT_ROOT", "root_file", readWord),
   ("REQCRAFT_FETCH_TIMEOUT", "fetch_timeout", readTimeout),
   ("REQCRAFT_REMOTE_IMPORTS", "remote_imports", readFlag),
   ("REQCRAFT_LOG_LEVEL", "log_level", readWord)]

def overrideBy (environment : Environment) (entries : Entries) :
    List (String × String × (String → String → Except SettingsError Value)) →
    Except SettingsError Entries
  | [] => .ok entries
  | (name, member, read) :: rest => do
    match environment.get? name with
    | none => overrideBy environment entries rest
    | some value =>
      overrideBy environment (Entries.put (.text member) (← read name value) entries) rest

def check (conversions : Conversions) (entries : Entries) : Checked Settings :=
  Settings.mk <$> (Key.word "root_file").withDefault ".rqc" conversions.text entries
    <*> (Key.word "fetch_timeout").withDefault (.ofRatio false 30 1) conversions.number entries
    <*> (Key.word "remote_imports").withDefault true conversions.flag entries
    <*> (Key.word "log_level").withDefault "WARNING" conversions.text entries

def levels : List String :=
  ["CRITICAL", "FATAL", "ERROR", "WARN", "WARNING", "INFO", "DEBUG", "NOTSET"]

def validate (settings : Settings) : Except SettingsError Settings :=
  let level := Text.upper settings.logLevel
  if !levels.contains level then .error (.unknownLevel settings.logLevel)
  else if settings.fetchTimeout.isNonpositive then .error (.notPositive settings.fetchTimeout)
  else .ok { settings with logLevel := level }

def putText (member : String) (value : Option String) (entries : Entries) : Entries :=
  match value with
  | some text => Entries.put (.text member) (.text text) entries
  | none => entries

def settle (conversions : Conversions) (project : Option Entries) (environment : Environment)
    (root level : Option String) : Except SettingsError Settings := do
  let entries ← overrideBy environment (project.getD []) overrides
  match check conversions (putText "log_level" level (putText "root_file" root entries)) with
  | .ok settings => settings.validate
  | .bad issues => .error (.rejected issues)

def ofSurroundings (conversions : Conversions) (disk : Disk) (directory : PathName)
    (environment : Environment) (root level : Option String) :
    Except (Failure SettingsError) Settings := do
  let project ← ofProject disk directory
  (settle conversions project environment root level).mapError .reported

def dataDirectory (system : String) (environment : Environment) (home : PathName) : PathName :=
  if system = "Linux" ∨ "BSD".toList.isSuffixOf system.toList then
    let base := match environment.get? "XDG_DATA_HOME" with
      | some path => PathName.ofText path
      | none => home.append (.ofText ".local/share")
    base.append (.ofText "reqcraft")
  else home.append (.ofText ".reqcraft/logs")

end Settings

end ApiCatalog
