import ApiCatalog.Cli.Standard

set_option autoImplicit false

namespace ApiCatalog.Main

open Cli

def missingPath? (o : Outcome) : Option PathName :=
  match o.result with
  | .skipped (.notFound path) => some path
  | _ => none

-- The files that a run would look at and that are not on the disk, as far as it gets. With all
-- of them on the disk that can be had, a run sees what it would see on the real one.
def wanted (w : Surroundings) (arguments : List String) : List PathName :=
  match Invocation.read w.parser arguments with
  | .error _ => []
  | .ok i =>
    let project := w.directory.append (.ofText Settings.projectFile)
    match i.settings w with
    | .error _ => [project]
    | .ok settings =>
      let root := PathName.ofText settings.rootFile
      let state := (resolveDocument w.disk w.externals settings root none).2
      project :: root :: state.outcomes.filterMap missingPath?

def readEntry (path : PathName) : IO (Option FileEntry) := do
  try
    let content ← IO.FS.readBinFile path.toText
    return some (.file content.toList)
  catch
    | .inappropriateType .. => return some .directory
    | _ => return none

def addEntry (disk : Disk) (path : PathName) (entry : FileEntry) : Disk :=
  let disk := (List.range path.parts.length).foldl (fun disk n =>
    let parent := { path with parts := path.parts.take n }
    match disk.entry? (parent.location disk.workingDirectory) with
    | some _ => disk
    | none => disk.write parent .directory) disk
  disk.write path entry

-- Puts on the disk what the run wants, until it wants nothing new.
partial def collect (w : Surroundings) (arguments : List String) (tried : List PathName) :
    IO Surroundings := do
  let new := (wanted w arguments).filter (!tried.contains ·)
  if new.isEmpty then return w
  let mut disk := w.disk
  for path in new do
    if let some entry ← readEntry path then
      disk := addEntry disk path entry
  collect { w with disk } arguments (new ++ tried)

def readEnvironment : IO Environment := do
  let mut environment := []
  let names := ["NO_COLOR", "TERM", "COLUMNS", "LINES", "XDG_DATA_HOME"]
  for name in names ++ Settings.overrides.map (·.1) do
    if let some value ← IO.getEnv name then
      environment := (name, value) :: environment
  return environment

def readSurroundings : IO Surroundings := do
  let location := (PathName.ofText ((← IO.getEnv "PWD").getD "/")).parts
  let disk : Disk := { workingDirectory := location }
  return { Surroundings.standard (disk.write ⟨.root, location⟩ .directory) with
    environment := ← readEnvironment
    terminal := ← (← IO.getStdout).isTty
    home := .ofText ((← IO.getEnv "HOME").getD "/")
    time := toString (← IO.monoMsNow) }

end ApiCatalog.Main

def main (arguments : List String) : IO UInt32 := do
  let w ← ApiCatalog.Main.collect (← ApiCatalog.Main.readSurroundings) arguments []
  let (code, transcript) := ApiCatalog.Cli.run w arguments
  (← IO.getStdout).putStr transcript.stdout
  (← IO.getStderr).putStr transcript.stderr
  if let some path := transcript.crashLog then
    IO.FS.createDirAll path.parent.toText
    IO.FS.writeFile path.toText (" ".intercalate arguments ++ "\n")
  return code.number.toUInt32
