import ApiCatalog.Externals
import ApiCatalog.Files.PathName
import ApiCatalog.Text.Basic
import ApiCatalog.Text.Utf8

set_option autoImplicit false

namespace ApiCatalog

inductive FileEntry
  | file (content : List UInt8)
  | directory
  deriving DecidableEq, Repr

inductive FileError
  | missing
  | notDirectory
  | isDirectory
  | longName
  | nullInName
  | strayInName
  deriving DecidableEq, Repr

namespace FileError

def reason : FileError → String
  | missing => "[Errno 2] No such file or directory"
  | notDirectory => "[Errno 20] Not a directory"
  | isDirectory => "[Errno 21] Is a directory"
  | longName => "[Errno 36] File name too long"
  | nullInName => "embedded null byte"
  | strayInName => "surrogates not allowed"

def message (path : PathName) (e : FileError) : String :=
  if e = nullInName ∨ e = strayInName then e.reason
  else e.reason ++ ": " ++ Text.quoted path.toText

end FileError

structure Disk where
  entries : List (Location × FileEntry) := []
  workingDirectory : Location := []
  deriving Repr

namespace Disk

def entry? (disk : Disk) (location : Location) : Option FileEntry :=
  if location = [] then some .directory else disk.entries.lookup location

-- Names have at most 255 bytes and paths at most 4095.
def maxNameSize : Nat := 255

def maxPathSize : Nat := 4095

def enter (disk : Disk) (location : Location) (part : String) : Except FileError Location :=
  match disk.entry? location with
  | none => .error .missing
  | some (.file _) => .error .notDirectory
  | some .directory =>
    if part = ".." then .ok location.dropLast
    else if maxNameSize < part.utf8ByteSize then .error .longName
    else if (disk.entry? (location ++ [part])).isSome then .ok (location ++ [part])
    else .error .missing

-- Of the units that are no characters, those in this range stand for bytes.
def isNamable (c : Char) : Bool :=
  (Text.strayUnit? c).all fun unit => 0xdc80 ≤ unit && unit < 0xdd00

def find (disk : Disk) (path : PathName) : Except FileError Location :=
  if !path.toText.toList.all isNamable then .error .strayInName
  else if path.toText.toList.contains '\x00' then .error .nullInName
  else if maxPathSize < path.toText.utf8ByteSize then .error .longName
  else
    path.parts.foldlM disk.enter
      (if path.anchor = .relative then disk.workingDirectory else [])

def lookUp (disk : Disk) (path : PathName) : Except FileError FileEntry := do
  match disk.entry? (← disk.find path) with
  | some entry => .ok entry
  | none => .error .missing

-- Of the reasons why a path leads nowhere, a name that is too long is not expected.
def existing? (disk : Disk) (path : PathName) : Except Crash (Option FileEntry) :=
  match disk.lookUp path with
  | .ok entry => .ok (some entry)
  | .error .longName => .error .longFileName
  | .error _ => .ok none

def isFile (disk : Disk) (path : PathName) : Except Crash Bool :=
  (disk.existing? path).map fun
    | some (.file _) => true
    | _ => false

def read (disk : Disk) (path : PathName) : Except FileError (List UInt8) := do
  match ← disk.lookUp path with
  | .file content => .ok content
  | .directory => .error .isDirectory

def put (disk : Disk) (location : Location) (entry : FileEntry) : Disk :=
  { disk with entries := (location, entry) :: disk.entries.filter (·.1 != location) }

def makeParents (disk : Disk) (location : Location) : Disk :=
  (List.range location.length).foldl (fun disk n =>
    let parent := location.take n
    if (disk.entry? parent).isSome then disk else disk.put parent .directory) disk

def write (disk : Disk) (path : PathName) (entry : FileEntry) : Disk :=
  let location := path.location disk.workingDirectory
  (disk.makeParents location).put location entry

def delete (disk : Disk) (path : PathName) : Except FileError Disk := do
  let location ← disk.find path
  match disk.entry? location with
  | some (.file _) => .ok { disk with entries := disk.entries.filter (·.1 != location) }
  | some .directory => .error .isDirectory
  | none => .error .missing

end Disk

inductive ReadError
  | file (e : FileError)
  | encoding (fault : Utf8.Fault)
  deriving DecidableEq, Repr

def ReadError.message (path : PathName) : ReadError → String
  | file e => e.message path
  | encoding fault => fault.message

-- The text of a file; all line ends are line feeds.
def Disk.readText (disk : Disk) (path : PathName) : Except ReadError String := do
  let bytes ← (disk.read path).mapError .file
  let chars ← (Utf8.decode bytes).mapError .encoding
  return String.ofList (Text.unifyNewlines chars)

end ApiCatalog
