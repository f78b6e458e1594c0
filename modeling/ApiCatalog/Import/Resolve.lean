import ApiCatalog.Document
import ApiCatalog.Import.Outcome
import ApiCatalog.Settings
import ApiCatalog.Spec.Source

set_option autoImplicit false

namespace ApiCatalog

structure ImportContext where
  disk : Disk
  externals : Externals
  baseDirectory : PathName
  fetchTimeout : Binary64 := .ofRatio false 30 1
  remoteImports : Bool := true

/-- `unopened` holds the locations that no description has been read from, and `opened` the paths
of all that were read, in order. `requests` is what went to the network. -/
structure ImportState where
  unopened : List Location
  opened : List PathName := []
  outcomes : List Outcome := []
  requests : List Request := []

namespace ImportState

def start (disk : Disk) : ImportState := { unopened := disk.entries.map (·.1) }

def note (s : ImportState) (o : Outcome) : ImportState :=
  { s with outcomes := s.outcomes ++ [o] }

def ask (s : ImportState) (requests : List Request) : ImportState :=
  { s with requests := s.requests ++ requests }

def enter (s : ImportState) (path : PathName) (location : Location) : ImportState :=
  { s with unopened := s.unopened.filter (· != location), opened := s.opened ++ [path] }

def records (s : ImportState) : List LogRecord := s.outcomes.filterMap Outcome.record?

theorem length_enter_lt {s : ImportState} {location : Location} (path : PathName)
    (isUnopened : location ∈ s.unopened) :
    (s.enter path location).unopened.length < s.unopened.length :=
  List.length_filter_lt_length_iff_exists.2 ⟨location, isUnopened, by simp⟩

end ImportState

-- What following references gives, with at most so many locations left to be read from.
abbrev Followed (size : Nat) :=
  { r : Except Crash Document × ImportState // r.2.unopened.length ≤ size }

def Followed.within {size limit : Nat} (r : Followed size) (le : size ≤ limit) : Followed limit :=
  ⟨r.1, Nat.le_trans r.2 le⟩

inductive ImportStep
  | skip (why : SkipReason)
  | load (document : Document)
  | read (path : PathName)

namespace ImportContext

def location (c : ImportContext) (path : PathName) : Location :=
  path.location c.disk.workingDirectory

-- References that start with a dot part are relative to the importer, all others to the base
-- directory.
def pathOf (c : ImportContext) (importer : PathName) (reference : String) : PathName :=
  if "./".toList.isPrefixOf reference.toList || "../".toList.isPrefixOf reference.toList then
    importer.parent.append (.ofText reference)
  else c.baseDirectory.append (.ofText reference)

def ofSpec (c : ImportContext) (skip : String → SkipReason) :
    Except SpecFailure Document → Except Crash ImportStep
  | .ok document => .ok (.load document)
  | .error (.reported e) => .ok (.skip (skip (e.message c.externals.explain)))
  | .error (.crashed crash) => .error crash

def isSpec (path : PathName) : Bool :=
  [".json", ".yaml", ".yml"].contains (Text.lower path.suffix)

def examinePath (c : ImportContext) (importer : PathName) (reference : String) :
    Except Crash ImportStep := do
  let path := c.pathOf importer reference
  if (← c.disk.existing? path).isNone then .ok (.skip (.notFound path))
  else if path.isDescription then .ok (.read path)
  else if isSpec path then
    c.ofSpec .invalidSpec (Spec.documentOfFile c.disk c.externals path)
  else .ok (.skip (.unsupported reference))

def consult (c : ImportContext) (importer : PathName) (reference : String) :
    Asked (Except Crash ImportStep) :=
  if Url.isUrl reference then
    if c.remoteImports then
      (Spec.documentOfUrl c.externals c.fetchTimeout reference).map (c.ofSpec .fetchFailed)
    else .silent (.ok (.skip .remoteDisabled))
  else .silent (c.examinePath importer reference)

def examine (c : ImportContext) (importer : PathName) (reference : String) :
    Except Crash ImportStep :=
  (c.consult importer reference).result

def requests (c : ImportContext) (importer : PathName) (reference : String) : List Request :=
  (c.consult importer reference).requests

/-- Follows references in order and depth first, and merges what they load into the document. A
location is read from at most once, which is why this ends. -/
def follow (c : ImportContext) (importer : PathName) (document : Document)
    (references : List String) (s : ImportState) : Followed s.unopened.length :=
  match references with
  | [] => ⟨(.ok document, s), Nat.le_refl _⟩
  | reference :: rest =>
    let asked := s.ask (c.requests importer reference)
    let skip (why : SkipReason) : Outcome := ⟨reference, some importer, .skipped why⟩
    let loaded : Outcome := ⟨reference, some importer, .loaded⟩
    match c.examine importer reference with
    | .error crash => ⟨(.error crash, asked), Nat.le_refl _⟩
    | .ok (.skip why) =>
      (c.follow importer document rest (asked.note (skip why))).within (Nat.le_refl _)
    | .ok (.load imported) =>
      (c.follow importer (document.merge imported) rest (asked.note loaded)).within (Nat.le_refl _)
    | .ok (.read path) =>
      let location := c.location path
      let entered := asked.enter path location
      if isUnopened : location ∈ s.unopened then
        have shorter : entered.unopened.length < s.unopened.length :=
          ImportState.length_enter_lt path isUnopened
        match Document.ofFile c.disk path with
        | .error (.crashed crash) => ⟨(.error crash, entered), Nat.le_of_lt shorter⟩
        | .error (.reported e) =>
          (c.follow importer document rest (entered.note (skip (.ofDocumentError path e)))).within
            (Nat.le_of_lt shorter)
        | .ok own =>
          let inner := c.follow path { own with imports := [] } own.imports entered
          have shorter' : inner.1.2.unopened.length < s.unopened.length :=
            Nat.lt_of_le_of_lt inner.2 shorter
          match inner.1.1 with
          | .error crash => ⟨(.error crash, inner.1.2), Nat.le_of_lt shorter'⟩
          | .ok imported =>
            (c.follow importer (document.merge imported) rest (inner.1.2.note loaded)).within
              (Nat.le_of_lt shorter')
      else
        (c.follow importer document rest (asked.note (skip (.alreadyImported path)))).within
          (Nat.le_refl _)
termination_by (s.unopened.length, references.length)

-- Reads a root and all that it imports. The root is read even if it has been read before.
def resolve (c : ImportContext) (root : PathName) (s : ImportState) :
    Except (Failure DocumentError) Document × ImportState :=
  let s := s.enter root (c.location root)
  match Document.ofFile c.disk root with
  | .error (.crashed crash) => (.error (.crashed crash), s)
  | .error (.reported e) => (.error (.reported e), s.note ⟨root.toText, none, .fatal e⟩)
  | .ok own =>
    match (c.follow root { own with imports := [] } own.imports s).1 with
    | (.error crash, s) => (.error (.crashed crash), s)
    | (.ok document, s) => (.ok document, s.note ⟨root.toText, none, .loaded⟩)

end ImportContext

def ImportContext.ofRoot (disk : Disk) (externals : Externals) (settings : Settings)
    (root : PathName) (baseDirectory : Option PathName) : ImportContext :=
  { disk, externals, baseDirectory := baseDirectory.getD root.parent
    fetchTimeout := settings.fetchTimeout, remoteImports := settings.remoteImports }

def resolveDocument (disk : Disk) (externals : Externals) (settings : Settings) (root : PathName)
    (baseDirectory : Option PathName) :
    Except (Failure DocumentError) Document × ImportState :=
  (ImportContext.ofRoot disk externals settings root baseDirectory).resolve root (.start disk)

end ApiCatalog
