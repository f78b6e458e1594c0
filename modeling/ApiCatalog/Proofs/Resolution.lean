import ApiCatalog.Externals.Standard
import ApiCatalog.Proofs.ImportWalk

set_option autoImplicit false

namespace ApiCatalog

def Outcome.ofRoot (root : PathName) : Outcome := ⟨root.toText, none, .loaded⟩

theorem Walk.resolve_eq {c : ImportContext} {root : PathName} {own : Document}
    {after : List Location} {fault : Option Crash}
    (w : Walk c root own.imports [c.location root] after fault)
    (parsed : Document.ofFile c.disk root = .ok own) :
    ∃ s, c.resolve root (.start c.disk) =
        ((w.result { own with imports := [] }).mapError .crashed, s) ∧
      s.opened = root :: w.opened ∧
      s.outcomes = w.outcomes ++ fault.elim [Outcome.ofRoot root] (fun _ => []) ∧
      s.requests = w.requests := by
  have tracks : ((ImportState.start c.disk).enter root (c.location root)).Tracks c.disk
      [c.location root] := (ImportState.tracks_start c.disk).enter root (c.location root)
  obtain ⟨s, ran, -, adds⟩ := w.follow_eq { own with imports := [] } _ tracks
  have opened : s.opened = root :: w.opened := adds.opened
  have outcomes : s.outcomes = w.outcomes := adds.outcomes
  have requests : s.requests = w.requests := adds.requests
  cases fault with
  | some crash =>
    refine ⟨s, ?_, opened, ?_, requests⟩
    · simp only [ImportContext.resolve, parsed, ran]
      rfl
    · simpa using outcomes
  | none =>
    refine ⟨s.note (Outcome.ofRoot root), ?_, opened, ?_, requests⟩
    · simp only [ImportContext.resolve, parsed, ran]
      rfl
    · simp [ImportState.note, outcomes]

/-- A root that can be read, and a way along all of its imports that meets no crash. -/
structure Resolution (c : ImportContext) (root : PathName) where
  own : Document
  parsed : Document.ofFile c.disk root = .ok own
  after : List Location
  walk : Walk c root own.imports [c.location root] after none

namespace Resolution

variable {c : ImportContext} {root : PathName}

def opened (r : Resolution c root) : List PathName := root :: r.walk.opened

def outcomes (r : Resolution c root) : List Outcome := r.walk.outcomes ++ [Outcome.ofRoot root]

def contributions (r : Resolution c root) : List (Outcome × Document) :=
  (Outcome.ofRoot root, { r.own with imports := [] }) :: r.walk.contributions

def documents (r : Resolution c root) : List Document := r.contributions.map (·.2)

structure Ends (r : Resolution c root) (s : ImportState) : Prop where
  opened : s.opened = r.opened
  outcomes : s.outcomes = r.outcomes
  requests : s.requests = r.walk.requests

theorem resolve_eq (r : Resolution c root) :
    ∃ s, c.resolve root (.start c.disk) = (.ok (r.documents.foldl Document.merge {}), s) ∧
      r.Ends s := by
  obtain ⟨s, ran, opened, outcomes, requests⟩ := r.walk.resolve_eq r.parsed
  refine ⟨s, ?_, opened, outcomes, requests⟩
  have first := Document.empty_merge { r.own with imports := [] } rfl
  simp only [documents, contributions, List.map_cons, List.foldl_cons, first]
  exact ran

theorem exists_of_returned {document : Document} {s : ImportState}
    (returned : c.resolve root (.start c.disk) = (.ok document, s)) :
    ∃ r : Resolution c root, document = r.documents.foldl Document.merge {} ∧ r.Ends s := by
  cases parsed : Document.ofFile c.disk root with
  | error failure => cases failure <;> simp [ImportContext.resolve, parsed] at returned
  | ok own =>
    obtain ⟨after, fault, ⟨w⟩⟩ := c.exists_walk root own.imports [c.location root]
    cases fault with
    | some crash =>
      obtain ⟨_, ran, -⟩ := w.resolve_eq parsed
      rw [ran] at returned
      cases returned
    | none =>
      let r : Resolution c root := ⟨own, parsed, after, w⟩
      obtain ⟨_, ran, ends⟩ := r.resolve_eq
      rw [ran] at returned
      cases returned
      exact ⟨r, rfl, ends⟩

end Resolution

theorem Document.exists_of_imports {disk : Disk} {path : PathName} {imports : List String}
    (read : (Document.ofFile disk path).toOption.map (·.imports) = some imports) :
    ∃ own, Document.ofFile disk path = .ok own ∧ own.imports = imports := by
  cases found : Document.ofFile disk path with
  | error failure => simp [found, Except.toOption] at read
  | ok own => exact ⟨own, rfl, by simpa [found, Except.toOption] using read⟩

namespace Walk

variable {c : ImportContext} {importer : PathName} {reference : String} {rest : List String}
  {visited middle after : List Location} {fault : Option Crash}

theorem exists_again
    (leads : Url.isUrl reference = false ∧ (c.pathOf importer reference).isDescription = true ∧
      (c.disk.lookUp (c.pathOf importer reference)).isOk = true ∧
      c.location (c.pathOf importer reference) ∈ visited)
    (next : Nonempty (Walk c importer rest visited after fault)) :
    Nonempty (Walk c importer (reference :: rest) visited after fault) := by
  obtain ⟨isPath, isDescription, there, isVisited⟩ := leads
  obtain ⟨next⟩ := next
  have examined := ImportContext.examine_of_description isPath isDescription there
  exact ⟨.again reference _ examined isVisited next⟩

theorem exists_read (inner : List String)
    (leads : Url.isUrl reference = false ∧ (c.pathOf importer reference).isDescription = true ∧
      (c.disk.lookUp (c.pathOf importer reference)).isOk = true ∧
      c.location (c.pathOf importer reference) ∉ visited)
    (read : (Document.ofFile c.disk (c.pathOf importer reference)).toOption.map (·.imports) =
      some inner)
    (imports : Nonempty (Walk c (c.pathOf importer reference) inner
      (c.location (c.pathOf importer reference) :: visited) middle none))
    (next : Nonempty (Walk c importer rest middle after fault)) :
    Nonempty (Walk c importer (reference :: rest) visited after fault) := by
  obtain ⟨isPath, isDescription, there, isNew⟩ := leads
  obtain ⟨own, parsed, rfl⟩ := Document.exists_of_imports read
  obtain ⟨imports⟩ := imports
  obtain ⟨next⟩ := next
  have examined := ImportContext.examine_of_description isPath isDescription there
  exact ⟨.read reference _ own examined isNew parsed imports next⟩

end Walk

def asciiFile (text : String) : FileEntry :=
  .file (text.toList.map fun c => UInt8.ofNat c.toNat)

-- Two files import a third one, spelled in two ways, and that one imports the first again.
def crossing : Disk where
  workingDirectory := ["w"]
  entries := [(["w"], .directory),
    (["w", "main.rqc"], asciiFile "import ./b.rqc import c.rqc"),
    (["w", "b.rqc"], asciiFile "import ../w/c.rqc"),
    (["w", "c.rqc"], asciiFile "import main.rqc")]

def crossingRoot : PathName := .ofText "main.rqc"

def crossingContext : ImportContext := .ofRoot crossing (.standard []) {} crossingRoot none

theorem crossing_walk : Nonempty (Walk crossingContext crossingRoot ["./b.rqc", "c.rqc"]
    [["w", "main.rqc"]] [["w", "c.rqc"], ["w", "b.rqc"], ["w", "main.rqc"]] none) := by
  apply Walk.exists_read ["../w/c.rqc"] (by decide +kernel) (by decide +kernel)
  · apply Walk.exists_read ["main.rqc"] (by decide +kernel) (by decide +kernel)
    · exact Walk.exists_again (by decide +kernel) ⟨.done⟩
    · exact ⟨.done⟩
  · exact Walk.exists_again (by decide +kernel) ⟨.done⟩

theorem crossing_returned : ∃ document s,
    resolveDocument crossing (.standard []) {} crossingRoot none = (.ok document, s) := by
  obtain ⟨own, parsed, imports⟩ : ∃ own, Document.ofFile crossing crossingRoot = .ok own ∧
      own.imports = ["./b.rqc", "c.rqc"] := Document.exists_of_imports (by decide +kernel)
  obtain ⟨walk⟩ := crossing_walk
  rw [← imports] at walk
  let r : Resolution crossingContext crossingRoot := ⟨own, parsed, _, walk⟩
  obtain ⟨s, ran, -⟩ := r.resolve_eq
  exact ⟨_, s, ran⟩

end ApiCatalog
