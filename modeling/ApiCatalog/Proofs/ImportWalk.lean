import ApiCatalog.Proofs.ImportSteps
import ApiCatalog.Proofs.Merge
import Mathlib.Tactic.Tauto

set_option autoImplicit false

namespace ApiCatalog

/-- How the references of one file were followed, and those of the files that were read for them.
The first list of locations holds what had been read from before, the second one what had been
afterwards. A walk that met a crash ends there. -/
inductive Walk (c : ImportContext) :
    PathName → List String → List Location → List Location → Option Crash → Type
  | done {importer : PathName} {visited : List Location} : Walk c importer [] visited visited none
  | crashed {importer : PathName} (reference : String) {rest : List String}
      {visited : List Location} {crash : Crash}
      (examined : c.examine importer reference = .error crash) :
      Walk c importer (reference :: rest) visited visited (some crash)
  | skip {importer : PathName} (reference : String) {rest : List String}
      {visited after : List Location} {fault : Option Crash} (why : SkipReason)
      (examined : c.examine importer reference = .ok (.skip why))
      (next : Walk c importer rest visited after fault) :
      Walk c importer (reference :: rest) visited after fault
  | load {importer : PathName} (reference : String) {rest : List String}
      {visited after : List Location} {fault : Option Crash} (document : Document)
      (examined : c.examine importer reference = .ok (.load document))
      (next : Walk c importer rest visited after fault) :
      Walk c importer (reference :: rest) visited after fault
  | again {importer : PathName} (reference : String) {rest : List String}
      {visited after : List Location} {fault : Option Crash} (path : PathName)
      (examined : c.examine importer reference = .ok (.read path))
      (isVisited : c.location path ∈ visited)
      (next : Walk c importer rest visited after fault) :
      Walk c importer (reference :: rest) visited after fault
  | refuse {importer : PathName} (reference : String) {rest : List String}
      {visited after : List Location} {fault : Option Crash} (path : PathName) (e : DocumentError)
      (examined : c.examine importer reference = .ok (.read path))
      (isNew : c.location path ∉ visited)
      (refused : Document.ofFile c.disk path = .error (.reported e))
      (next : Walk c importer rest (c.location path :: visited) after fault) :
      Walk c importer (reference :: rest) visited after fault
  | read {importer : PathName} (reference : String) {rest : List String}
      {visited middle after : List Location} {fault : Option Crash} (path : PathName)
      (own : Document)
      (examined : c.examine importer reference = .ok (.read path))
      (isNew : c.location path ∉ visited)
      (parsed : Document.ofFile c.disk path = .ok own)
      (imports : Walk c path own.imports (c.location path :: visited) middle none)
      (next : Walk c importer rest middle after fault) :
      Walk c importer (reference :: rest) visited after fault
  | stop {importer : PathName} (reference : String) {rest : List String}
      {visited after : List Location} {crash : Crash} (path : PathName) (own : Document)
      (examined : c.examine importer reference = .ok (.read path))
      (isNew : c.location path ∉ visited)
      (parsed : Document.ofFile c.disk path = .ok own)
      (imports : Walk c path own.imports (c.location path :: visited) after (some crash)) :
      Walk c importer (reference :: rest) visited after (some crash)

namespace Walk

variable {c : ImportContext}

-- A path counts even if no description could be read from it.
def opened {importer : PathName} {references : List String} {before after : List Location}
    {fault : Option Crash} (w : Walk c importer references before after fault) : List PathName :=
  match w with
  | .done | .crashed .. => []
  | .skip _ _ _ next | .load _ _ _ next | .again _ _ _ _ next => next.opened
  | .refuse _ path _ _ _ _ next => path :: next.opened
  | .read _ path _ _ _ _ imports next => path :: (imports.opened ++ next.opened)
  | .stop _ path _ _ _ _ imports => path :: imports.opened

def requests {importer : PathName} {references : List String} {before after : List Location}
    {fault : Option Crash} (w : Walk c importer references before after fault) : List Request :=
  match w with
  | .done => []
  | .crashed reference _ => c.requests importer reference
  | .skip reference _ _ next | .load reference _ _ next | .again reference _ _ _ next
  | .refuse reference _ _ _ _ _ next => c.requests importer reference ++ next.requests
  | .read reference _ _ _ _ _ imports next =>
    c.requests importer reference ++ (imports.requests ++ next.requests)
  | .stop reference _ _ _ _ _ imports => c.requests importer reference ++ imports.requests

def outcomes {importer : PathName} {references : List String} {before after : List Location}
    {fault : Option Crash} (w : Walk c importer references before after fault) : List Outcome :=
  match w with
  | .done | .crashed .. => []
  | .skip reference why _ next => ⟨reference, some importer, .skipped why⟩ :: next.outcomes
  | .load reference _ _ next => ⟨reference, some importer, .loaded⟩ :: next.outcomes
  | .again reference path _ _ next =>
    ⟨reference, some importer, .skipped (.alreadyImported path)⟩ :: next.outcomes
  | .refuse reference path e _ _ _ next =>
    ⟨reference, some importer, .skipped (.ofDocumentError path e)⟩ :: next.outcomes
  | .read reference _ _ _ _ _ imports next =>
    -- A file is noted when all of its imports are.
    imports.outcomes ++ ⟨reference, some importer, .loaded⟩ :: next.outcomes
  | .stop _ _ _ _ _ _ imports => imports.outcomes

/-- The imports that were loaded, each with the document that it adds by itself and before those of
its own imports. -/
def contributions {importer : PathName} {references : List String} {before after : List Location}
    {fault : Option Crash} (w : Walk c importer references before after fault) :
    List (Outcome × Document) :=
  match w with
  | .done | .crashed .. => []
  | .skip _ _ _ next | .again _ _ _ _ next | .refuse _ _ _ _ _ _ next => next.contributions
  | .load reference document _ next =>
    (⟨reference, some importer, .loaded⟩, document) :: next.contributions
  | .read reference _ own _ _ _ imports next =>
    (⟨reference, some importer, .loaded⟩, { own with imports := [] }) ::
      (imports.contributions ++ next.contributions)
  | .stop _ _ _ _ _ _ imports => imports.contributions

variable {importer : PathName} {references : List String} {before after : List Location}
  {fault : Option Crash}

def documents (w : Walk c importer references before after fault) : List Document :=
  w.contributions.map (·.2)

def result (w : Walk c importer references before after fault) (document : Document) :
    Except Crash Document :=
  fault.elim (.ok (w.documents.foldl Document.merge document)) .error

end Walk

-- What is left to be read from is what is on the disk and was not visited.
def ImportState.Tracks (s : ImportState) (disk : Disk) (visited : List Location) : Prop :=
  ∀ location, location ∈ s.unopened ↔ location ∈ disk.entries.map (·.1) ∧ location ∉ visited

structure ImportState.Adds (s s' : ImportState) (opened : List PathName) (outcomes : List Outcome)
    (requests : List Request) : Prop where
  opened : s'.opened = s.opened ++ opened
  outcomes : s'.outcomes = s.outcomes ++ outcomes
  requests : s'.requests = s.requests ++ requests

namespace ImportState

section Tracks

variable {s : ImportState} {disk : Disk} {visited : List Location}

theorem tracks_start (disk : Disk) : (start disk).Tracks disk [] := by
  intro location
  simp [start]

theorem Tracks.note (tracks : s.Tracks disk visited) (o : Outcome) :
    (s.note o).Tracks disk visited :=
  tracks

theorem Tracks.ask (tracks : s.Tracks disk visited) (requests : List Request) :
    (s.ask requests).Tracks disk visited :=
  tracks

theorem Tracks.enter (tracks : s.Tracks disk visited) (path : PathName) (location : Location) :
    (s.enter path location).Tracks disk (location :: visited) := by
  intro other
  have left := tracks other
  simp only [ImportState.enter, List.mem_filter, left, bne_iff_ne, List.mem_cons, not_or]
  tauto

end Tracks

namespace Adds

variable {s s' s'' : ImportState} {opened opened' : List PathName}
  {outcomes outcomes' : List Outcome} {requests requests' : List Request}

theorem refl (s : ImportState) : s.Adds s [] [] [] := by
  constructor <;> simp

theorem trans (first : s.Adds s' opened outcomes requests)
    (second : s'.Adds s'' opened' outcomes' requests') :
    s.Adds s'' (opened ++ opened') (outcomes ++ outcomes') (requests ++ requests') where
  opened := by rw [second.opened, first.opened, List.append_assoc]
  outcomes := by rw [second.outcomes, first.outcomes, List.append_assoc]
  requests := by rw [second.requests, first.requests, List.append_assoc]

theorem of_note {o : Outcome} (adds : (s.note o).Adds s' opened outcomes requests) :
    s.Adds s' opened (o :: outcomes) requests where
  opened := adds.opened
  outcomes := by simp [adds.outcomes, note]
  requests := adds.requests

theorem of_ask {asked : List Request} (adds : (s.ask asked).Adds s' opened outcomes requests) :
    s.Adds s' opened outcomes (asked ++ requests) where
  opened := adds.opened
  outcomes := adds.outcomes
  requests := by rw [adds.requests, ask, List.append_assoc]

theorem of_enter {path : PathName} {location : Location}
    (adds : (s.enter path location).Adds s' opened outcomes requests) :
    s.Adds s' (path :: opened) outcomes requests where
  opened := by simp [adds.opened, enter]
  outcomes := adds.outcomes
  requests := adds.requests

end Adds

end ImportState

namespace Walk

variable {c : ImportContext} {importer : PathName} {references : List String}
  {before after : List Location} {fault : Option Crash}

theorem follow_eq (w : Walk c importer references before after fault) (document : Document)
    (s : ImportState) (tracks : s.Tracks c.disk before) :
    ∃ s', (c.follow importer document references s).1 = (w.result document, s') ∧
      s'.Tracks c.disk after ∧ s.Adds s' w.opened w.outcomes w.requests := by
  induction w generalizing document s with
  | done =>
    refine ⟨s, ?_, tracks, .refl s⟩
    rw [ImportContext.follow]
    rfl
  | @crashed importer reference _ _ _ examined =>
    refine ⟨_, ImportContext.follow_crashed examined, tracks, ?_⟩
    have adds := (ImportState.Adds.refl (s.ask (c.requests importer reference))).of_ask
    simpa [Walk.opened, Walk.outcomes, Walk.requests] using adds
  | @skip importer reference _ _ _ _ why examined next ih =>
    let o : Outcome := ⟨reference, some importer, .skipped why⟩
    obtain ⟨s', ran, tracks, adds⟩ :=
      ih document _ ((tracks.ask (c.requests importer reference)).note o)
    exact ⟨s', (ImportContext.follow_skipped examined).trans ran, tracks, adds.of_note.of_ask⟩
  | @load importer reference _ _ _ _ imported examined next ih =>
    let o : Outcome := ⟨reference, some importer, .loaded⟩
    obtain ⟨s', ran, tracks, adds⟩ :=
      ih (document.merge imported) _ ((tracks.ask (c.requests importer reference)).note o)
    exact ⟨s', (ImportContext.follow_loaded examined).trans ran, tracks, adds.of_note.of_ask⟩
  | @again importer reference _ _ _ _ path examined isVisited next ih =>
    have isOpened : c.location path ∉ s.unopened :=
      fun isUnopened => ((tracks _).1 isUnopened).2 isVisited
    let o : Outcome := ⟨reference, some importer, .skipped (.alreadyImported path)⟩
    obtain ⟨s', ran, tracks, adds⟩ :=
      ih document _ ((tracks.ask (c.requests importer reference)).note o)
    exact ⟨s', (ImportContext.follow_again examined isOpened).trans ran, tracks,
      adds.of_note.of_ask⟩
  | @refuse importer reference _ _ _ _ path e examined isNew refused next ih =>
    have isUnopened : c.location path ∈ s.unopened :=
      (tracks _).2 ⟨ImportContext.location_of_read examined, isNew⟩
    let o : Outcome := ⟨reference, some importer, .skipped (.ofDocumentError path e)⟩
    obtain ⟨s', ran, tracks, adds⟩ := ih document _
      (((tracks.ask (c.requests importer reference)).enter path (c.location path)).note o)
    exact ⟨s', (ImportContext.follow_refused examined isUnopened refused).trans ran, tracks,
      adds.of_note.of_enter.of_ask⟩
  | @read importer reference _ _ _ _ _ path own examined isNew parsed imports next ihImports
      ihNext =>
    have isUnopened : c.location path ∈ s.unopened :=
      (tracks _).2 ⟨ImportContext.location_of_read examined, isNew⟩
    let o : Outcome := ⟨reference, some importer, .loaded⟩
    let imported := imports.documents.foldl Document.merge { own with imports := [] }
    obtain ⟨s₁, ranImports, tracksImports, addsImports⟩ := ihImports { own with imports := [] } _
      ((tracks.ask (c.requests importer reference)).enter path (c.location path))
    obtain ⟨s₂, ranNext, tracksNext, addsNext⟩ :=
      ihNext (document.merge imported) _ (tracksImports.note o)
    refine ⟨s₂, ?_, tracksNext, (addsImports.trans addsNext.of_note).of_enter.of_ask⟩
    -- The run merges what the file and its imports give, the walk lists them one by one.
    rw [ImportContext.follow_read examined isUnopened parsed ranImports]
    refine ranNext.trans ?_
    simp [result, documents, contributions, imported, Document.merge_foldl]
  | @stop importer reference _ _ _ _ path own examined isNew parsed imports ih =>
    have isUnopened : c.location path ∈ s.unopened :=
      (tracks _).2 ⟨ImportContext.location_of_read examined, isNew⟩
    obtain ⟨s', ran, tracks, adds⟩ := ih { own with imports := [] } _
      ((tracks.ask (c.requests importer reference)).enter path (c.location path))
    exact ⟨s', ImportContext.follow_stopped examined isUnopened parsed ran, tracks,
      adds.of_enter.of_ask⟩

theorem after_eq (w : Walk c importer references before after fault) :
    after = (w.opened.map c.location).reverse ++ before := by
  induction w with
  | done => rfl
  | crashed => rfl
  | skip _ _ _ _ ih => exact ih
  | load _ _ _ _ ih => exact ih
  | again _ _ _ _ _ ih => exact ih
  | refuse _ _ _ _ _ _ _ ih => simp [ih, Walk.opened]
  | read _ _ _ _ _ _ _ _ ihImports ihNext => simp [ihNext, ihImports, Walk.opened]
  | stop _ _ _ _ _ _ _ ih => simp [ih, Walk.opened]

theorem before_subset (w : Walk c importer references before after fault) : before ⊆ after := by
  intro location member
  rw [w.after_eq]
  exact List.mem_append_right _ member

end Walk

namespace ImportContext

def unvisited (c : ImportContext) (visited : List Location) : Nat :=
  ((c.disk.entries.map (·.1)).filter (!visited.contains ·)).length

theorem unvisited_lt {c : ImportContext} {location : Location} {visited later : List Location}
    (there : location ∈ c.disk.entries.map (·.1)) (isNew : location ∉ visited)
    (entered : location :: visited ⊆ later) : c.unvisited later < c.unvisited visited := by
  have kept : (c.disk.entries.map (·.1)).filter (!later.contains ·) =
      ((c.disk.entries.map (·.1)).filter (!visited.contains ·)).filter (!later.contains ·) := by
    rw [List.filter_filter]
    apply List.filter_congr
    intro other _
    by_cases old : other ∈ visited
    · have stays : other ∈ later := entered (List.mem_cons_of_mem _ old)
      simp [old, stays]
    · simp [old]
  unfold unvisited
  rw [kept, List.length_filter_lt_length_iff_exists]
  refine ⟨location, ?_, ?_⟩
  · simpa [isNew] using there
  · simpa using entered List.mem_cons_self

theorem exists_walk (c : ImportContext) (importer : PathName) (references : List String)
    (visited : List Location) :
    ∃ after fault, Nonempty (Walk c importer references visited after fault) := by
  -- A file that is read is one of the disk and was not read before.
  induction size : c.unvisited visited using Nat.strongRecOn
    generalizing importer references visited with
  | ind n ih =>
    subst size
    -- As long as no file is read, what is left of the references gets shorter.
    induction references with
    | nil => exact ⟨visited, none, ⟨.done⟩⟩
    | cons reference rest ihRest =>
      obtain ⟨after, fault, ⟨next⟩⟩ := ihRest
      cases examined : c.examine importer reference with
      | error crash => exact ⟨visited, some crash, ⟨.crashed reference examined⟩⟩
      | ok step =>
        cases step with
        | skip why => exact ⟨after, fault, ⟨.skip reference why examined next⟩⟩
        | load document => exact ⟨after, fault, ⟨.load reference document examined next⟩⟩
        | read path =>
          by_cases isVisited : c.location path ∈ visited
          · exact ⟨after, fault, ⟨.again reference path examined isVisited next⟩⟩
          · have there := location_of_read examined
            cases found : Document.ofFile c.disk path with
            | error failure =>
              cases failure with
              | crashed crash => exact absurd found (ofFile_of_read examined crash)
              | reported e =>
                obtain ⟨after, fault, ⟨next⟩⟩ := ih _
                  (unvisited_lt there isVisited (List.Subset.refl _)) importer rest _ rfl
                exact ⟨after, fault, ⟨.refuse reference path e examined isVisited found next⟩⟩
            | ok own =>
              obtain ⟨middle, fault, ⟨imports⟩⟩ := ih _
                (unvisited_lt there isVisited (List.Subset.refl _)) path own.imports _ rfl
              cases fault with
              | some crash =>
                exact ⟨middle, some crash,
                  ⟨.stop reference path own examined isVisited found imports⟩⟩
              | none =>
                obtain ⟨after, fault, ⟨next⟩⟩ := ih _
                  (unvisited_lt there isVisited imports.before_subset) importer rest _ rfl
                exact ⟨after, fault,
                  ⟨.read reference path own examined isVisited found imports next⟩⟩

end ImportContext

end ApiCatalog
