import ApiCatalog.Import.Resolve
import ApiCatalog.Proofs.Locations

set_option autoImplicit false

namespace ApiCatalog

namespace ImportContext

section Specs

variable {c : ImportContext} {skip : String → SkipReason} {result : Except SpecFailure Document}

theorem ofSpec_ne_read (path : PathName) : c.ofSpec skip result ≠ .ok (.read path) := by
  intro read
  unfold ofSpec at read
  split at read <;> cases read

theorem ofSpec_load {document : Document} (loaded : c.ofSpec skip result = .ok (.load document)) :
    result = .ok document := by
  unfold ofSpec at loaded
  split at loaded <;> cases loaded
  rfl

theorem ofSpec_error {crash : Crash} :
    c.ofSpec skip result = .error crash ↔ result = .error (.crashed crash) := by
  unfold ofSpec
  split <;> simp

end Specs

theorem examinePath_eq (c : ImportContext) (importer : PathName) (reference : String) :
    c.examinePath importer reference =
      match c.disk.lookUp (c.pathOf importer reference) with
      | .error .longName => .error .longFileName
      | .error _ => .ok (.skip (.notFound (c.pathOf importer reference)))
      | .ok _ =>
        if (c.pathOf importer reference).isDescription then
          .ok (.read (c.pathOf importer reference))
        else if isSpec (c.pathOf importer reference) then
          c.ofSpec .invalidSpec
            (Spec.documentOfFile c.disk c.externals (c.pathOf importer reference))
        else .ok (.skip (.unsupported reference)) := by
  unfold examinePath Disk.existing?
  cases found : c.disk.lookUp (c.pathOf importer reference) with
  | error e => cases e <;> simp [found, bind, Except.bind]
  | ok entry => simp [found, bind, Except.bind]

theorem examine_eq (c : ImportContext) (importer : PathName) (reference : String) :
    c.examine importer reference =
      if Url.isUrl reference then
        if c.remoteImports then
          c.ofSpec .fetchFailed (Spec.documentOfUrl c.externals c.fetchTimeout reference).result
        else .ok (.skip .remoteDisabled)
      else c.examinePath importer reference := by
  unfold examine consult
  split_ifs <;> rfl

theorem requests_eq (c : ImportContext) (importer : PathName) (reference : String) :
    c.requests importer reference =
      if Url.isUrl reference ∧ c.remoteImports then
        [{ url := reference, timeout := c.fetchTimeout, followsRedirects := true }]
      else [] := by
  unfold requests consult
  split_ifs <;> simp_all [Spec.documentOfUrl, Spec.ofUrl, Externals.ask, Asked.silent]

theorem examine_read {c : ImportContext} {importer path : PathName} {reference : String}
    (examined : c.examine importer reference = .ok (.read path)) :
    Url.isUrl reference = false ∧ path = c.pathOf importer reference ∧
      path.isDescription = true ∧ ∃ entry, c.disk.lookUp path = .ok entry := by
  rw [examine_eq] at examined
  split at examined
  next =>
    split at examined
    next => exact absurd examined (ofSpec_ne_read _)
    next => cases examined
  next isPath =>
    rw [examinePath_eq] at examined
    split at examined
    next => cases examined
    next => cases examined
    next entry found =>
      split at examined
      next isDescription =>
        cases examined
        exact ⟨by simpa using isPath, rfl, isDescription, entry, found⟩
      next =>
        split at examined
        next => exact absurd examined (ofSpec_ne_read _)
        next => cases examined

theorem examine_of_description {c : ImportContext} {importer : PathName} {reference : String}
    (isPath : Url.isUrl reference = false)
    (isDescription : (c.pathOf importer reference).isDescription = true)
    (there : (c.disk.lookUp (c.pathOf importer reference)).isOk = true) :
    c.examine importer reference = .ok (.read (c.pathOf importer reference)) := by
  rw [examine_eq, examinePath_eq]
  cases found : c.disk.lookUp (c.pathOf importer reference) with
  | error e => simp [found, Except.isOk, Except.toBool] at there
  | ok entry => simp [isPath, isDescription]

theorem location_of_read {c : ImportContext} {importer path : PathName} {reference : String}
    (examined : c.examine importer reference = .ok (.read path)) :
    c.location path ∈ c.disk.entries.map (·.1) := by
  obtain ⟨-, -, isDescription, entry, there⟩ := examine_read examined
  unfold Disk.lookUp at there
  cases found : c.disk.find path with
  | error e => simp [found, bind, Except.bind] at there
  | ok location =>
    simp only [found, bind, Except.bind] at there
    have same : location = c.location path := Disk.find_ok found
    rw [same] at there
    split at there
    · -- Only the top of the disk is there without an entry.
      exact Disk.entry?_some ‹_› (PathName.location_of_isDescription _ isDescription)
    · cases there

theorem ofFile_of_read {c : ImportContext} {importer path : PathName} {reference : String}
    (examined : c.examine importer reference = .ok (.read path)) (crash : Crash) :
    Document.ofFile c.disk path ≠ .error (.crashed crash) := by
  obtain ⟨-, -, -, entry, there⟩ := examine_read examined
  -- Only names that no file can have make reading a description crash, and no such path is found.
  intro crashed
  unfold Document.ofFile Disk.readText Disk.read at crashed
  cases entry with
  | directory => simp [there, bind, Except.bind, Except.mapError] at crashed
  | file content =>
    simp only [there, bind, Except.bind, Except.mapError] at crashed
    cases decoded : Utf8.decode content with
    | error fault => simp [decoded] at crashed
    | ok chars =>
      simp only [decoded, pure, Except.pure] at crashed
      split at crashed <;> cases crashed

variable {c : ImportContext} {importer path : PathName} {document own : Document}
  {reference : String} {rest : List String} {s s' : ImportState} {crash : Crash}

theorem follow_crashed (examined : c.examine importer reference = .error crash) :
    (c.follow importer document (reference :: rest) s).1 =
      (.error crash, s.ask (c.requests importer reference)) := by
  rw [follow]
  simp only [examined]

theorem follow_skipped {why : SkipReason}
    (examined : c.examine importer reference = .ok (.skip why)) :
    (c.follow importer document (reference :: rest) s).1 =
      (c.follow importer document rest ((s.ask (c.requests importer reference)).note
        ⟨reference, some importer, .skipped why⟩)).1 := by
  rw [follow]
  simp only [examined, Followed.within]

theorem follow_loaded {imported : Document}
    (examined : c.examine importer reference = .ok (.load imported)) :
    (c.follow importer document (reference :: rest) s).1 =
      (c.follow importer (document.merge imported) rest
        ((s.ask (c.requests importer reference)).note
          ⟨reference, some importer, .loaded⟩)).1 := by
  rw [follow]
  simp only [examined, Followed.within]

theorem follow_again (examined : c.examine importer reference = .ok (.read path))
    (isOpened : c.location path ∉ s.unopened) :
    (c.follow importer document (reference :: rest) s).1 =
      (c.follow importer document rest ((s.ask (c.requests importer reference)).note
        ⟨reference, some importer, .skipped (.alreadyImported path)⟩)).1 := by
  rw [follow]
  simp only [examined, isOpened, dite_false, Followed.within]

theorem follow_refused {e : DocumentError}
    (examined : c.examine importer reference = .ok (.read path))
    (isUnopened : c.location path ∈ s.unopened)
    (refused : Document.ofFile c.disk path = .error (.reported e)) :
    (c.follow importer document (reference :: rest) s).1 =
      (c.follow importer document rest
        (((s.ask (c.requests importer reference)).enter path (c.location path)).note
          ⟨reference, some importer, .skipped (.ofDocumentError path e)⟩)).1 := by
  rw [follow]
  simp only [examined, isUnopened, dite_true, refused, Followed.within]

theorem follow_read {imported : Document}
    (examined : c.examine importer reference = .ok (.read path))
    (isUnopened : c.location path ∈ s.unopened)
    (parsed : Document.ofFile c.disk path = .ok own)
    (inner : (c.follow path { own with imports := [] } own.imports
      ((s.ask (c.requests importer reference)).enter path (c.location path))).1 =
        (.ok imported, s')) :
    (c.follow importer document (reference :: rest) s).1 =
      (c.follow importer (document.merge imported) rest
        (s'.note ⟨reference, some importer, .loaded⟩)).1 := by
  rw [follow]
  simp only [examined, isUnopened, dite_true, parsed]
  obtain ⟨ended, rfl⟩ := Prod.mk.inj inner
  split
  next crash crashed => simp [ended] at crashed
  next found ok =>
    obtain rfl : imported = found := by simpa [ended] using ok
    rfl

theorem follow_stopped (examined : c.examine importer reference = .ok (.read path))
    (isUnopened : c.location path ∈ s.unopened)
    (parsed : Document.ofFile c.disk path = .ok own)
    (inner : (c.follow path { own with imports := [] } own.imports
      ((s.ask (c.requests importer reference)).enter path (c.location path))).1 =
        (.error crash, s')) :
    (c.follow importer document (reference :: rest) s).1 = (.error crash, s') := by
  rw [follow]
  simp only [examined, isUnopened, dite_true, parsed]
  obtain ⟨ended, rfl⟩ := Prod.mk.inj inner
  split
  next found crashed =>
    obtain rfl : crash = found := by simpa [ended] using crashed
    rfl
  next imported ok => simp [ended] at ok

end ImportContext

end ApiCatalog
