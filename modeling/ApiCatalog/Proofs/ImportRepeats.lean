import ApiCatalog.Proofs.ImportOutcomes

/-!
Which files are taken for imported already: at every moment of a run, what was visited is either on
the chain of files that lead to the current one, or some outcome says what became of it.
-/

set_option autoImplicit false

namespace ApiCatalog

section SameLocation

variable {disk : Disk} {path other : PathName} {entry : FileEntry}

theorem Disk.lookUp_ok (there : disk.lookUp path = .ok entry) :
    disk.entry? (path.location disk.workingDirectory) = some entry := by
  unfold Disk.lookUp at there
  cases found : disk.find path with
  | error e => simp [found, bind, Except.bind] at there
  | ok location =>
    rw [← Disk.find_ok found]
    simp only [found, bind, Except.bind] at there
    split at there
    next isThere =>
      cases there
      exact isThere
    next => cases there

theorem Document.ofFile_ok {own : Document} :
    Document.ofFile disk path = .ok own ↔ ∃ content chars,
      disk.lookUp path = .ok (.file content) ∧ Utf8.decode content = .ok chars ∧
        Document.ofText (String.ofList (Text.unifyNewlines chars)) = .ok own := by
  unfold Document.ofFile Disk.readText Disk.read
  cases found : disk.lookUp path with
  | error e => cases e <;> simp [bind, Except.bind, Except.mapError]
  | ok entry =>
    cases entry with
    | directory => simp [bind, Except.bind, Except.mapError]
    | file content =>
      cases decoded : Utf8.decode content with
      | error fault => simp [decoded, bind, Except.bind, Except.mapError]
      | ok chars =>
        cases read : Document.ofText (String.ofList (Text.unifyNewlines chars)) <;>
          simp [decoded, read, bind, Except.bind, pure, Except.pure, Except.mapError]

-- However a path is spelled, the same document is read from it.
theorem Document.ofFile_same {own : Document} (parsed : Document.ofFile disk other = .ok own)
    (there : disk.lookUp path = .ok entry)
    (same : path.location disk.workingDirectory = other.location disk.workingDirectory) :
    Document.ofFile disk path = .ok own := by
  obtain ⟨content, chars, otherThere, decoded, read⟩ := Document.ofFile_ok.1 parsed
  have found := Disk.lookUp_ok there
  rw [same, Disk.lookUp_ok otherThere] at found
  obtain rfl := Option.some.inj found
  exact Document.ofFile_ok.2 ⟨content, chars, there, decoded, read⟩

end SameLocation

namespace ImportContext

variable (c : ImportContext)

def Concerns (o : Outcome) (path : PathName) : Prop :=
  ∃ importer, o.importer = some importer ∧ c.examine importer o.source = .ok (.read path)

def Loaded (log : List Outcome) (location : Location) : Prop :=
  ∃ o ∈ log, ∃ path, c.Concerns o path ∧ c.location path = location ∧ o.result = .loaded

def Failed (log : List Outcome) (location : Location) : Prop :=
  ∃ o ∈ log, ∃ path e, c.Concerns o path ∧ c.location path = location ∧
    o.result = .skipped (.ofDocumentError path e)

/-- Files that can be read, innermost first. Each one is an import of the next, up to the root. -/
inductive Chain (root : PathName) : List PathName → Prop
  | root {own : Document} (parsed : Document.ofFile c.disk root = .ok own) : Chain root [root]
  | inner {importer path : PathName} {outer : List PathName} {reference : String}
      {own inside : Document} (chain : Chain root (importer :: outer))
      (importerParsed : Document.ofFile c.disk importer = .ok own)
      (isImport : reference ∈ own.imports)
      (examined : c.examine importer reference = .ok (.read path))
      (parsed : Document.ofFile c.disk path = .ok inside) : Chain root (path :: importer :: outer)

def Finished (log : List Outcome) (location : Location) : Prop :=
  c.Loaded log location ∨ c.Failed log location

def InProgress (root importer : PathName) (log : List Outcome) (location : Location) : Prop :=
  ∃ outer, c.Chain root (importer :: outer) ∧ location ∈ (importer :: outer).map c.location ∧
    ∀ path ∈ importer :: outer, ¬ c.Finished log (c.location path)

/-- What is known in the middle of a run: what was visited is on the chain or has its outcome. -/
structure Progress (root : PathName) (chain : List PathName) (log : List Outcome)
    (visited : List Location) : Prop where
  linked : c.Chain root chain
  distinct : (chain.map c.location).Nodup
  entered : ∀ path ∈ chain, c.location path ∈ visited
  ongoing : ∀ path ∈ chain, ¬ c.Finished log (c.location path)
  seen : ∀ location, c.Finished log location → location ∈ visited
  known : ∀ location ∈ visited, location ∈ chain.map c.location ∨ c.Finished log location

variable {c} {root importer path : PathName} {reference : String}

theorem finished_concat {log : List Outcome} {o : Outcome} {location : Location} :
    c.Finished (log ++ [o]) location ↔ c.Finished log location ∨ c.Finished [o] location := by
  simp only [Finished, Loaded, Failed, List.mem_append, or_and_right, exists_or]
  exact or_or_or_comm

section Marks

variable {result : ImportResult} {location : Location}

-- An outcome of a reference that no description is read for says nothing about locations.
theorem not_finished_of_examined {step : ImportStep}
    (examined : c.examine importer reference = .ok step) (isOther : ∀ path, step ≠ .read path) :
    ¬ c.Finished [⟨reference, some importer, result⟩] location := by
  rintro (⟨_, found, path, concerns, -⟩ | ⟨_, found, path, _, concerns, -⟩)
  all_goals
    obtain rfl := List.mem_singleton.1 found
    obtain ⟨_, about, read⟩ := concerns
    cases about
    rw [examined] at read
    exact isOther path (Except.ok.inj read)

theorem not_finished_of_again :
    ¬ c.Finished [⟨reference, some importer, .skipped (.alreadyImported path)⟩] location := by
  rintro (⟨_, found, _, -, -, loaded⟩ | ⟨_, found, _, e, -, -, failed⟩)
  · obtain rfl := List.mem_singleton.1 found
    cases loaded
  · obtain rfl := List.mem_singleton.1 found
    cases e <;> cases failed

theorem finished_of_read (examined : c.examine importer reference = .ok (.read path))
    (ends : result = .loaded ∨ ∃ e, result = .skipped (.ofDocumentError path e)) :
    c.Finished [⟨reference, some importer, result⟩] location ↔ location = c.location path := by
  constructor
  · rintro (⟨_, found, _, concerns, rfl, -⟩ | ⟨_, found, _, _, concerns, rfl, -⟩)
    all_goals
      obtain rfl := List.mem_singleton.1 found
      obtain ⟨_, about, read⟩ := concerns
      cases about
      rw [examined] at read
      cases read
      rfl
  · rintro rfl
    rcases ends with loaded | ⟨e, failed⟩
    · exact .inl ⟨_, List.mem_singleton_self _, path, ⟨importer, rfl, examined⟩, rfl, loaded⟩
    · exact .inr ⟨_, List.mem_singleton_self _, path, e, ⟨importer, rfl, examined⟩, rfl, failed⟩

end Marks

namespace Progress

variable {chain outer : List PathName} {log : List Outcome} {visited : List Location}
  {o : Outcome} {location : Location}

theorem note (progress : c.Progress root chain log visited)
    (neutral : ∀ location, ¬ c.Finished [o] location) :
    c.Progress root chain (log ++ [o]) visited := by
  have same (location : Location) : c.Finished (log ++ [o]) location ↔ c.Finished log location := by
    simp [finished_concat, neutral location]
  obtain ⟨linked, distinct, entered, ongoing, seen, known⟩ := progress
  exact ⟨linked, distinct, entered, by simpa only [same] using ongoing,
    by simpa only [same] using seen, by simpa only [same] using known⟩

theorem refuse (progress : c.Progress root chain log visited) (isNew : location ∉ visited)
    (marks : ∀ other, c.Finished [o] other ↔ other = location) :
    c.Progress root chain (log ++ [o]) (location :: visited) where
  linked := progress.linked
  distinct := progress.distinct
  entered := fun path member => List.mem_cons_of_mem _ (progress.entered path member)
  ongoing := by
    intro path member finished
    rcases finished_concat.1 finished with before | now
    · exact progress.ongoing path member before
    · exact isNew ((marks _).1 now ▸ progress.entered path member)
  seen := by
    intro other finished
    rcases finished_concat.1 finished with before | now
    · exact List.mem_cons_of_mem _ (progress.seen other before)
    · exact List.mem_cons.2 (.inl ((marks _).1 now))
  known := by
    intro other member
    rw [finished_concat]
    rcases List.mem_cons.1 member with same | old
    · exact .inr (.inr ((marks _).2 same))
    · exact (progress.known other old).imp_right .inl

theorem enter (progress : c.Progress root (importer :: outer) log visited) {own inside : Document}
    (importerParsed : Document.ofFile c.disk importer = .ok own)
    (isImport : reference ∈ own.imports)
    (examined : c.examine importer reference = .ok (.read path))
    (parsed : Document.ofFile c.disk path = .ok inside) (isNew : c.location path ∉ visited) :
    c.Progress root (path :: importer :: outer) log (c.location path :: visited) where
  linked := .inner progress.linked importerParsed isImport examined parsed
  distinct := by
    refine List.nodup_cons.2 ⟨?_, progress.distinct⟩
    intro onChain
    obtain ⟨other, member, same⟩ := List.mem_map.1 onChain
    exact isNew (same ▸ progress.entered other member)
  entered := by
    refine List.forall_mem_cons.2 ⟨List.mem_cons_self, ?_⟩
    intro other member
    exact List.mem_cons_of_mem _ (progress.entered other member)
  ongoing := List.forall_mem_cons.2 ⟨fun finished => isNew (progress.seen _ finished),
    progress.ongoing⟩
  seen := fun other finished => List.mem_cons_of_mem _ (progress.seen other finished)
  known := by
    intro other member
    rcases List.mem_cons.1 member with same | old
    · exact .inl (List.mem_cons.2 (.inl same))
    · exact (progress.known other old).imp_left (List.mem_cons_of_mem _)

theorem leave (progress : c.Progress root (path :: importer :: outer) log visited)
    (marks : ∀ other, c.Finished [o] other ↔ other = c.location path) :
    c.Progress root (importer :: outer) (log ++ [o]) visited where
  linked := by
    cases progress.linked with
    | inner chain => exact chain
  distinct := (List.nodup_cons.1 progress.distinct).2
  entered := fun other member => progress.entered other (List.mem_cons_of_mem _ member)
  ongoing := by
    intro other member finished
    rcases finished_concat.1 finished with before | now
    · exact progress.ongoing other (List.mem_cons_of_mem _ member) before
    · have same := (marks _).1 now
      exact (List.nodup_cons.1 progress.distinct).1 (same ▸ List.mem_map_of_mem member)
  seen := by
    intro other finished
    rcases finished_concat.1 finished with before | now
    · exact progress.seen other before
    · rw [(marks _).1 now]
      exact progress.entered path List.mem_cons_self
  known := by
    intro other member
    rw [finished_concat]
    rcases progress.known other member with onChain | before
    · rcases List.mem_cons.1 onChain with same | outside
      · exact .inr (.inr ((marks _).2 same))
      · exact .inl outside
    · exact .inr (.inl before)

section Steps

variable {why : SkipReason} {document : Document} {e : DocumentError}

theorem skipped (progress : c.Progress root chain log visited)
    (examined : c.examine importer reference = .ok (.skip why)) :
    c.Progress root chain (log ++ [⟨reference, some importer, .skipped why⟩]) visited :=
  progress.note fun _ => not_finished_of_examined examined (by simp)

theorem loaded (progress : c.Progress root chain log visited)
    (examined : c.examine importer reference = .ok (.load document)) :
    c.Progress root chain (log ++ [⟨reference, some importer, .loaded⟩]) visited :=
  progress.note fun _ => not_finished_of_examined examined (by simp)

theorem again (progress : c.Progress root chain log visited) :
    c.Progress root chain
      (log ++ [⟨reference, some importer, .skipped (.alreadyImported path)⟩]) visited :=
  progress.note fun _ => not_finished_of_again

theorem refused (progress : c.Progress root chain log visited)
    (examined : c.examine importer reference = .ok (.read path))
    (isNew : c.location path ∉ visited) :
    c.Progress root chain (log ++ [⟨reference, some importer, .skipped (.ofDocumentError path e)⟩])
      (c.location path :: visited) :=
  progress.refuse isNew fun _ => finished_of_read examined (.inr ⟨e, rfl⟩)

theorem completed (progress : c.Progress root (path :: importer :: outer) log visited)
    (examined : c.examine importer reference = .ok (.read path)) :
    c.Progress root (importer :: outer) (log ++ [⟨reference, some importer, .loaded⟩]) visited :=
  progress.leave fun _ => finished_of_read examined (.inl rfl)

end Steps

end Progress

theorem ofSpec_ne_again {skip : String → SkipReason} {path : PathName}
    (other : ∀ detail, skip detail ≠ .alreadyImported path)
    (result : Except SpecFailure Document) :
    c.ofSpec skip result ≠ .ok (.skip (.alreadyImported path)) := by
  intro again
  unfold ofSpec at again
  split at again
  next => cases again
  next e => exact other _ (ImportStep.skip.inj (Except.ok.inj again))
  next => cases again

theorem examine_ne_again (c : ImportContext) (importer : PathName) (reference : String)
    (path : PathName) : c.examine importer reference ≠ .ok (.skip (.alreadyImported path)) := by
  rw [examine_eq, examinePath_eq]
  split
  next =>
    split
    next => exact ofSpec_ne_again (by simp) _
    next => simp
  next =>
    split
    next => simp
    next => simp
    next =>
      split
      next => simp
      next =>
        split
        next => exact ofSpec_ne_again (by simp) _
        next => simp

end ImportContext

namespace Walk

variable {c : ImportContext} {root importer : PathName} {references : List String}
  {before after : List Location} {fault : Option Crash} {outer : List PathName}
  {log : List Outcome} {own : Document}

theorem progress (w : Walk c importer references before after fault) (complete : fault = none)
    (known : c.Progress root (importer :: outer) log before)
    (parsed : Document.ofFile c.disk importer = .ok own) (imports : references ⊆ own.imports) :
    c.Progress root (importer :: outer) (log ++ w.outcomes) after := by
  induction w generalizing outer log own with
  | done => simpa [outcomes] using known
  | crashed => cases complete
  | skip _ _ examined _ ih =>
    have others := (List.cons_subset.1 imports).2
    simpa [outcomes] using ih complete (known.skipped examined) parsed others
  | load _ _ examined _ ih =>
    have others := (List.cons_subset.1 imports).2
    simpa [outcomes] using ih complete (known.loaded examined) parsed others
  | again _ _ _ _ _ ih =>
    have others := (List.cons_subset.1 imports).2
    simpa [outcomes] using ih complete known.again parsed others
  | refuse _ _ _ examined isNew _ _ ih =>
    have others := (List.cons_subset.1 imports).2
    simpa [outcomes] using ih complete (known.refused examined isNew) parsed others
  | read _ _ _ examined isNew inside _ _ ihInner ihNext =>
    obtain ⟨isImport, others⟩ := List.cons_subset.1 imports
    have entered := known.enter parsed isImport examined inside isNew
    have inner := ihInner rfl entered inside (List.Subset.refl _)
    simpa [outcomes] using ihNext complete (inner.completed examined) parsed others
  | stop => cases complete

end Walk

/-- An outcome says that a description is there already, when so much has been noted. -/
def ImportContext.Repeats (c : ImportContext) (root : PathName) (log : List Outcome) (o : Outcome)
    (path : PathName) : Prop :=
  ∃ importer outer visited, o.importer = some importer ∧
    c.examine importer o.source = .ok (.read path) ∧ c.location path ∈ visited ∧
    c.Progress root (importer :: outer) log visited

theorem split_of_ne {A : Type} {first o : A} {rest earlier later : List A}
    (split : first :: rest = earlier ++ o :: later) (different : o ≠ first) :
    ∃ more, earlier = first :: more ∧ rest = more ++ o :: later := by
  rcases List.cons_eq_append_iff.1 split with ⟨-, found⟩ | ⟨more, isEarlier, found⟩
  · exact absurd (List.cons.inj found).1 different
  · exact ⟨more, isEarlier, found⟩

namespace Walk

variable {c : ImportContext} {root importer : PathName} {references : List String}
  {before after : List Location} {fault : Option Crash} {outer : List PathName}
  {log : List Outcome} {own : Document}

theorem repeats (w : Walk c importer references before after fault)
    (known : c.Progress root (importer :: outer) log before)
    (parsed : Document.ofFile c.disk importer = .ok own) (imports : references ⊆ own.imports)
    {earlier later : List Outcome} {o : Outcome} {path : PathName}
    (split : w.outcomes = earlier ++ o :: later)
    (isAgain : o.result = .skipped (.alreadyImported path)) :
    c.Repeats root (log ++ earlier) o path := by
  induction w generalizing outer log own earlier later with
  | done => simp [outcomes] at split
  | crashed => simp [outcomes] at split
  | skip _ why examined _ ih =>
    have others := (List.cons_subset.1 imports).2
    obtain ⟨more, rfl, found⟩ := split_of_ne split (by
      rintro rfl
      cases isAgain
      exact c.examine_ne_again _ _ _ examined)
    simpa using ih (known.skipped examined) parsed others found
  | load _ _ examined _ ih =>
    have others := (List.cons_subset.1 imports).2
    obtain ⟨more, rfl, found⟩ := split_of_ne split (by rintro rfl; cases isAgain)
    simpa using ih (known.loaded examined) parsed others found
  | @again importer _ _ visited _ _ file examined isVisited _ ih =>
    have others := (List.cons_subset.1 imports).2
    rcases List.cons_eq_append_iff.1 split with ⟨rfl, found⟩ | ⟨more, rfl, found⟩
    · obtain ⟨rfl, -⟩ := List.cons.inj found
      cases isAgain
      exact ⟨importer, outer, visited, rfl, examined, isVisited, by simpa using known⟩
    · simpa using ih known.again parsed others found
  | refuse _ _ e examined isNew _ _ ih =>
    have others := (List.cons_subset.1 imports).2
    obtain ⟨more, rfl, found⟩ := split_of_ne split (by rintro rfl; cases e <;> cases isAgain)
    simpa using ih (known.refused examined isNew) parsed others found
  | read _ _ _ examined isNew inside inner _ ihInner ihNext =>
    obtain ⟨isImport, others⟩ := List.cons_subset.1 imports
    have entered := known.enter parsed isImport examined inside isNew
    -- The outcome belongs to an import of this file, is that of the file, or comes later.
    rcases split_cases split with ⟨more, isInner⟩ | ⟨-, rfl⟩ | ⟨more, rfl, isLater⟩
    · exact ihInner entered inside (List.Subset.refl _) isInner
    · cases isAgain
    · have left := (inner.progress rfl entered inside (List.Subset.refl _)).completed examined
      simpa using ihNext left parsed others isLater
  | stop _ _ _ examined isNew inside _ ih =>
    obtain ⟨isImport, -⟩ := List.cons_subset.1 imports
    have entered := known.enter parsed isImport examined inside isNew
    exact ih entered inside (List.Subset.refl _) split

end Walk

namespace ImportContext

variable {c : ImportContext} {root importer path : PathName} {entry : FileEntry}
  {log : List Outcome}

theorem Chain.parsed {chain : List PathName} (linked : c.Chain root chain) :
    ∀ path ∈ chain, ∃ own, Document.ofFile c.disk path = .ok own := by
  induction linked with
  | root parsed => exact List.forall_mem_singleton.2 ⟨_, parsed⟩
  | inner _ _ _ _ parsed ih => exact List.forall_mem_cons.2 ⟨⟨_, parsed⟩, ih⟩

theorem InProgress.parsed (ongoing : c.InProgress root importer log (c.location path))
    (there : c.disk.lookUp path = .ok entry) : ∃ own, Document.ofFile c.disk path = .ok own := by
  obtain ⟨outer, linked, member, -⟩ := ongoing
  obtain ⟨other, onChain, same⟩ := List.mem_map.1 member
  obtain ⟨own, parsed⟩ := linked.parsed other onChain
  exact ⟨own, Document.ofFile_same parsed there same.symm⟩

theorem Loaded.parsed (loaded : c.Loaded log (c.location path))
    (settled : ∀ o ∈ log, ∃ parent, o.importer = some parent ∧ c.Settles parent o.source o.result)
    (there : c.disk.lookUp path = .ok entry) : ∃ own, Document.ofFile c.disk path = .ok own := by
  obtain ⟨o, noted, other, ⟨importer, about, examined⟩, same, result⟩ := loaded
  obtain ⟨parent, known, settles⟩ := settled o noted
  obtain rfl : importer = parent := Option.some.inj (about.symm.trans known)
  rw [result] at settles
  cases settles with
  | loaded loads => simp [examined] at loads
  | read reads parsed =>
    obtain rfl : other = _ := by simpa [examined] using reads
    exact ⟨_, Document.ofFile_same parsed there same.symm⟩

theorem Failed.not_parsed (failed : c.Failed log (c.location path))
    (settled : ∀ o ∈ log, ∃ parent, o.importer = some parent ∧ c.Settles parent o.source o.result)
    {own : Document} : Document.ofFile c.disk path ≠ .ok own := by
  intro parsed
  obtain ⟨o, noted, other, e, ⟨importer, about, examined⟩, same, result⟩ := failed
  obtain ⟨parent, known, settles⟩ := settled o noted
  obtain rfl : importer = parent := Option.some.inj (about.symm.trans known)
  obtain ⟨-, -, -, entry, there⟩ := examine_read examined
  have otherParsed := Document.ofFile_same parsed there same
  generalize o.result = noted at settles result
  cases settles with
  | skipped skips => simp [examined] at skips
  | loaded => cases result
  | again => cases e <;> cases result
  | refused reads refused =>
    obtain rfl : other = _ := by simpa [examined] using reads
    simp [otherParsed] at refused
  | read => cases result

end ImportContext

theorem Outcome.reason_cycle {o : Outcome} (isCycle : o.reason = "cycle") :
    ∃ path, o.result = .skipped (.alreadyImported path) := by
  cases result : o.result with
  | loaded => simp [Outcome.reason, result] at isCycle
  | skipped why =>
    cases why with
    | alreadyImported path => exact ⟨path, rfl⟩
    | _ => simp [Outcome.reason, result, SkipReason.name] at isCycle
  | fatal e => cases e <;> simp [Outcome.reason, result] at isCycle

theorem split_left {A : Type} {left right earlier later : List A} {o : A}
    (split : left ++ right = earlier ++ o :: later) (absent : o ∉ right) :
    ∃ more, left = earlier ++ o :: more := by
  rcases List.append_eq_append_iff.1 split with ⟨gap, -, rest⟩ | ⟨gap, isLeft, rest⟩
  · exact absurd (by simp [rest]) absent
  · rcases List.cons_eq_append_iff.1 rest with ⟨-, isRight⟩ | ⟨more, isGap, -⟩
    · exact absurd (by simp [isRight]) absent
    · exact ⟨more, by rw [isLeft, isGap]⟩

theorem Walk.resolve_outcomes {c : ImportContext} {root : PathName} {references : List String}
    {after : List Location} {fault : Option Crash} {own : Document}
    (w : Walk c root references [c.location root] after fault)
    (parsed : Document.ofFile c.disk root = .ok own) (imports : own.imports = references) :
    (c.resolve root (.start c.disk)).2.outcomes =
      w.outcomes ++ fault.elim [Outcome.ofRoot root] fun _ => [] := by
  subst imports
  obtain ⟨_, ran, -, outcomes, -⟩ := w.resolve_eq parsed
  rw [ran, outcomes]

namespace ImportContext

variable {c : ImportContext} {root : PathName} {own : Document}

theorem Progress.start (parsed : Document.ofFile c.disk root = .ok own) :
    c.Progress root [root] [] [c.location root] where
  linked := .root parsed
  distinct := List.nodup_singleton _
  entered := by simp
  ongoing := by simp [Finished, Loaded, Failed]
  seen := by simp [Finished, Loaded, Failed]
  known := by simp

-- What is noted of the root itself is not that it was imported already.
theorem exists_walk_of_cycle {o : Outcome} {earlier later : List Outcome}
    (split : (c.resolve root (.start c.disk)).2.outcomes = earlier ++ o :: later)
    (isCycle : o.reason = "cycle") :
    ∃ own after fault, ∃ w : Walk c root own.imports [c.location root] after fault,
      Document.ofFile c.disk root = .ok own ∧ ∃ more, w.outcomes = earlier ++ o :: more := by
  have notRoot {result : ImportResult} (other : ∀ why, result ≠ .skipped why) :
      o ∉ [⟨root.toText, none, result⟩] := by
    intro isRoot
    obtain ⟨path, isAgain⟩ := Outcome.reason_cycle isCycle
    rw [List.mem_singleton.1 isRoot] at isAgain
    exact other _ isAgain
  cases parsed : Document.ofFile c.disk root with
  | error failure =>
    have member : o ∈ (c.resolve root (.start c.disk)).2.outcomes := by simp [split]
    cases failure with
    | crashed crash =>
      simp [resolve, parsed, ImportState.enter, ImportState.start] at member
    | reported e =>
      simp only [resolve, parsed, ImportState.enter, ImportState.start, ImportState.note,
        List.nil_append] at member
      exact absurd member (notRoot (by simp))
  | ok own =>
    obtain ⟨after, fault, ⟨w⟩⟩ := c.exists_walk root own.imports [c.location root]
    rw [w.resolve_outcomes parsed rfl] at split
    refine ⟨own, after, fault, w, rfl, split_left split ?_⟩
    cases fault with
    | some crash => simp
    | none => exact notRoot (by simp)

end ImportContext

/-- What a run took for imported already is still being read on the way to the importer or was
loaded before, exactly if a document can be read from it. Otherwise the run has tried before, and
noted that it failed. -/
theorem resolveDocument_repeats (disk : Disk) (externals : Externals) (settings : Settings)
    (root : PathName) (baseDirectory : Option PathName) :
    let c := ImportContext.ofRoot disk externals settings root baseDirectory
    let s := (resolveDocument disk externals settings root baseDirectory).2
    ∀ earlier o later, s.outcomes = earlier ++ o :: later → o.reason = "cycle" →
      ∃ importer path, o.importer = some importer ∧ path = c.pathOf importer o.source ∧
        o.result = .skipped (.alreadyImported path) ∧
        ((c.InProgress root importer earlier (c.location path) ∨
          c.Loaded earlier (c.location path)) ↔ ∃ own, Document.ofFile disk path = .ok own) ∧
        ((¬ ∃ own, Document.ofFile disk path = .ok own) → c.Failed earlier (c.location path)) := by
  intro c s earlier o later split isCycle
  obtain ⟨path, isAgain⟩ := Outcome.reason_cycle isCycle
  obtain ⟨own, after, fault, w, parsed, more, noted⟩ :=
    ImportContext.exists_walk_of_cycle (c := c) split isCycle
  have settled : ∀ o ∈ earlier, ∃ parent, o.importer = some parent ∧
      c.Settles parent o.source o.result := by
    intro o isEarlier
    exact w.outcomes_settled o (by simp [noted, isEarlier])
  obtain ⟨importer, outer, visited, about, examined, isVisited, known⟩ :=
    w.repeats (.start parsed) parsed (List.Subset.refl _) noted isAgain
  obtain ⟨-, isPath, -, entry, there⟩ := ImportContext.examine_read examined
  refine ⟨importer, path, about, isPath, isAgain, ⟨?_, ?_⟩, ?_⟩
  · rintro (ongoing | loaded)
    · exact ongoing.parsed there
    · exact loaded.parsed settled there
  · rintro ⟨_, readable⟩
    rcases known.known _ isVisited with onChain | loaded | failed
    · exact .inl ⟨outer, known.linked, onChain, known.ongoing⟩
    · exact .inr loaded
    · exact absurd readable (failed.not_parsed settled)
  · intro unreadable
    rcases known.known _ isVisited with onChain | loaded | failed
    · exact absurd (ImportContext.InProgress.parsed
        ⟨outer, known.linked, onChain, known.ongoing⟩ there) unreadable
    · exact absurd (loaded.parsed settled there) unreadable
    · exact failed

-- A file imports one that cannot be read, the same one again by another path, and itself.
def stubborn : Disk where
  workingDirectory := ["w"]
  entries := [(["w"], .directory),
    (["w", "main.rqc"], asciiFile "import bad.rqc import ../w/bad.rqc import ./main.rqc"),
    (["w", "bad.rqc"], asciiFile "api")]

def stubbornContext : ImportContext := .ofRoot stubborn (.standard []) {} crossingRoot none

theorem stubborn_unreadable (reference : String)
    (isBad : reference ∈ ["bad.rqc", "../w/bad.rqc"]) :
    ¬ ∃ own,
      Document.ofFile stubborn (stubbornContext.pathOf crossingRoot reference) = .ok own := by
  have fails : ∀ reference ∈ ["bad.rqc", "../w/bad.rqc"],
      (Document.ofFile stubborn (stubbornContext.pathOf crossingRoot reference)).isOk = false := by
    decide +kernel
  rintro ⟨own, parsed⟩
  simpa [parsed, Except.isOk, Except.toBool] using fails reference isBad

theorem stubborn_examined (reference : String)
    (isImport : reference ∈ ["bad.rqc", "../w/bad.rqc", "./main.rqc"]) :
    stubbornContext.examine crossingRoot reference =
      .ok (.read (stubbornContext.pathOf crossingRoot reference)) := by
  have leads : ∀ reference ∈ ["bad.rqc", "../w/bad.rqc", "./main.rqc"],
      Url.isUrl reference = false ∧
        (stubbornContext.pathOf crossingRoot reference).isDescription = true ∧
        (stubbornContext.disk.lookUp
          (stubbornContext.pathOf crossingRoot reference)).isOk = true := by
    decide +kernel
  obtain ⟨isPath, isDescription, there⟩ := leads reference isImport
  exact ImportContext.examine_of_description isPath isDescription there

theorem stubborn_outcomes : ∃ first,
    (resolveDocument stubborn (.standard []) {} crossingRoot none).2.outcomes =
      [⟨"bad.rqc", some crossingRoot, .skipped first⟩,
        ⟨"../w/bad.rqc", some crossingRoot,
          .skipped (.alreadyImported (stubbornContext.pathOf crossingRoot "../w/bad.rqc"))⟩,
        ⟨"./main.rqc", some crossingRoot,
          .skipped (.alreadyImported (stubbornContext.pathOf crossingRoot "./main.rqc"))⟩,
        .ofRoot crossingRoot] := by
  let c := stubbornContext
  obtain ⟨own, parsed, imports⟩ : ∃ own, Document.ofFile stubborn crossingRoot = .ok own ∧
      own.imports = ["bad.rqc", "../w/bad.rqc", "./main.rqc"] :=
    Document.exists_of_imports (by decide +kernel)
  have first := stubborn_examined "bad.rqc" (by decide)
  obtain ⟨e, refused⟩ : ∃ e, Document.ofFile c.disk (c.pathOf crossingRoot "bad.rqc") =
      .error (.reported e) := by
    cases found : Document.ofFile c.disk (c.pathOf crossingRoot "bad.rqc") with
    | ok own => exact absurd ⟨own, found⟩ (stubborn_unreadable "bad.rqc" (by decide))
    | error failure =>
      cases failure with
      | crashed crash => exact absurd found (ImportContext.ofFile_of_read first crash)
      | reported e => exact ⟨e, rfl⟩
  let w : Walk c crossingRoot ["bad.rqc", "../w/bad.rqc", "./main.rqc"] [c.location crossingRoot]
      [["w", "bad.rqc"], ["w", "main.rqc"]] none :=
    .refuse "bad.rqc" _ e first (by decide +kernel) refused
      (.again "../w/bad.rqc" _ (stubborn_examined _ (by decide)) (by decide +kernel)
        (.again "./main.rqc" _ (stubborn_examined _ (by decide)) (by decide +kernel) .done))
  exact ⟨_, w.resolve_outcomes parsed imports⟩

theorem resolveDocument_repeats_stubborn :
    let c := stubbornContext
    let path (reference : String) := c.pathOf crossingRoot reference
    ∃ first again itself last,
      (resolveDocument stubborn (.standard []) {} crossingRoot none).2.outcomes =
        [first, again, itself, last] ∧
      again.reason = "cycle" ∧ c.Failed [first] (c.location (path again.source)) ∧
      itself.reason = "cycle" ∧
      (c.InProgress crossingRoot crossingRoot [first, again] (c.location (path itself.source)) ∨
        c.Loaded [first, again] (c.location (path itself.source))) := by
  intro c path
  obtain ⟨why, outcomes⟩ := stubborn_outcomes
  refine ⟨_, _, _, _, outcomes, rfl, ?_, rfl, ?_⟩
  · obtain ⟨_, _, about, rfl, -, -, failed⟩ :=
      resolveDocument_repeats stubborn (.standard []) {} crossingRoot none [_] _ [_, _] outcomes rfl
    cases about
    exact failed (stubborn_unreadable "../w/bad.rqc" (by decide))
  · obtain ⟨_, _, about, rfl, -, known, -⟩ :=
      resolveDocument_repeats stubborn (.standard []) {} crossingRoot none [_, _] _ [_] outcomes rfl
    cases about
    refine known.2 ?_
    obtain ⟨own, parsed, -⟩ : ∃ own, Document.ofFile stubborn (path "./main.rqc") = .ok own ∧
        own.imports = ["bad.rqc", "../w/bad.rqc", "./main.rqc"] :=
      Document.exists_of_imports (by decide +kernel)
    exact ⟨own, parsed⟩

theorem resolveDocument_repeats_unread :
    let c := stubbornContext
    ∃ earlier o later, (resolveDocument stubborn (.standard []) {} crossingRoot none).2.outcomes =
        earlier ++ o :: later ∧ o.reason = "cycle" ∧
      ∃ path, o.result = .skipped (.alreadyImported path) ∧
        ¬ (c.InProgress crossingRoot crossingRoot earlier (c.location path) ∨
          c.Loaded earlier (c.location path)) := by
  intro c
  obtain ⟨why, outcomes⟩ := stubborn_outcomes
  refine ⟨[_], _, [_, _], outcomes, rfl, _, rfl, ?_⟩
  rintro (ongoing | ⟨_, member, _, -, -, loaded⟩)
  · obtain ⟨-, -, -, _, there⟩ :=
      ImportContext.examine_read (stubborn_examined "../w/bad.rqc" (by decide))
    exact stubborn_unreadable "../w/bad.rqc" (by decide) (ongoing.parsed there)
  · rw [List.mem_singleton.1 member] at loaded
    cases loaded

end ApiCatalog
