import ApiCatalog.Proofs.ImportVisits

set_option autoImplicit false

namespace ApiCatalog

def Disk.parsed (disk : Disk) (paths : List PathName) : List (PathName × Document) :=
  paths.filterMap fun path => (Document.ofFile disk path).toOption.map (path, ·)

def sourcesOf (path : PathName) (outcomes : List Outcome) : List String :=
  (outcomes.filter (·.importer = some path)).map (·.source)

/-- Where the outcome of a file stands right behind those of its own imports. -/
def ImportContext.Completes (c : ImportContext) (path : PathName) (earlier : List Outcome) : Prop :=
  ∃ own, Document.ofFile c.disk path = .ok own ∧ sourcesOf path earlier = own.imports ∧
    (own.imports ≠ [] → earlier.getLast?.bind (·.importer) = some path)

/-- What may be noted of a reference. -/
inductive ImportContext.Settles (c : ImportContext) (importer : PathName) (reference : String) :
    ImportResult → Prop
  | skipped {why : SkipReason} (examined : c.examine importer reference = .ok (.skip why)) :
      c.Settles importer reference (.skipped why)
  | loaded {document : Document}
      (examined : c.examine importer reference = .ok (.load document)) :
      c.Settles importer reference .loaded
  | again {path : PathName} (examined : c.examine importer reference = .ok (.read path)) :
      c.Settles importer reference (.skipped (.alreadyImported path))
  | refused {path : PathName} {e : DocumentError}
      (examined : c.examine importer reference = .ok (.read path))
      (refused : Document.ofFile c.disk path = .error (.reported e)) :
      c.Settles importer reference (.skipped (.ofDocumentError path e))
  | read {path : PathName} {own : Document}
      (examined : c.examine importer reference = .ok (.read path))
      (parsed : Document.ofFile c.disk path = .ok own) :
      c.Settles importer reference .loaded

section Parsed

variable {disk : Disk} {path : PathName} {paths : List PathName}

theorem Disk.parsed_of_ok {own : Document} (parsed : Document.ofFile disk path = .ok own) :
    disk.parsed (path :: paths) = (path, own) :: disk.parsed paths := by
  simp [Disk.parsed, parsed, Except.toOption]

theorem Disk.parsed_of_error {failure : Failure DocumentError}
    (refused : Document.ofFile disk path = .error failure) :
    disk.parsed (path :: paths) = disk.parsed paths := by
  simp [Disk.parsed, refused, Except.toOption]

theorem Disk.parsed_append (disk : Disk) (left right : List PathName) :
    disk.parsed (left ++ right) = disk.parsed left ++ disk.parsed right :=
  List.filterMap_append

theorem Disk.parsed_sublist (disk : Disk) (paths : List PathName) :
    ((disk.parsed paths).map (·.1)).Sublist paths := by
  induction paths with
  | nil => exact .slnil
  | cons path rest ih =>
    cases found : Document.ofFile disk path with
    | error failure =>
      rw [Disk.parsed_of_error found]
      exact ih.cons path
    | ok own =>
      rw [Disk.parsed_of_ok found]
      exact ih.cons_cons path

theorem Disk.mem_of_parsed {d : PathName × Document} (member : d ∈ disk.parsed paths) :
    d.1 ∈ paths := by
  obtain ⟨path, isPath, found⟩ := List.mem_filterMap.1 member
  obtain ⟨own, -, rfl⟩ := Option.map_eq_some_iff.1 found
  exact isPath

end Parsed

section Sources

variable {path : PathName} {o : Outcome}

theorem sourcesOf_append (path : PathName) (left right : List Outcome) :
    sourcesOf path (left ++ right) = sourcesOf path left ++ sourcesOf path right := by
  simp [sourcesOf]

theorem sourcesOf_cons_self (about : o.importer = some path) (rest : List Outcome) :
    sourcesOf path (o :: rest) = o.source :: sourcesOf path rest := by
  simp [sourcesOf, about]

theorem sourcesOf_cons_other (other : o.importer ≠ some path) (rest : List Outcome) :
    sourcesOf path (o :: rest) = sourcesOf path rest := by
  simp [sourcesOf, other]

theorem sourcesOf_eq_nil {outcomes : List Outcome}
    (others : ∀ o ∈ outcomes, o.importer ≠ some path) : sourcesOf path outcomes = [] := by
  simpa [sourcesOf] using others

end Sources

theorem getLast?_append_importer {path : PathName} {rest : List Outcome}
    (last : rest.getLast?.bind (·.importer) = some path) (first : List Outcome) :
    (first ++ rest).getLast?.bind (·.importer) = some path := by
  obtain ⟨o, isLast, about⟩ := Option.bind_eq_some_iff.1 last
  simp [List.getLast?_append, isLast, about]

theorem ImportContext.Completes.prepend {c : ImportContext} {path : PathName}
    {earlier : List Outcome} (completes : c.Completes path earlier) (first : List Outcome)
    (others : sourcesOf path first = []) : c.Completes path (first ++ earlier) := by
  obtain ⟨own, parsed, sources, last⟩ := completes
  refine ⟨own, parsed, ?_, ?_⟩
  · rw [sourcesOf_append, others, List.nil_append, sources]
  · intro hasImports
    exact getLast?_append_importer (last hasImports) first

theorem split_cases {A : Type} {left right earlier later : List A} {x o : A}
    (same : left ++ x :: right = earlier ++ o :: later) :
    (∃ more, left = earlier ++ o :: more) ∨ (earlier = left ∧ o = x) ∨
      ∃ more, earlier = left ++ x :: more ∧ right = more ++ o :: later := by
  rcases List.append_eq_append_iff.1 same with ⟨gap, isEarlier, rest⟩ | ⟨gap, isLeft, rest⟩
  · rcases List.cons_eq_append_iff.1 rest with ⟨none, found⟩ | ⟨more, isGap, found⟩
    · obtain ⟨rfl, -⟩ := List.cons.inj found
      exact .inr (.inl ⟨by simpa [none] using isEarlier, rfl⟩)
    · exact .inr (.inr ⟨more, by rw [isEarlier, isGap], found⟩)
  · rcases List.cons_eq_append_iff.1 rest with ⟨none, found⟩ | ⟨more, isGap, -⟩
    · obtain ⟨rfl, -⟩ := List.cons.inj found
      exact .inr (.inl ⟨by simpa [none] using isLeft.symm, rfl⟩)
    · exact .inl ⟨more, by rw [isLeft, isGap]⟩

namespace Walk

variable {c : ImportContext} {importer : PathName} {references : List String}
  {before after : List Location} {fault : Option Crash}

theorem opened_new (w : Walk c importer references before after fault) :
    ∀ path ∈ w.opened, c.location path ∉ before := by
  induction w with
  | done => simp [opened]
  | crashed => simp [opened]
  | skip _ _ _ _ ih => exact ih
  | load _ _ _ _ ih => exact ih
  | again _ _ _ _ _ ih => exact ih
  | refuse _ _ _ _ isNew _ _ ih =>
    refine List.forall_mem_cons.2 ⟨isNew, ?_⟩
    intro path isLater old
    exact ih path isLater (List.mem_cons_of_mem _ old)
  | read _ _ _ _ isNew _ imports _ ihImports ihNext =>
    refine List.forall_mem_cons.2 ⟨isNew, List.forall_mem_append.2 ⟨?_, ?_⟩⟩
    · intro path isInner old
      exact ihImports path isInner (List.mem_cons_of_mem _ old)
    · intro path isLater old
      exact ihNext path isLater (imports.before_subset (List.mem_cons_of_mem _ old))
  | stop _ _ _ _ isNew _ _ ih =>
    refine List.forall_mem_cons.2 ⟨isNew, ?_⟩
    intro path isInner old
    exact ih path isInner (List.mem_cons_of_mem _ old)

theorem opened_visited (w : Walk c importer references before after fault) :
    ∀ path ∈ w.opened, c.location path ∈ after := by
  intro path isOpened
  rw [w.after_eq]
  exact List.mem_append_left _ (List.mem_reverse.2 (List.mem_map_of_mem isOpened))

theorem outcomes_importer (w : Walk c importer references before after fault) :
    ∀ o ∈ w.outcomes, o.importer = some importer ∨
      ∃ d ∈ c.disk.parsed w.opened, o.importer = some d.1 := by
  induction w with
  | done => simp [outcomes]
  | crashed => simp [outcomes]
  | skip _ _ _ _ ih => exact List.forall_mem_cons.2 ⟨.inl rfl, ih⟩
  | load _ _ _ _ ih => exact List.forall_mem_cons.2 ⟨.inl rfl, ih⟩
  | again _ _ _ _ _ ih => exact List.forall_mem_cons.2 ⟨.inl rfl, ih⟩
  | refuse _ _ _ _ _ refused _ ih =>
    refine List.forall_mem_cons.2 ⟨.inl rfl, ?_⟩
    simpa only [opened, Disk.parsed_of_error refused] using ih
  | read _ path own _ _ parsed imports next ihImports ihNext =>
    simp only [outcomes, opened, Disk.parsed_of_ok parsed, Disk.parsed_append]
    refine List.forall_mem_append.2 ⟨?_, List.forall_mem_cons.2 ⟨.inl rfl, ?_⟩⟩
    · intro o member
      rcases ihImports o member with about | ⟨d, isParsed, about⟩
      · exact .inr ⟨(path, own), by simp, about⟩
      · exact .inr ⟨d, by simp [isParsed], about⟩
    · intro o member
      rcases ihNext o member with about | ⟨d, isParsed, about⟩
      · exact .inl about
      · exact .inr ⟨d, by simp [isParsed], about⟩
  | stop _ path own _ _ parsed _ ih =>
    simp only [outcomes, opened, Disk.parsed_of_ok parsed]
    intro o member
    rcases ih o member with about | ⟨d, isParsed, about⟩
    · exact .inr ⟨(path, own), by simp, about⟩
    · exact .inr ⟨d, by simp [isParsed], about⟩

theorem sourcesOf_other (w : Walk c importer references before after fault) {path : PathName}
    (other : path ≠ importer) (unopened : path ∉ w.opened) : sourcesOf path w.outcomes = [] := by
  apply sourcesOf_eq_nil
  intro o member about
  rcases w.outcomes_importer o member with isImporter | ⟨d, isParsed, isOpened⟩
  · exact other (Option.some.inj (about.symm.trans isImporter))
  · have same : path = d.1 := Option.some.inj (about.symm.trans isOpened)
    exact unopened (same ▸ Disk.mem_of_parsed isParsed)

theorem not_mem_opened (w : Walk c importer references before after fault) {path : PathName}
    (visited : c.location path ∈ before) : path ∉ w.opened :=
  fun isOpened => w.opened_new path isOpened visited

theorem sourcesOf_importer (w : Walk c importer references before after fault)
    (complete : fault = none) (visited : c.location importer ∈ before) :
    sourcesOf importer w.outcomes = references := by
  induction w with
  | done => rfl
  | crashed => cases complete
  | skip _ _ _ _ ih => exact (sourcesOf_cons_self rfl _).trans (by rw [ih complete visited])
  | load _ _ _ _ ih => exact (sourcesOf_cons_self rfl _).trans (by rw [ih complete visited])
  | again _ _ _ _ _ ih => exact (sourcesOf_cons_self rfl _).trans (by rw [ih complete visited])
  | refuse _ _ _ _ _ _ _ ih =>
    refine (sourcesOf_cons_self rfl _).trans ?_
    rw [ih complete (List.mem_cons_of_mem _ visited)]
  | @read importer reference _ _ _ _ _ path _ _ isNew _ imports next _ ihNext =>
    have stays := List.mem_cons_of_mem (c.location path) visited
    have other : importer ≠ path := fun same => isNew (same ▸ visited)
    -- No import of the file is about the importer, which was visited before.
    simp only [outcomes]
    rw [sourcesOf_append, imports.sourcesOf_other other (imports.not_mem_opened stays),
      sourcesOf_cons_self rfl, ihNext complete (imports.before_subset stays)]
    rfl
  | stop => cases complete

theorem sourcesOf_cons_opened (w : Walk c importer references before after fault)
    (visited : c.location importer ∈ before) {path : PathName} (isOpened : path ∈ w.opened)
    {o : Outcome} (about : o.importer = some importer) (rest : List Outcome) :
    sourcesOf path (o :: rest) = sourcesOf path rest := by
  apply sourcesOf_cons_other
  rw [about]
  intro same
  exact w.opened_new path isOpened (Option.some.inj same ▸ visited)

theorem sourcesOf_parsed_cons (w : Walk c importer references before after fault)
    (visited : c.location importer ∈ before) {o : Outcome} (about : o.importer = some importer)
    (accounted : ∀ d ∈ c.disk.parsed w.opened, sourcesOf d.1 w.outcomes = d.2.imports) :
    ∀ d ∈ c.disk.parsed w.opened, sourcesOf d.1 (o :: w.outcomes) = d.2.imports := by
  intro d isParsed
  have isOpened := Disk.mem_of_parsed isParsed
  exact (w.sourcesOf_cons_opened visited isOpened about _).trans (accounted d isParsed)

theorem sourcesOf_parsed (w : Walk c importer references before after fault)
    (complete : fault = none) (visited : c.location importer ∈ before) :
    ∀ d ∈ c.disk.parsed w.opened, sourcesOf d.1 w.outcomes = d.2.imports := by
  induction w with
  | done => simp [opened, Disk.parsed]
  | crashed => cases complete
  | skip _ _ _ next ih => exact next.sourcesOf_parsed_cons visited rfl (ih complete visited)
  | load _ _ _ next ih => exact next.sourcesOf_parsed_cons visited rfl (ih complete visited)
  | again _ _ _ _ next ih => exact next.sourcesOf_parsed_cons visited rfl (ih complete visited)
  | refuse _ path _ _ _ refused next ih =>
    have stays := List.mem_cons_of_mem (c.location path) visited
    rw [opened, Disk.parsed_of_error refused]
    exact next.sourcesOf_parsed_cons stays rfl (ih complete stays)
  | @read importer reference _ old middle _ _ path own _ isNew parsed imports next ihImports
      ihNext =>
    have here : c.location path ∈ c.location path :: old := List.mem_cons_self
    have stays := List.mem_cons_of_mem (c.location path) visited
    have other : path ≠ importer := fun same => isNew (same ▸ visited)
    -- What is noted after the imports of this file is about the importer and what is read later.
    have later {p : PathName} (known : c.location p ∈ middle) (different : p ≠ importer) :
        sourcesOf p (⟨reference, some importer, .loaded⟩ :: next.outcomes) = [] := by
      rw [sourcesOf_cons_other (by simpa using different.symm),
        next.sourcesOf_other different (next.not_mem_opened known)]
    simp only [opened, outcomes, Disk.parsed_of_ok parsed, Disk.parsed_append, sourcesOf_append]
    refine List.forall_mem_cons.2 ⟨?_, List.forall_mem_append.2 ⟨?_, ?_⟩⟩
    · rw [imports.sourcesOf_importer rfl here, later (imports.before_subset here) other,
        List.append_nil]
    · intro d isParsed
      have isOpened := Disk.mem_of_parsed isParsed
      have different : d.1 ≠ importer :=
        fun same => imports.opened_new _ isOpened (same ▸ stays)
      rw [ihImports rfl here d isParsed, later (imports.opened_visited _ isOpened) different,
        List.append_nil]
    · intro d isParsed
      have isOpened := Disk.mem_of_parsed isParsed
      have notThis : d.1 ≠ path :=
        fun same => next.opened_new _ isOpened (same ▸ imports.before_subset here)
      have notInner : d.1 ∉ imports.opened :=
        fun isInner => next.opened_new _ isOpened (imports.opened_visited _ isInner)
      have known := imports.before_subset stays
      rw [imports.sourcesOf_other notThis notInner, List.nil_append,
        next.sourcesOf_parsed_cons known rfl (ihNext complete known) d isParsed]
  | stop => cases complete

theorem getLast?_cons_outcomes (w : Walk c importer references before after fault)
    (complete : fault = none) {o : Outcome} (about : o.importer = some importer) :
    (o :: w.outcomes).getLast?.bind (·.importer) = some importer := by
  induction w generalizing o with
  | done => exact about
  | crashed => cases complete
  | skip _ _ _ _ ih => exact getLast?_append_importer (ih complete rfl) [o]
  | load _ _ _ _ ih => exact getLast?_append_importer (ih complete rfl) [o]
  | again _ _ _ _ _ ih => exact getLast?_append_importer (ih complete rfl) [o]
  | refuse _ _ _ _ _ _ _ ih => exact getLast?_append_importer (ih complete rfl) [o]
  | read _ _ _ _ _ _ imports _ _ ih =>
    exact getLast?_append_importer (ih complete rfl) (o :: imports.outcomes)
  | stop => cases complete

theorem getLast?_outcomes (w : Walk c importer references before after none)
    (hasImports : references ≠ []) :
    w.outcomes.getLast?.bind (·.importer) = some importer := by
  cases w with
  | done => exact absurd rfl hasImports
  | skip _ _ _ next => exact next.getLast?_cons_outcomes rfl rfl
  | load _ _ _ next => exact next.getLast?_cons_outcomes rfl rfl
  | again _ _ _ _ next => exact next.getLast?_cons_outcomes rfl rfl
  | refuse _ _ _ _ _ _ next => exact next.getLast?_cons_outcomes rfl rfl
  | read _ _ _ _ _ _ _ next =>
    exact getLast?_append_importer (next.getLast?_cons_outcomes rfl rfl) _

theorem length_outcomes (w : Walk c importer references before after fault)
    (complete : fault = none) :
    w.outcomes.length =
      references.length + ((c.disk.parsed w.opened).flatMap (·.2.imports)).length := by
  induction w with
  | done => rfl
  | crashed => cases complete
  | skip _ _ _ _ ih =>
    simp only [outcomes, opened, List.length_cons, ih complete]
    omega
  | load _ _ _ _ ih =>
    simp only [outcomes, opened, List.length_cons, ih complete]
    omega
  | again _ _ _ _ _ ih =>
    simp only [outcomes, opened, List.length_cons, ih complete]
    omega
  | refuse _ _ _ _ _ refused _ ih =>
    simp only [outcomes, opened, Disk.parsed_of_error refused, List.length_cons, ih complete]
    omega
  | read _ _ _ _ _ parsed _ _ ihImports ihNext =>
    simp only [outcomes, opened, Disk.parsed_of_ok parsed, Disk.parsed_append, List.flatMap_cons,
      List.flatMap_append, List.length_append, List.length_cons, ihImports rfl, ihNext complete]
    omega
  | stop => cases complete

-- The step for an import that no file was read for.
theorem completes_cons {next : Walk c importer references before after fault}
    (visited : c.location importer ∈ before) {earlier later : List Outcome} {o first : Outcome}
    (split : first :: next.outcomes = earlier ++ o :: later)
    (about : first.importer = some importer) {path : PathName} (different : o ≠ first)
    (ih : ∀ {earlier : List Outcome}, next.outcomes = earlier ++ o :: later →
      path ∈ next.opened ∧ c.Completes path earlier) :
    path ∈ next.opened ∧ c.Completes path earlier := by
  rcases List.cons_eq_append_iff.1 split with ⟨-, found⟩ | ⟨more, rfl, found⟩
  · exact absurd (List.cons.inj found).1 different
  · obtain ⟨isOpened, done⟩ := ih found
    exact ⟨isOpened, done.prepend [first] (next.sourcesOf_cons_opened visited isOpened about [])⟩

theorem completes (w : Walk c importer references before after fault) (complete : fault = none)
    (visited : c.location importer ∈ before) {earlier later : List Outcome} {o : Outcome}
    (split : w.outcomes = earlier ++ o :: later) (loaded : o.result = .loaded)
    {parent path : PathName} (about : o.importer = some parent)
    (examined : c.examine parent o.source = .ok (.read path)) :
    path ∈ w.opened ∧ c.Completes path earlier := by
  induction w generalizing earlier later with
  | done => simp [outcomes] at split
  | crashed => cases complete
  | skip _ _ _ next ih =>
    refine completes_cons visited split rfl ?_ (ih complete visited)
    rintro rfl
    cases loaded
  | load _ _ found next ih =>
    refine completes_cons visited split rfl ?_ (ih complete visited)
    rintro rfl
    cases about
    simp [found] at examined
  | again _ _ _ _ next ih =>
    refine completes_cons visited split rfl ?_ (ih complete visited)
    rintro rfl
    cases loaded
  | refuse _ path _ _ _ _ next ih =>
    have stays := List.mem_cons_of_mem (c.location path) visited
    obtain ⟨isOpened, done⟩ := completes_cons stays split rfl (by rintro rfl; cases loaded)
      (ih complete stays)
    exact ⟨List.mem_cons_of_mem _ isOpened, done⟩
  | @read importer reference _ old middle _ _ file own found isNew parsed imports next ihImports
      ihNext =>
    have here : c.location file ∈ c.location file :: old := List.mem_cons_self
    have stays := List.mem_cons_of_mem (c.location file) visited
    simp only [opened, List.mem_cons, List.mem_append]
    -- The outcome belongs to an import of this file, is that of the file, or comes later.
    rcases split_cases split with ⟨more, isInner⟩ | ⟨rfl, rfl⟩ | ⟨more, rfl, isLater⟩
    · obtain ⟨isOpened, done⟩ := ihImports rfl here isInner
      exact ⟨.inr (.inl isOpened), done⟩
    · cases about
      obtain rfl : path = file := by simpa [found] using examined.symm
      exact ⟨.inl rfl, own, parsed, imports.sourcesOf_importer rfl here, imports.getLast?_outcomes⟩
    · have known := imports.before_subset stays
      obtain ⟨isOpened, done⟩ := ihNext complete known isLater
      have notThis : path ≠ file :=
        fun same => next.opened_new _ isOpened (same ▸ imports.before_subset here)
      have notInner : path ∉ imports.opened :=
        fun isInner => next.opened_new _ isOpened (imports.opened_visited _ isInner)
      refine ⟨.inr (.inr isOpened), ?_⟩
      apply (done.prepend [_] (next.sourcesOf_cons_opened known isOpened rfl [])).prepend
      exact imports.sourcesOf_other notThis notInner
  | stop => cases complete

theorem outcomes_settled (w : Walk c importer references before after fault) :
    ∀ o ∈ w.outcomes, ∃ parent, o.importer = some parent ∧ c.Settles parent o.source o.result := by
  induction w with
  | done => simp [outcomes]
  | crashed => simp [outcomes]
  | skip _ _ examined _ ih => exact List.forall_mem_cons.2 ⟨⟨_, rfl, .skipped examined⟩, ih⟩
  | load _ _ examined _ ih => exact List.forall_mem_cons.2 ⟨⟨_, rfl, .loaded examined⟩, ih⟩
  | again _ _ examined _ _ ih => exact List.forall_mem_cons.2 ⟨⟨_, rfl, .again examined⟩, ih⟩
  | refuse _ _ _ examined _ refused _ ih =>
    exact List.forall_mem_cons.2 ⟨⟨_, rfl, .refused examined refused⟩, ih⟩
  | read _ _ _ examined _ parsed _ _ ihImports ihNext =>
    exact List.forall_mem_append.2
      ⟨ihImports, List.forall_mem_cons.2 ⟨⟨_, rfl, .read examined parsed⟩, ihNext⟩⟩
  | stop _ _ _ _ _ _ _ ih => exact ih

-- Only a root can be fatal: nothing that a reference leads to is.
theorem outcomes_ne_fatal (w : Walk c importer references before after fault) :
    ∀ o ∈ w.outcomes, o.status ≠ "fatal" := by
  intro o member
  obtain ⟨parent, -, settles⟩ := w.outcomes_settled o member
  unfold Outcome.status
  cases result : o.result with
  | loaded => simp
  | skipped why => simp
  | fatal e =>
    rw [result] at settles
    cases settles

end Walk

theorem Outcome.status_loaded {o : Outcome} : o.status = "loaded" ↔ o.result = .loaded := by
  unfold Outcome.status
  cases o.result <;> simp

theorem Outcome.reason_ok {o : Outcome} : o.reason = "ok" ↔ o.result = .loaded := by
  unfold Outcome.reason
  rcases o.result with _ | why | (_ | _)
  · simp
  · cases why <;> simp [SkipReason.name]
  · simp
  · simp

theorem ImportContext.Settles.read_of_isDescription {c : ImportContext} {importer : PathName}
    {reference : String} (settles : c.Settles importer reference .loaded)
    (isPath : Url.isUrl reference = false)
    (isDescription : (c.pathOf importer reference).isDescription = true) :
    c.examine importer reference = .ok (.read (c.pathOf importer reference)) := by
  cases settles with
  | loaded examined =>
    -- Only specifications are loaded without being read as descriptions.
    rw [examine_eq, examinePath_eq] at examined
    simp only [isPath, isDescription, Bool.false_eq_true, if_false, if_true] at examined
    split at examined <;> cases examined
  | read examined _ =>
    obtain ⟨-, rfl, -⟩ := examine_read examined
    exact examined

namespace Resolution

variable {c : ImportContext} {root : PathName}

theorem parsed_opened (r : Resolution c root) :
    c.disk.parsed r.opened = (root, r.own) :: c.disk.parsed r.walk.opened :=
  Disk.parsed_of_ok r.parsed

theorem parsed_nodup (r : Resolution c root) : ((c.disk.parsed r.opened).map (·.1)).Nodup :=
  (c.disk.parsed_sublist r.opened).nodup (List.Nodup.of_map _ r.walk.opened_nodup)

theorem length_outcomes (r : Resolution c root) :
    r.outcomes.length = 1 + ((c.disk.parsed r.opened).flatMap (·.2.imports)).length := by
  rw [r.parsed_opened]
  simp only [outcomes, List.length_append, r.walk.length_outcomes rfl, List.flatMap_cons,
    List.length_singleton]
  omega

theorem sourcesOf_outcomes (r : Resolution c root) :
    ∀ d ∈ c.disk.parsed r.opened, sourcesOf d.1 r.outcomes = d.2.imports := by
  have here : c.location root ∈ [c.location root] := List.mem_cons_self
  have last (path : PathName) : sourcesOf path [Outcome.ofRoot root] = [] := rfl
  simp only [r.parsed_opened, outcomes, sourcesOf_append, last, List.append_nil]
  exact List.forall_mem_cons.2
    ⟨r.walk.sourcesOf_importer rfl here, r.walk.sourcesOf_parsed rfl here⟩

theorem outcomes_importer (r : Resolution c root) :
    ∀ o ∈ r.walk.outcomes, ∃ d ∈ c.disk.parsed r.opened, o.importer = some d.1 := by
  intro o member
  rw [r.parsed_opened]
  rcases r.walk.outcomes_importer o member with about | ⟨d, isParsed, about⟩
  · exact ⟨(root, r.own), List.mem_cons_self, about⟩
  · exact ⟨d, List.mem_cons_of_mem _ isParsed, about⟩

theorem outcomes_ne_fatal (r : Resolution c root) : ∀ o ∈ r.outcomes, o.status ≠ "fatal" := by
  refine List.forall_mem_append.2 ⟨r.walk.outcomes_ne_fatal, ?_⟩
  simp [Outcome.ofRoot, Outcome.status]

theorem completes (r : Resolution c root) {earlier later : List Outcome} {o : Outcome}
    {importer : PathName} (split : r.outcomes = earlier ++ o :: later)
    (about : o.importer = some importer) (loaded : o.status = "loaded")
    (isPath : Url.isUrl o.source = false)
    (isDescription : (c.pathOf importer o.source).isDescription = true) :
    c.Completes (c.pathOf importer o.source) earlier := by
  rw [Outcome.status_loaded] at loaded
  rcases split_cases split with ⟨more, isImport⟩ | ⟨-, rfl⟩ | ⟨more, -, isNothing⟩
  · have member : o ∈ r.walk.outcomes := by simp [isImport]
    obtain ⟨parent, known, settles⟩ := r.walk.outcomes_settled o member
    obtain rfl : importer = parent := Option.some.inj (about.symm.trans known)
    rw [loaded] at settles
    have examined := settles.read_of_isDescription isPath isDescription
    exact (r.walk.completes rfl List.mem_cons_self isImport loaded about examined).2
  · cases about
  · simp at isNothing

end Resolution

/-- The outcomes of a run that returns account for each import of each file that it read once, in
the order of the references of the file, and for the root last. -/
theorem resolveDocument_accounts {disk : Disk} {externals : Externals} {settings : Settings}
    {root : PathName} {baseDirectory : Option PathName} {document : Document} {s : ImportState}
    (returned : resolveDocument disk externals settings root baseDirectory = (.ok document, s)) :
    let c := ImportContext.ofRoot disk externals settings root baseDirectory
    let parsed := disk.parsed s.opened
    s.outcomes.length = 1 + (parsed.flatMap (·.2.imports)).length ∧
    (parsed.map (·.1)).Nodup ∧
    (∀ d ∈ parsed, sourcesOf d.1 s.outcomes = d.2.imports) ∧
    (∀ earlier o later importer, s.outcomes = earlier ++ o :: later →
      o.importer = some importer → o.status = "loaded" → Url.isUrl o.source = false →
      (c.pathOf importer o.source).isDescription = true →
      c.Completes (c.pathOf importer o.source) earlier) ∧
    (∀ o ∈ s.outcomes, o.status ≠ "fatal") ∧
    (∃ imports, s.outcomes = imports ++ [Outcome.ofRoot root] ∧
      ∀ o ∈ imports, ∃ d ∈ parsed, o.importer = some d.1) ∧
    ∀ o ∈ s.outcomes, (o.status = "loaded" ↔ o.reason = "ok") ∧
      (o.status = "loaded" → o.message = "") := by
  intro c parsed
  obtain ⟨r, -, ends⟩ := Resolution.exists_of_returned returned
  obtain ⟨opened, outcomes, -⟩ := ends
  simp only [parsed, opened, outcomes]
  refine ⟨r.length_outcomes, r.parsed_nodup, r.sourcesOf_outcomes, ?_, r.outcomes_ne_fatal,
    ⟨r.walk.outcomes, rfl, r.outcomes_importer⟩, ?_⟩
  · intro earlier o later importer split about loaded isPath isDescription
    exact r.completes split about loaded isPath isDescription
  · intro o _
    refine ⟨Outcome.status_loaded.trans Outcome.reason_ok.symm, ?_⟩
    intro loaded
    simp [Outcome.message, Outcome.status_loaded.1 loaded]

theorem resolveDocument_accounts_crossing : ∃ document s,
    resolveDocument crossing (.standard []) {} crossingRoot none = (.ok document, s) ∧
      s.outcomes.length = 1 + ((crossing.parsed s.opened).flatMap (·.2.imports)).length ∧
      ∀ d ∈ crossing.parsed s.opened, sourcesOf d.1 s.outcomes = d.2.imports := by
  obtain ⟨document, s, returned⟩ := crossing_returned
  obtain ⟨length, -, sources, -⟩ := resolveDocument_accounts returned
  exact ⟨document, s, returned, length, sources⟩

end ApiCatalog
