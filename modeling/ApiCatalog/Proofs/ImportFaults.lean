import ApiCatalog.Proofs.ImportOutcomes

set_option autoImplicit false

namespace ApiCatalog

/-- What may come of looking at a reference that is not reported: the disk does not take its name,
or loading its specification crashes. -/
def ImportContext.Unforeseen (c : ImportContext) (importer : PathName) (reference : String) :
    Prop :=
  let path := c.pathOf importer reference
  if Url.isUrl reference then
    c.remoteImports = true ∧
      ∃ crash, (Spec.documentOfUrl c.externals c.fetchTimeout reference).result =
        .error (.crashed crash)
  else
    c.disk.lookUp path = .error .longName ∨
      (c.disk.lookUp path).isOk = true ∧ path.isDescription = false ∧ isSpec path = true ∧
        ∃ crash, Spec.documentOfFile c.disk c.externals path = .error (.crashed crash)

theorem ImportContext.examine_error_iff {c : ImportContext} {importer : PathName}
    {reference : String} :
    (∃ crash, c.examine importer reference = .error crash) ↔ c.Unforeseen importer reference := by
  rw [examine_eq, examinePath_eq]
  unfold Unforeseen
  by_cases isUrl : Url.isUrl reference = true
  · by_cases enabled : c.remoteImports = true <;> simp [isUrl, enabled, ofSpec_error]
  · cases found : c.disk.lookUp (c.pathOf importer reference) with
    | error e => cases e <;> simp [isUrl, found, Except.isOk, Except.toBool]
    | ok entry =>
      by_cases isDescription : (c.pathOf importer reference).isDescription = true
      · simp [isUrl, found, isDescription]
      · by_cases isSpec : isSpec (c.pathOf importer reference) = true <;>
          simp [isUrl, found, isDescription, isSpec, ofSpec_error, Except.isOk, Except.toBool]

theorem ImportContext.Settles.examined {c : ImportContext} {importer : PathName}
    {reference : String} {result : ImportResult} (settles : c.Settles importer reference result) :
    ∃ step, c.examine importer reference = .ok step := by
  cases settles <;> exact ⟨_, ‹_›⟩

theorem Walk.exists_crash {c : ImportContext} {importer : PathName} {references : List String}
    {before after : List Location} {fault : Option Crash}
    (w : Walk c importer references before after fault) {crash : Crash}
    (crashed : fault = some crash) :
    (∃ reference ∈ references, c.examine importer reference = .error crash) ∨
      ∃ d ∈ c.disk.parsed w.opened, ∃ reference ∈ d.2.imports,
        c.examine d.1 reference = .error crash := by
  induction w with
  | done => cases crashed
  | crashed reference examined =>
    cases crashed
    exact .inl ⟨reference, List.mem_cons_self, examined⟩
  | skip _ _ _ _ ih => exact (ih crashed).imp_left List.exists_mem_cons_of_exists
  | load _ _ _ _ ih => exact (ih crashed).imp_left List.exists_mem_cons_of_exists
  | again _ _ _ _ _ ih => exact (ih crashed).imp_left List.exists_mem_cons_of_exists
  | refuse _ _ _ _ _ refused _ ih =>
    rw [opened, Disk.parsed_of_error refused]
    exact (ih crashed).imp_left List.exists_mem_cons_of_exists
  | read _ _ _ _ _ parsed _ _ _ ih =>
    rw [opened, Disk.parsed_of_ok parsed, Disk.parsed_append]
    rcases ih crashed with ⟨found, member, examined⟩ | ⟨d, isParsed, later⟩
    · exact .inl ⟨found, List.mem_cons_of_mem _ member, examined⟩
    · exact .inr ⟨d, List.mem_cons_of_mem _ (List.mem_append_right _ isParsed), later⟩
  | stop _ path own _ _ parsed _ ih =>
    rw [opened, Disk.parsed_of_ok parsed]
    rcases ih crashed with inFile | ⟨d, isParsed, inner⟩
    · exact .inr ⟨(path, own), List.mem_cons_self, inFile⟩
    · exact .inr ⟨d, List.mem_cons_of_mem _ isParsed, inner⟩

theorem Resolution.outcomes_settled {c : ImportContext} {root : PathName} (r : Resolution c root) :
    ∀ d ∈ c.disk.parsed r.opened, ∀ reference ∈ d.2.imports, ∃ o ∈ r.outcomes,
      o.importer = some d.1 ∧ o.source = reference ∧ c.Settles d.1 reference o.result := by
  intro d isParsed reference isImport
  rw [← r.sourcesOf_outcomes d isParsed, sourcesOf] at isImport
  obtain ⟨o, found, rfl⟩ := List.mem_map.1 isImport
  obtain ⟨member, about⟩ := List.mem_filter.1 found
  have about : o.importer = some d.1 := by simpa using about
  rcases List.mem_append.1 member with inWalk | isRoot
  · obtain ⟨parent, known, settles⟩ := r.walk.outcomes_settled o inWalk
    obtain rfl : d.1 = parent := Option.some.inj (about.symm.trans known)
    exact ⟨o, member, about, rfl, settles⟩
  · -- The outcome of the root has no importer.
    rw [List.mem_singleton.1 isRoot] at about
    cases about

/-- A run whose root can be read returns exactly if nothing unforeseen comes of any import of any
file that it reads. It then has noted what became of each of them. -/
theorem resolveDocument_returns_iff {disk : Disk} {externals : Externals} {settings : Settings}
    {root : PathName} {baseDirectory : Option PathName} {own : Document}
    (readable : Document.ofFile disk root = .ok own) :
    let c := ImportContext.ofRoot disk externals settings root baseDirectory
    let run := resolveDocument disk externals settings root baseDirectory
    ((∃ document, run.1 = .ok document) ↔
      ∀ d ∈ disk.parsed run.2.opened, ∀ reference ∈ d.2.imports,
        ¬ c.Unforeseen d.1 reference) ∧
    ((∃ document, run.1 = .ok document) →
      ∀ d ∈ disk.parsed run.2.opened, ∀ reference ∈ d.2.imports, ∃ o ∈ run.2.outcomes,
        o.importer = some d.1 ∧ o.source = reference ∧ c.Settles d.1 reference o.result) := by
  intro c run
  have noted : (∃ document, run.1 = .ok document) →
      ∀ d ∈ disk.parsed run.2.opened, ∀ reference ∈ d.2.imports, ∃ o ∈ run.2.outcomes,
        o.importer = some d.1 ∧ o.source = reference ∧ c.Settles d.1 reference o.result := by
    rintro ⟨document, returned⟩
    obtain ⟨r, -, ends⟩ := Resolution.exists_of_returned (Prod.ext returned rfl)
    have opened : run.2.opened = r.opened := ends.opened
    have outcomes : run.2.outcomes = r.outcomes := ends.outcomes
    rw [opened, outcomes]
    exact r.outcomes_settled
  refine ⟨⟨?_, ?_⟩, noted⟩
  · -- What was noted of a reference says what it led to, and a crash leads nowhere.
    intro returned d isParsed reference isImport unforeseen
    obtain ⟨crash, crashed⟩ := ImportContext.examine_error_iff.2 unforeseen
    obtain ⟨o, -, -, -, settles⟩ := noted returned d isParsed reference isImport
    obtain ⟨step, examined⟩ := settles.examined
    simp [crashed] at examined
  · -- A walk that stopped early stopped at a reference of a file that was read.
    intro foreseen
    obtain ⟨after, fault, ⟨w⟩⟩ := c.exists_walk root own.imports [c.location root]
    obtain ⟨s, ran, opened, -⟩ := w.resolve_eq readable
    have isParsed : disk.parsed run.2.opened = (root, own) :: disk.parsed w.opened := by
      rw [← Disk.parsed_of_ok readable, ← opened]
      exact congrArg (fun result => disk.parsed result.2.opened) ran
    cases fault with
    | none => exact ⟨_, congrArg Prod.fst ran⟩
    | some crash =>
      rw [isParsed] at foreseen
      rcases w.exists_crash rfl with
        ⟨reference, isImport, crashed⟩ | ⟨d, inner, reference, isImport, crashed⟩
      · exact absurd (ImportContext.examine_error_iff.1 ⟨crash, crashed⟩)
          (foreseen (root, own) List.mem_cons_self reference isImport)
      · exact absurd (ImportContext.examine_error_iff.1 ⟨crash, crashed⟩)
          (foreseen d (List.mem_cons_of_mem _ inner) reference isImport)

theorem resolveDocument_returns_crossing :
    (∃ own, Document.ofFile crossing crossingRoot = .ok own) ∧
      ∀ d ∈ crossing.parsed (resolveDocument crossing (.standard []) {} crossingRoot none).2.opened,
        ∀ reference ∈ d.2.imports, ¬ crossingContext.Unforeseen d.1 reference := by
  obtain ⟨own, readable, -⟩ : ∃ own, Document.ofFile crossing crossingRoot = .ok own ∧
      own.imports = ["./b.rqc", "c.rqc"] := Document.exists_of_imports (by decide +kernel)
  obtain ⟨document, s, returned⟩ := crossing_returned
  exact ⟨⟨own, readable⟩, (resolveDocument_returns_iff readable).1.1 ⟨document, by rw [returned]⟩⟩

-- A file that holds a date of no calendar in place of a specification, before another import.
def misdated : Disk where
  entries := [(["main.rqc"], asciiFile "import days.yaml import b.rqc"),
    (["days.yaml"], asciiFile "2001-99-99"),
    (["b.rqc"], asciiFile "")]

theorem resolveDocument_misdated :
    (∃ own, Document.ofFile misdated crossingRoot = .ok own) ∧
      ¬ ∃ document,
        (resolveDocument misdated (.standard []) {} crossingRoot none).1 = .ok document := by
  obtain ⟨own, readable, imports⟩ : ∃ own, Document.ofFile misdated crossingRoot = .ok own ∧
      own.imports = ["days.yaml", "b.rqc"] := Document.exists_of_imports (by decide +kernel)
  let c := ImportContext.ofRoot misdated (.standard []) {} crossingRoot none
  have fails : (c.examine crossingRoot "days.yaml").isOk = false := by decide +kernel
  obtain ⟨crash, examined⟩ : ∃ crash, c.examine crossingRoot "days.yaml" = .error crash := by
    cases found : c.examine crossingRoot "days.yaml" with
    | error crash => exact ⟨crash, rfl⟩
    | ok step => simp [found, Except.isOk, Except.toBool] at fails
  have w : Walk c crossingRoot own.imports [c.location crossingRoot] [c.location crossingRoot]
      (some crash) := by
    rw [imports]
    exact .crashed "days.yaml" examined
  obtain ⟨s, ran, -⟩ := w.resolve_eq readable
  refine ⟨⟨own, readable⟩, ?_⟩
  rintro ⟨document, returned⟩
  cases (congrArg Prod.fst ran).symm.trans returned

end ApiCatalog
