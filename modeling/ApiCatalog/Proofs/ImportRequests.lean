import ApiCatalog.Proofs.ImportOutcomes

/-!
What goes to the network when imports are followed, and that nothing comes from it when remote
imports are disabled.
-/

set_option autoImplicit false

namespace ApiCatalog

def referencesOf (path : PathName) (met : List (PathName × String)) : List String :=
  (met.filter (·.1 = path)).map (·.2)

section References

variable {path : PathName} {reference : String}

theorem referencesOf_append (path : PathName) (left right : List (PathName × String)) :
    referencesOf path (left ++ right) = referencesOf path left ++ referencesOf path right := by
  simp [referencesOf]

theorem referencesOf_cons_self (rest : List (PathName × String)) :
    referencesOf path ((path, reference) :: rest) = reference :: referencesOf path rest := by
  simp [referencesOf]

theorem referencesOf_cons_other {importer : PathName} (other : importer ≠ path)
    (rest : List (PathName × String)) :
    referencesOf path ((importer, reference) :: rest) = referencesOf path rest := by
  simp [referencesOf, other]

end References

namespace ImportContext

-- What the network is asked because of references.
def requestsTo (c : ImportContext) (references : List String) : List Request :=
  if c.remoteImports then
    (references.filter Url.isUrl).map fun url =>
      { url, timeout := c.fetchTimeout, followsRedirects := true }
  else []

theorem requestsTo_append (c : ImportContext) (left right : List String) :
    c.requestsTo (left ++ right) = c.requestsTo left ++ c.requestsTo right := by
  unfold requestsTo
  split <;> simp

theorem requests_eq_requestsTo (c : ImportContext) (importer : PathName) (reference : String) :
    c.requests importer reference = c.requestsTo [reference] := by
  rw [requests_eq, requestsTo]
  by_cases enabled : c.remoteImports = true <;>
    by_cases isUrl : Url.isUrl reference = true <;> simp [enabled, isUrl]

end ImportContext

namespace Walk

/-- All references that were met, each with the file that it stands in, depth first: what a file
refers to comes right behind the reference that it was read for. -/
def met {c : ImportContext} {importer : PathName} {references : List String}
    {before after : List Location} {fault : Option Crash}
    (w : Walk c importer references before after fault) : List (PathName × String) :=
  match w with
  | .done => []
  | .crashed reference _ => [(importer, reference)]
  | .skip reference _ _ next | .load reference _ _ next | .again reference _ _ _ next
  | .refuse reference _ _ _ _ _ next => (importer, reference) :: next.met
  | .read reference _ _ _ _ _ imports next => (importer, reference) :: (imports.met ++ next.met)
  | .stop reference _ _ _ _ _ imports => (importer, reference) :: imports.met

variable {c : ImportContext} {importer : PathName} {references : List String}
  {before after : List Location} {fault : Option Crash}

theorem requests_cons {requests : List Request} {reference : String}
    {rest : List (PathName × String)} (later : requests = c.requestsTo (rest.map (·.2))) :
    c.requests importer reference ++ requests =
      c.requestsTo (((importer, reference) :: rest).map (·.2)) := by
  rw [later, c.requests_eq_requestsTo, ← c.requestsTo_append]
  rfl

theorem requests_eq (w : Walk c importer references before after fault) :
    w.requests = c.requestsTo (w.met.map (·.2)) := by
  induction w with
  | done => simp [requests, met, ImportContext.requestsTo]
  | crashed reference _ => exact c.requests_eq_requestsTo _ reference
  | skip _ _ _ _ ih => exact requests_cons ih
  | load _ _ _ _ ih => exact requests_cons ih
  | again _ _ _ _ _ ih => exact requests_cons ih
  | refuse _ _ _ _ _ _ _ ih => exact requests_cons ih
  | read _ _ _ _ _ _ _ _ ihImports ihNext =>
    refine requests_cons ?_
    rw [ihImports, ihNext, List.map_append, c.requestsTo_append]
  | stop _ _ _ _ _ _ _ ih => exact requests_cons ih

theorem referencesOf_cons_met (next : Walk c importer references before after fault)
    {path : PathName} (same : referencesOf path next.met = sourcesOf path next.outcomes)
    {reference : String} {result : ImportResult} :
    referencesOf path ((importer, reference) :: next.met) =
      sourcesOf path (⟨reference, some importer, result⟩ :: next.outcomes) := by
  by_cases isImporter : importer = path
  · subst isImporter
    rw [referencesOf_cons_self, sourcesOf_cons_self rfl, same]
  · rw [referencesOf_cons_other isImporter, sourcesOf_cons_other (by simpa using isImporter), same]

-- A file is met before its imports and noted behind them, but those are imports of other files.
theorem referencesOf_met (w : Walk c importer references before after fault)
    (complete : fault = none) (visited : c.location importer ∈ before) (path : PathName) :
    referencesOf path w.met = sourcesOf path w.outcomes := by
  induction w with
  | done => rfl
  | crashed => cases complete
  | skip _ _ _ next ih => exact next.referencesOf_cons_met (ih complete visited)
  | load _ _ _ next ih => exact next.referencesOf_cons_met (ih complete visited)
  | again _ _ _ _ next ih => exact next.referencesOf_cons_met (ih complete visited)
  | refuse _ file _ _ _ _ next ih =>
    exact next.referencesOf_cons_met (ih complete (List.mem_cons_of_mem (c.location file) visited))
  | @read importer reference _ old _ _ _ file _ _ isNew _ imports next ihImports ihNext =>
    have stays := List.mem_cons_of_mem (c.location file) visited
    have inner := ihImports rfl List.mem_cons_self
    have later := ihNext complete (imports.before_subset stays)
    have tail : referencesOf path ((importer, reference) :: next.met) =
        sourcesOf path (⟨reference, some importer, .loaded⟩ :: next.outcomes) :=
      next.referencesOf_cons_met later
    simp only [met, outcomes, sourcesOf_append, ← tail]
    by_cases isImporter : importer = path
    · subst isImporter
      have other : importer ≠ file := fun same => isNew (same ▸ visited)
      have unnoted := imports.sourcesOf_other other (imports.not_mem_opened stays)
      rw [referencesOf_cons_self, referencesOf_append, inner, unnoted, referencesOf_cons_self]
      rfl
    · rw [referencesOf_cons_other isImporter, referencesOf_append, inner,
        referencesOf_cons_other isImporter]
  | stop => cases complete

-- A reference that is an address is noted as soon as it is met.
theorem urls_met (w : Walk c importer references before after fault) (complete : fault = none) :
    (w.met.map (·.2)).filter Url.isUrl = (w.outcomes.map (·.source)).filter Url.isUrl := by
  induction w with
  | done => rfl
  | crashed => cases complete
  | skip _ _ _ _ ih => simp [met, outcomes, List.filter_cons, ih complete]
  | load _ _ _ _ ih => simp [met, outcomes, List.filter_cons, ih complete]
  | again _ _ _ _ _ ih => simp [met, outcomes, List.filter_cons, ih complete]
  | refuse _ _ _ _ _ _ _ ih => simp [met, outcomes, List.filter_cons, ih complete]
  | read _ _ _ examined _ _ _ _ ihImports ihNext =>
    obtain ⟨isPath, -⟩ := ImportContext.examine_read examined
    simp [met, outcomes, isPath, ihImports rfl, ihNext complete]
  | stop => cases complete

theorem met_perm (w : Walk c importer references before after fault) (complete : fault = none) :
    (w.met.map fun m => (some m.1, m.2)).Perm (w.outcomes.map fun o => (o.importer, o.source)) := by
  induction w with
  | done => exact .nil
  | crashed => cases complete
  | skip _ _ _ _ ih => exact (ih complete).cons _
  | load _ _ _ _ ih => exact (ih complete).cons _
  | again _ _ _ _ _ ih => exact (ih complete).cons _
  | refuse _ _ _ _ _ _ _ ih => exact (ih complete).cons _
  | read _ _ _ _ _ _ _ _ ihImports ihNext =>
    simp only [met, outcomes, List.map_cons, List.map_append]
    exact (((ihImports rfl).append (ihNext complete)).cons _).trans List.perm_middle.symm
  | stop => cases complete

end Walk

namespace ImportContext

variable {c : ImportContext}

-- The same, with another network.
def onNetwork (c : ImportContext) (fetch : Request → Except FetchFault Reply) : ImportContext :=
  { c with externals := { c.externals with fetch } }

theorem consult_offline (disabled : c.remoteImports = false)
    (fetch : Request → Except FetchFault Reply) (importer : PathName) (reference : String) :
    (c.onNetwork fetch).consult importer reference = c.consult importer reference := by
  simp only [consult, onNetwork, disabled]
  rfl

theorem follow_offline (disabled : c.remoteImports = false)
    (fetch : Request → Except FetchFault Reply) (importer : PathName) (document : Document)
    (references : List String) (s : ImportState) :
    ((c.onNetwork fetch).follow importer document references s).1 =
      (c.follow importer document references s).1 := by
  have offline (importer : PathName) (reference : String) :
      (c.onNetwork fetch).examine importer reference = c.examine importer reference :=
    congrArg Asked.result (consult_offline disabled fetch importer reference)
  have asks (importer : PathName) (reference : String) :
      (c.onNetwork fetch).requests importer reference = c.requests importer reference :=
    congrArg Asked.requests (consult_offline disabled fetch importer reference)
  fun_induction c.follow importer document references s with
  | case1 => rw [follow]
  | case2 importer _ _ reference _ _ _ examined =>
    rw [follow_crashed ((offline importer reference).trans examined), asks]
  | case3 importer _ _ reference _ _ _ _ examined ih =>
    rw [follow_skipped ((offline importer reference).trans examined), asks]
    exact ih
  | case4 importer _ _ reference _ _ _ _ examined ih =>
    rw [follow_loaded ((offline importer reference).trans examined), asks]
    exact ih
  | case5 importer _ _ reference _ _ path examined _ _ _ _ crash crashed =>
    exact absurd crashed (ofFile_of_read examined crash)
  | case6 importer _ _ reference _ _ _ path examined _ _ isUnopened _ _ refused ih =>
    rw [follow_refused ((offline importer reference).trans examined) isUnopened refused, asks]
    exact ih
  | case7 importer _ _ reference _ _ path examined _ _ isUnopened _ _ parsed _ _ _ stopped ih =>
    refine follow_stopped ((offline importer reference).trans examined) isUnopened parsed ?_
    rw [asks]
    exact ih.trans (Prod.ext stopped rfl)
  | case8 importer _ _ reference _ _ _ path examined _ _ isUnopened _ _ parsed _ _ _ ended
      ihInner _ ihNext =>
    have examined := (offline importer reference).trans examined
    refine (follow_read examined isUnopened parsed ?_).trans ihNext
    rw [asks]
    exact ihInner.trans (Prod.ext ended rfl)
  | case9 importer _ _ reference _ _ _ path examined _ isOpened ih =>
    rw [follow_again ((offline importer reference).trans examined) isOpened, asks]
    exact ih

theorem resolve_offline (disabled : c.remoteImports = false)
    (fetch : Request → Except FetchFault Reply) (root : PathName) (s : ImportState) :
    (c.onNetwork fetch).resolve root s = c.resolve root s := by
  unfold resolve
  simp only [follow_offline disabled fetch]
  rfl

end ImportContext

namespace Resolution

variable {c : ImportContext} {root : PathName}

def met (r : Resolution c root) : List (PathName × String) := r.walk.met

theorem referencesOf_met (r : Resolution c root) :
    ∀ d ∈ c.disk.parsed r.opened, referencesOf d.1 r.met = d.2.imports := by
  intro d isParsed
  have noted : sourcesOf d.1 r.outcomes = sourcesOf d.1 r.walk.outcomes := by
    rw [outcomes, sourcesOf_append]
    exact List.append_nil _
  rw [met, r.walk.referencesOf_met rfl List.mem_cons_self, ← noted, r.sourcesOf_outcomes d isParsed]

theorem met_parsed (r : Resolution c root) :
    ∀ m ∈ r.met, ∃ d ∈ c.disk.parsed r.opened, m.1 = d.1 := by
  intro m isMet
  obtain ⟨o, isNoted, same⟩ := List.mem_map.1
    ((r.walk.met_perm rfl).subset (List.mem_map_of_mem isMet))
  obtain ⟨d, isParsed, about⟩ := r.outcomes_importer o isNoted
  have importer : o.importer = some m.1 := congrArg Prod.fst same
  exact ⟨d, isParsed, Option.some.inj (importer.symm.trans about)⟩

theorem outcomes_imports (r : Resolution c root) :
    r.outcomes.filter (·.importer.isSome) = r.walk.outcomes := by
  have imports : r.walk.outcomes.filter (·.importer.isSome) = r.walk.outcomes := by
    refine List.filter_eq_self.2 fun o isNoted => ?_
    obtain ⟨d, -, about⟩ := r.outcomes_importer o isNoted
    simp [about]
  rw [outcomes, List.filter_append, imports]
  exact List.append_nil _

end Resolution

/-- A run that returns asks the network for the addresses among the references of all files that
it read, depth first, once for each time that one is met and as the settings say. If remote
imports are disabled it asks for nothing, and whatever the network would answer, the run is the
same. -/
theorem resolveDocument_requests {disk : Disk} {externals : Externals} {settings : Settings}
    {root : PathName} {baseDirectory : Option PathName} {document : Document} {s : ImportState}
    (returned : resolveDocument disk externals settings root baseDirectory = (.ok document, s)) :
    let c := ImportContext.ofRoot disk externals settings root baseDirectory
    let parsed := disk.parsed s.opened
    (∃ r : Resolution c root,
      s.opened = r.opened ∧ s.outcomes = r.outcomes ∧
      (∀ d ∈ parsed, referencesOf d.1 r.met = d.2.imports) ∧
      (∀ m ∈ r.met, ∃ d ∈ parsed, m.1 = d.1) ∧
      s.requests =
        if settings.remoteImports then
          ((r.met.map (·.2)).filter Url.isUrl).map fun url =>
            { url, timeout := settings.fetchTimeout, followsRedirects := true }
        else []) ∧
    (settings.remoteImports = true → s.requests.map (·.url) =
      ((s.outcomes.filter (·.importer.isSome)).map (·.source)).filter Url.isUrl) ∧
    (settings.remoteImports = false → ∀ fetch : Request → Except FetchFault Reply,
      resolveDocument disk { externals with fetch } settings root baseDirectory =
        (.ok document, s)) := by
  intro c parsed
  obtain ⟨r, -, ends⟩ := Resolution.exists_of_returned returned
  obtain ⟨opened, outcomes, requests⟩ := ends
  rw [r.walk.requests_eq] at requests
  have isParsed : parsed = c.disk.parsed r.opened := congrArg disk.parsed opened
  refine ⟨⟨r, opened, outcomes, ?_, ?_, requests⟩, ?_, ?_⟩
  · rw [isParsed]
    exact r.referencesOf_met
  · rw [isParsed]
    exact r.met_parsed
  · intro enabled
    have enabled : c.remoteImports = true := enabled
    rw [outcomes, r.outcomes_imports, ← r.walk.urls_met rfl, requests,
      ImportContext.requestsTo, if_pos enabled, List.map_map]
    exact List.map_id _
  · intro disabled fetch
    have same := @ImportContext.resolve_offline c disabled fetch root (.start disk)
    exact same.trans returned

theorem Walk.exists_skip {c : ImportContext} {importer : PathName} {reference : String}
    {rest : List String} {before after : List Location} {fault : Option Crash} {why : SkipReason}
    (examined : c.examine importer reference = .ok (.skip why))
    (next : Nonempty (Walk c importer rest before after fault)) :
    Nonempty (Walk c importer (reference :: rest) before after fault) := by
  obtain ⟨next⟩ := next
  exact ⟨.skip reference why examined next⟩

-- A file and what it imports refer to the same address, which nobody answers at.
def relay : Disk where
  workingDirectory := ["w"]
  entries := [(["w"], .directory),
    (["w", "main.rqc"], asciiFile "import \"http://h/a.json\" import b.rqc"),
    (["w", "b.rqc"], asciiFile "import \"http://h/a.json\"")]

def relaySettings (remoteImports : Bool) : Settings := { remoteImports }

def relayContext (remoteImports : Bool) : ImportContext :=
  .ofRoot relay (.standard []) (relaySettings remoteImports) crossingRoot none

theorem relay_walk (remoteImports : Bool) :
    Nonempty (Walk (relayContext remoteImports) crossingRoot ["http://h/a.json", "b.rqc"]
      [["w", "main.rqc"]] [["w", "b.rqc"], ["w", "main.rqc"]] none) := by
  cases remoteImports
  all_goals
    apply Walk.exists_skip rfl
    apply Walk.exists_read ["http://h/a.json"] (by decide +kernel) (by decide +kernel)
    · exact Walk.exists_skip rfl ⟨.done⟩
    · exact ⟨.done⟩

theorem relay_returned (remoteImports : Bool) : ∃ own document s,
    Document.ofFile relay crossingRoot = .ok own ∧ "http://h/a.json" ∈ own.imports ∧
      resolveDocument relay (.standard []) (relaySettings remoteImports) crossingRoot none =
        (.ok document, s) ∧
      crossingRoot ∈ s.opened := by
  obtain ⟨own, parsed, imports⟩ : ∃ own, Document.ofFile relay crossingRoot = .ok own ∧
      own.imports = ["http://h/a.json", "b.rqc"] := Document.exists_of_imports (by decide +kernel)
  obtain ⟨walk⟩ := relay_walk remoteImports
  rw [← imports] at walk
  let r : Resolution (relayContext remoteImports) crossingRoot := ⟨own, parsed, _, walk⟩
  obtain ⟨s, ran, ends⟩ := r.resolve_eq
  refine ⟨own, _, s, parsed, by simp [imports], ran, ?_⟩
  rw [ends.opened]
  exact List.mem_cons_self

theorem resolveDocument_requests_relay :
    (∃ document s,
      resolveDocument relay (.standard []) (relaySettings true) crossingRoot none =
        (.ok document, s) ∧
      { url := "http://h/a.json", timeout := .ofRatio false 30 1, followsRedirects := true } ∈
        s.requests) ∧
    ∃ document s,
      resolveDocument relay (.standard []) (relaySettings false) crossingRoot none =
        (.ok document, s) ∧
      s.requests = [] ∧
      resolveDocument relay (.standard [("http://h/a.json", .ok { body := "\x7b\x7d" })])
        (relaySettings false) crossingRoot none = (.ok document, s) := by
  constructor
  · obtain ⟨own, document, s, parsed, isImport, returned, isOpened⟩ := relay_returned true
    obtain ⟨⟨r, -, -, references, -, requests⟩, -⟩ := resolveDocument_requests returned
    have isParsed : (crossingRoot, own) ∈ relay.parsed s.opened :=
      List.mem_filterMap.2 ⟨crossingRoot, isOpened, by simp [parsed, Except.toOption]⟩
    rw [← references (crossingRoot, own) isParsed] at isImport
    obtain ⟨m, found, same⟩ := List.mem_map.1 isImport
    have isMet : "http://h/a.json" ∈ r.met.map (·.2) :=
      List.mem_map.2 ⟨m, List.mem_of_mem_filter found, same⟩
    refine ⟨document, s, returned, ?_⟩
    rw [requests]
    exact List.mem_map.2 ⟨_, List.mem_filter.2 ⟨isMet, rfl⟩, rfl⟩
  · obtain ⟨own, document, s, -, -, returned, -⟩ := relay_returned false
    obtain ⟨⟨r, -, -, -, -, requests⟩, -, same⟩ := resolveDocument_requests returned
    exact ⟨document, s, returned, requests, same rfl _⟩

end ApiCatalog
