import ApiCatalog.Proofs.Resolution

set_option autoImplicit false

namespace ApiCatalog

/-- The document that a reference stands for by itself: a description without its imports, or what
a specification is converted to. -/
def ImportContext.ownDocument? (c : ImportContext) (importer : PathName) (reference : String) :
    Option Document :=
  let path := c.pathOf importer reference
  if Url.isUrl reference then
    (Spec.documentOfUrl c.externals c.fetchTimeout reference).result.toOption
  else if path.isDescription then
    (Document.ofFile c.disk path).toOption.map fun own => { own with imports := [] }
  else (Spec.documentOfFile c.disk c.externals path).toOption

namespace ImportContext

variable {c : ImportContext} {importer path : PathName} {reference : String}

theorem ownDocument?_of_load {document : Document}
    (examined : c.examine importer reference = .ok (.load document)) :
    c.ownDocument? importer reference = some document := by
  rw [examine_eq] at examined
  unfold ownDocument?
  split at examined
  next isUrl =>
    split at examined
    next => simp [isUrl, ofSpec_load examined, Except.toOption]
    next => cases examined
  next isPath =>
    rw [examinePath_eq] at examined
    split at examined
    next => cases examined
    next => cases examined
    next =>
      split at examined
      next => cases examined
      next isOther =>
        split at examined
        next => simp [isPath, isOther, ofSpec_load examined, Except.toOption]
        next => cases examined

theorem ownDocument?_of_read {own : Document}
    (examined : c.examine importer reference = .ok (.read path))
    (parsed : Document.ofFile c.disk path = .ok own) :
    c.ownDocument? importer reference = some { own with imports := [] } := by
  obtain ⟨isPath, rfl, isDescription, -⟩ := examine_read examined
  simp [ownDocument?, isPath, isDescription, parsed, Except.toOption]

end ImportContext

namespace Walk

variable {c : ImportContext} {importer : PathName} {references : List String}
  {before after : List Location} {fault : Option Crash}

theorem contributions_own (w : Walk c importer references before after fault) :
    ∀ l ∈ w.contributions, l.1.importer.bind (c.ownDocument? · l.1.source) = some l.2 := by
  induction w with
  | done => simp [contributions]
  | crashed => simp [contributions]
  | skip _ _ _ _ ih => exact ih
  | load _ _ examined _ ih =>
    simp only [contributions, List.forall_mem_cons]
    exact ⟨ImportContext.ownDocument?_of_load examined, ih⟩
  | again _ _ _ _ _ ih => exact ih
  | refuse _ _ _ _ _ _ _ ih => exact ih
  | read _ _ _ examined _ parsed _ _ ihImports ihNext =>
    simp only [contributions, List.forall_mem_cons, List.forall_mem_append]
    exact ⟨ImportContext.ownDocument?_of_read examined parsed, ihImports, ihNext⟩
  | stop _ _ _ _ _ _ _ ih => exact ih

theorem contributions_perm (w : Walk c importer references before after fault) :
    (w.contributions.map (·.1)).Perm (w.outcomes.filter (·.status == "loaded")) := by
  induction w with
  | done => exact .nil
  | crashed => exact .nil
  | skip _ _ _ _ ih => simpa [contributions, outcomes, Outcome.status] using ih
  | load _ _ _ _ ih => simpa [contributions, outcomes, Outcome.status] using ih
  | again _ _ _ _ _ ih => simpa [contributions, outcomes, Outcome.status] using ih
  | refuse _ _ _ _ _ _ _ ih => simpa [contributions, outcomes, Outcome.status] using ih
  | read _ _ _ _ _ _ imports next ihImports ihNext =>
    simp only [contributions, outcomes, List.map_cons, List.map_append, List.filter_append]
    -- The file comes before its imports in one list and behind them in the other.
    refine ((ihImports.append ihNext).cons _).trans ?_
    simpa [Outcome.status] using List.perm_middle.symm
  | stop _ _ _ _ _ _ _ ih => exact ih

end Walk

theorem Resolution.contributions_perm {c : ImportContext} {root : PathName}
    (r : Resolution c root) :
    (r.contributions.map (·.1)).Perm (r.outcomes.filter (·.status == "loaded")) := by
  simp only [contributions, outcomes, List.map_cons, List.filter_append]
  refine (r.walk.contributions_perm.cons _).trans ?_
  simpa [Outcome.ofRoot, Outcome.status] using (List.perm_append_singleton _ _).symm

/-- A run that returns gives the documents of all that it loaded, merged in the order in which they
are met: a file before its imports, and imports as they are written. -/
theorem resolveDocument_merges {disk : Disk} {externals : Externals} {settings : Settings}
    {root : PathName} {baseDirectory : Option PathName} {document : Document} {s : ImportState}
    (returned : resolveDocument disk externals settings root baseDirectory = (.ok document, s)) :
    let c := ImportContext.ofRoot disk externals settings root baseDirectory
    ∃ r : Resolution c root,
      s.outcomes = r.outcomes ∧
      (r.contributions.map (·.1)).Perm (s.outcomes.filter (·.status == "loaded")) ∧
      (∀ l ∈ r.walk.contributions,
        l.1.importer.bind (c.ownDocument? · l.1.source) = some l.2) ∧
      document = r.documents.foldl Document.merge {} ∧
      document.apis = r.documents.flatMap (·.apis) ∧
      document.sockets = r.documents.flatMap (·.sockets) ∧
      document.eventSockets = r.documents.flatMap (·.eventSockets) ∧
      document.streams = r.documents.flatMap (·.streams) ∧
      document.categories = r.documents.flatMap (·.categories) ∧
      document.imports = [] := by
  intro c
  obtain ⟨r, rfl, ends⟩ := Resolution.exists_of_returned returned
  refine ⟨r, ends.outcomes, ?_, r.walk.contributions_own, rfl, ?_, ?_, ?_, ?_, ?_, ?_⟩
  · rw [ends.outcomes]
    exact r.contributions_perm
  · exact Document.foldl_merge_part _ (fun _ _ => rfl) {} r.documents
  · exact Document.foldl_merge_part _ (fun _ _ => rfl) {} r.documents
  · exact Document.foldl_merge_part _ (fun _ _ => rfl) {} r.documents
  · exact Document.foldl_merge_part _ (fun _ _ => rfl) {} r.documents
  · exact Document.foldl_merge_part _ (fun _ _ => rfl) {} r.documents
  · exact Document.foldl_merge_imports {} r.documents

theorem resolveDocument_merges_crossing : ∃ document s,
    resolveDocument crossing (.standard []) {} crossingRoot none = (.ok document, s) ∧
      ∃ r : Resolution crossingContext crossingRoot,
        s.outcomes = r.outcomes ∧ document = r.documents.foldl Document.merge {} := by
  obtain ⟨document, s, returned⟩ := crossing_returned
  obtain ⟨r, outcomes, -, -, merged, -⟩ := resolveDocument_merges returned
  exact ⟨document, s, returned, r, outcomes, merged⟩

end ApiCatalog
