import ApiCatalog.Proofs.Resolution
import Mathlib.Data.List.Nodup
import Mathlib.Data.List.Perm.Subperm

set_option autoImplicit false

namespace ApiCatalog

namespace Walk

variable {c : ImportContext} {importer : PathName} {references : List String}
  {before after : List Location} {fault : Option Crash}

theorem after_nodup (w : Walk c importer references before after fault)
    (distinct : before.Nodup) : after.Nodup := by
  induction w with
  | done => exact distinct
  | crashed => exact distinct
  | skip _ _ _ _ ih => exact ih distinct
  | load _ _ _ _ ih => exact ih distinct
  | again _ _ _ _ _ ih => exact ih distinct
  | refuse _ _ _ _ isNew _ _ ih => exact ih (List.nodup_cons.2 ⟨isNew, distinct⟩)
  | read _ _ _ _ isNew _ _ _ ihImports ihNext =>
    exact ihNext (ihImports (List.nodup_cons.2 ⟨isNew, distinct⟩))
  | stop _ _ _ _ isNew _ _ ih => exact ih (List.nodup_cons.2 ⟨isNew, distinct⟩)

theorem opened_on_disk (w : Walk c importer references before after fault) :
    w.opened.map c.location ⊆ c.disk.entries.map (·.1) := by
  induction w with
  | done => simp [opened]
  | crashed => simp [opened]
  | skip _ _ _ _ ih => exact ih
  | load _ _ _ _ ih => exact ih
  | again _ _ _ _ _ ih => exact ih
  | refuse _ _ _ examined _ _ _ ih =>
    exact List.cons_subset.2 ⟨ImportContext.location_of_read examined, ih⟩
  | read _ _ _ examined _ _ _ _ ihImports ihNext =>
    simp only [opened, List.map_cons, List.map_append, List.cons_subset, List.append_subset]
    exact ⟨ImportContext.location_of_read examined, ihImports, ihNext⟩
  | stop _ _ _ examined _ _ _ ih =>
    exact List.cons_subset.2 ⟨ImportContext.location_of_read examined, ih⟩

theorem opened_nodup {root : PathName}
    (w : Walk c importer references [c.location root] after fault) :
    ((root :: w.opened).map c.location).Nodup := by
  have distinct := w.after_nodup (List.nodup_singleton _)
  rw [w.after_eq, ← List.reverse_cons, List.nodup_reverse] at distinct
  exact distinct

theorem length_opened_le {root : PathName}
    (w : Walk c importer references [c.location root] after fault) :
    w.opened.length ≤ c.disk.entries.length := by
  have distinct := (List.nodup_cons.1 w.opened_nodup).2
  have fits := (List.subperm_of_subset distinct w.opened_on_disk).length_le
  simpa using fits

end Walk

/-- Every run comes to an end, whatever the imports lead to. It reads a description at most once
from each location, however the references to it are spelled. -/
theorem resolveDocument_opens_once (disk : Disk) (externals : Externals) (settings : Settings)
    (root : PathName) (baseDirectory : Option PathName) :
    let c := ImportContext.ofRoot disk externals settings root baseDirectory
    let run := resolveDocument disk externals settings root baseDirectory
    (∀ own, Document.ofFile disk root = .ok own →
      ∃ after fault, ∃ w : Walk c root own.imports [c.location root] after fault,
        run.1 = (w.result { own with imports := [] }).mapError .crashed ∧
        run.2.opened = root :: w.opened) ∧
    (run.2.opened.map c.location).Nodup ∧
    run.2.opened.length ≤ disk.entries.length + 1 := by
  intro c run
  cases parsed : Document.ofFile disk root with
  | error failure =>
    have opened : run.2.opened = [root] := by
      cases failure <;>
        simp [run, resolveDocument, ImportContext.resolve, ImportContext.ofRoot, parsed,
          ImportState.start, ImportState.enter, ImportState.note]
    simp [opened]
  | ok own =>
    obtain ⟨after, fault, ⟨w⟩⟩ := c.exists_walk root own.imports [c.location root]
    obtain ⟨s, ran, opened, -⟩ := w.resolve_eq parsed
    have result : run.1 = (w.result { own with imports := [] }).mapError .crashed :=
      congrArg Prod.fst ran
    have visited : run.2.opened = root :: w.opened := (congrArg (·.2.opened) ran).trans opened
    refine ⟨?_, ?_, ?_⟩
    · intro _ same
      cases same
      exact ⟨after, fault, w, result, visited⟩
    · rw [visited]
      exact w.opened_nodup
    · rw [visited]
      exact Nat.succ_le_succ w.length_opened_le

end ApiCatalog
