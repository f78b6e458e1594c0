import ApiCatalog.Files.Disk
import Mathlib.Tactic.SplitIfs

set_option autoImplicit false

namespace ApiCatalog

theorem Disk.enter_ok {disk : Disk} {start location : Location} {part : String}
    (entered : disk.enter start part = .ok location) : location = Location.enter start part := by
  unfold Disk.enter at entered
  unfold Location.enter
  split at entered
  · cases entered
  · cases entered
  · split_ifs at entered with up <;> cases entered <;> simp [up]

theorem Disk.enter_all_ok {disk : Disk} {start location : Location} {parts : List String}
    (entered : parts.foldlM disk.enter start = .ok location) :
    location = parts.foldl Location.enter start := by
  induction parts generalizing start with
  | nil => cases entered; rfl
  | cons part rest ih =>
    rw [List.foldlM_cons] at entered
    cases first : disk.enter start part with
    | error e => rw [first] at entered; cases entered
    | ok next =>
      rw [first] at entered
      rw [List.foldl_cons, ← Disk.enter_ok first]
      exact ih entered

-- What is found is where the path leads by its text alone, however it is spelled.
theorem Disk.find_ok {disk : Disk} {path : PathName} {location : Location}
    (found : disk.find path = .ok location) :
    location = path.location disk.workingDirectory := by
  unfold Disk.find at found
  split at found
  · cases found
  · split at found
    · cases found
    · split at found
      · cases found
      · exact Disk.enter_all_ok found

theorem Disk.entry?_some {disk : Disk} {location : Location} {entry : FileEntry}
    (there : disk.entry? location = some entry) (notRoot : location ≠ []) :
    location ∈ disk.entries.map (·.1) := by
  simp only [Disk.entry?, notRoot, if_false] at there
  obtain ⟨before, after, split, -⟩ := List.lookup_eq_some_iff.1 there
  simp [split]

theorem PathName.name_of_isDescription {path : PathName} (isDescription : path.isDescription) :
    path.name ≠ "" ∧ path.name ≠ ".." := by
  constructor <;> intro same <;>
    simp [PathName.isDescription, PathName.suffix, same] at isDescription <;>
    revert isDescription <;> decide

theorem PathName.location_of_isDescription {path : PathName} (start : Location)
    (isDescription : path.isDescription) : path.location start ≠ [] := by
  obtain ⟨named, notUp⟩ := PathName.name_of_isDescription isDescription
  rcases List.eq_nil_or_concat path.parts with none | ⟨parents, last, parts⟩
  · simp [PathName.name, none] at named
  · -- The last part leads into a directory, not out of one.
    have isName : path.name = last := by simp [PathName.name, parts]
    rw [isName] at notUp
    simp [PathName.location, parts, Location.enter, notUp]

end ApiCatalog
