import ApiCatalog.Proofs.Results
import ApiCatalog.Record.Standard
import Mathlib.Data.List.Forall2

/-!
What is known of the library that writes records as data and reads them back, as hypotheses, and
that the standard library is such a one.
-/

set_option autoImplicit false

namespace ApiCatalog

namespace RecordLibrary

def isWord (word : String) : Bool :=
  word != "" && word.toList.all fun c => 'a' ≤ c && c ≤ 'z'

variable (lib : RecordLibrary)

def key (m : Member) : Key := ⟨lib.outward m.name, m.name⟩

def spelled (spelling : Spelling) (name : String) : String :=
  if spelling.isOutward then lib.outward name else name

-- What a record takes for one of its members: what is under one of the names, the outward one
-- first, or else the default.
def Takes (entries : Entries) (m : Member) (item : Item) : Prop :=
  (∃ spelling value, (lib.key m).find? entries = some (spelling, value) ∧
      lib.check m.shape value = .ok item) ∨
    (lib.key m).find? entries = none ∧ m.default = some item

/-- What is known of the library. Of floats only the finite ones are spoken of. -/
structure Laws : Prop where
  outward_words (words : List String) (nonempty : words ≠ []) (spelled : words.all isWord) :
    lib.outward ("_".intercalate words) = camelCase words
  -- A dump has the members in their order, each under its name in one spelling.
  dump_scalar (spelling : Spelling) (s : Scalar) (finite : s.isFinite) :
    lib.dump spelling (.scalar s) = .scalar s
  dump_choice (spelling : Spelling) (name : String) :
    lib.dump spelling (.choice name) = .text name
  dump_list (spelling : Spelling) (items : List Item) :
    lib.dump spelling (.list items) = .list (items.map (lib.dump spelling))
  dump_record (spelling : Spelling) (name : RecordName) (members : List (String × Item)) :
    lib.dump spelling (.record name members) = .mapping
      ((members.filter fun m => spelling.keepsAbsent || !m.2.isNull).map fun m =>
        (.text (lib.spelled spelling m.1), lib.dump spelling m.2))
  -- What is of the declared kind already is taken as it is.
  check_exact (kind : Plain) (s : Scalar) (exact : kind.isExact s) (finite : s.isFinite) :
    lib.check (.plain kind) (.scalar s) = .ok (.scalar s)
  -- The first kind that a scalar is of is taken, whatever it could be converted to.
  check_union (kinds : List Plain) (kind : Plain) (s : Scalar)
    (first : kinds.find? (·.isExact s) = some kind) :
    lib.check (.union kinds) (.scalar s) = lib.check (.plain kind) (.scalar s)
  check_choice (names : List String) (name : String) (known : name ∈ names) :
    lib.check (.choice names) (.text name) = .ok (.choice name)
  -- Null stands for what may be absent, and everything else is checked as if it may not.
  check_null (shape : Shape) : lib.check (.optional shape) .null = .ok .null
  check_present (shape : Shape) (value : Value) (present : value ≠ .null) :
    lib.check (.optional shape) value = lib.check shape value
  check_list (shape : Shape) (values : List Value) (items : List Item)
    (each : List.Forall₂ (fun value item => lib.check shape value = .ok item) values items) :
    lib.check (.list shape) (.list values) = .ok (.list items)
  check_record (name : RecordName) (entries : Entries) (items : List Item)
    (each : List.Forall₂ (lib.Takes entries) name.members items) :
    lib.check (.record name) (.mapping entries) = .ok (.of name items)

section Standard

theorem outwardName_intercalate {words : List String} (nonempty : words ≠ [])
    (spelled : words.all isWord) : outwardName ("_".intercalate words) = camelCase words := by
  have undashed : ∀ cs ∈ words.map String.toList, '_' ∉ cs := by
    intro cs member dash
    obtain ⟨word, isIn, rfl⟩ := List.mem_map.1 member
    have letters := List.all_eq_true.1 spelled word isIn
    simp only [isWord, Bool.and_eq_true, List.all_eq_true] at letters
    exact absurd (letters.2 '_' dash) (by decide)
  have parts : ("_".intercalate words).toList.splitOn '_' = words.map String.toList := by
    rw [String.toList_intercalate]
    exact List.splitOn_intercalate '_' undashed (by simpa using nonempty)
  rw [outwardName, parts, List.map_map]
  congr 1
  exact List.map_id'' (fun _ => String.ofList_toList) words

theorem dumpItems_eq (spelling : Spelling) (items : List Item) :
    dumpItems spelling items = items.map (dumpItem spelling) := by
  induction items with
  | nil => rfl
  | cons item rest ih => rw [dumpItems, ih, List.map_cons]

theorem dumpMembers_eq (spelling : Spelling) (members : List (String × Item)) :
    dumpMembers spelling members =
      (members.filter fun m => spelling.keepsAbsent || !m.2.isNull).map fun m =>
        (.text (standard.spelled spelling m.1), dumpItem spelling m.2) := by
  induction members with
  | nil => rfl
  | cons m rest ih =>
    rw [dumpMembers, List.filter_cons, ih]
    split
    · rw [List.map_cons]
      rfl
    · rfl

theorem checkShape_exact {kind : Plain} {s : Scalar} (exact : kind.isExact s) :
    checkShape (.plain kind) (.scalar s) = .ok (.scalar s) := by
  rw [checkShape]
  -- Where the kind does not fit, there is nothing to show.
  cases kind <;> cases s <;> first | (cases exact; done) | rfl

theorem checkItemsFrom_eq {shape : Shape} {values : List Value} {items : List Item}
    (each : List.Forall₂ (fun value item => checkShape shape value = .ok item) values items)
    (i : Nat) : checkItemsFrom shape i values = .ok items := by
  induction each generalizing i with
  | nil => rw [checkItemsFrom]
  | cons first _ ih =>
    rw [checkItemsFrom, first, ih]
    rfl

theorem checkMembers_eq {entries : Entries} {members : List Member} {items : List Item}
    (each : List.Forall₂ (standard.Takes entries) members items) :
    checkMembers members entries = .ok items := by
  induction each with
  | nil => rw [checkMembers]
  | @cons m item _ _ takes _ ih =>
    rw [checkMembers, ih]
    have isKey : standard.key m = Key.mk (outwardName m.name) m.name := rfl
    obtain ⟨spelling, value, found, checked⟩ | ⟨absent, default⟩ := takes
    · rw [isKey] at found
      have checked : checkShape m.shape value = .ok item := checked
      split
      · rename_i found'
        rw [found] at found'
        cases found'
        rw [checked]
        rfl
      · rename_i absent
        rw [found] at absent
        cases absent
    · rw [isKey] at absent
      split
      · rename_i found
        rw [absent] at found
        cases found
      · rw [default]
        rfl

theorem standard_laws : standard.Laws where
  outward_words _ nonempty spelled := outwardName_intercalate nonempty spelled
  dump_scalar _ _ _ := rfl
  dump_choice _ _ := rfl
  dump_list spelling items := congrArg Value.list (dumpItems_eq spelling items)
  dump_record spelling _ members := congrArg Value.mapping (dumpMembers_eq spelling members)
  check_exact _ _ exact _ := checkShape_exact exact
  check_union kinds kind s first := by
    change checkShape _ _ = checkShape _ _
    rw [checkShape, checkShape, checkUnion, first]
  check_choice names name known := by
    change checkShape _ _ = _
    rw [checkShape, checkChoice, if_pos known]
  check_null shape := by
    change checkShape _ _ = _
    rw [checkShape]
    rfl
  check_present shape value present := by
    change checkShape _ _ = checkShape _ _
    rw [checkShape]
    · rfl
    · exact present
  check_list shape values items each := by
    change checkShape _ _ = _
    rw [checkShape, checkItemsFrom_eq each]
    rfl
  check_record name entries items each := by
    change checkShape _ _ = _
    rw [checkShape, checkMembers_eq each]
    rfl

end Standard

end RecordLibrary

end ApiCatalog
