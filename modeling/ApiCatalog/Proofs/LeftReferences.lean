import ApiCatalog.Proofs.ReferenceWalks

/-!
Which references are still there after inlining: external ones, those that lead back to themselves,
and those that inlining has put together from a text where the value had no reference.
-/

set_option autoImplicit false

namespace ApiCatalog

namespace Value

def referenceKey : PathStep := .key (.text "$ref")

theorem child?_referenceKey {value : Value} {reference : String} :
    value.reference? = some reference ↔ value.child? referenceKey = some (.text reference) := by
  cases value with
  | mapping entries =>
    have unfolded : (mapping entries).child? referenceKey = Entries.get? "$ref" entries := rfl
    rw [unfolded, reference?, Spec.reference?]
    split
    next other found => simp [found]
    next noText =>
      constructor
      · nofun
      · exact fun found => absurd found (noText reference)
  | _ => simp [reference?, child?, referenceKey]

theorem walk?_append (value : Value) (path further : List PathStep) :
    value.walk? (path ++ further) = (value.walk? path).bind (walk? · further) := by
  induction path generalizing value with
  | nil => rfl
  | cons step rest ih => cases found : value.child? step <;> simp [walk?, found, ih]

theorem SameShape.eq_scalar {s : Scalar} {value : Value} (same : (scalar s).SameShape value) :
    value = .scalar s := by
  cases value <;> simp_all [SameShape]

end Value

namespace Spec

open Value

/-- A path leads in a value to a reference, and comes past no other one. -/
structure Shows (value : Value) (path : List PathStep) (reference : String) : Prop where
  refers : ∃ node, value.walk? path = some node ∧ node.reference? = some reference
  first : ∀ start node, start <+: path → start ≠ path → value.walk? start = some node →
    node.reference? = none

/-- A reference leads back to itself, through what is inside of its target and by other
references. -/
def Cyclic (root : Value) (reference : String) : Prop :=
  ∃ target path used found, lookup root reference = .ok target ∧
    Reaches root target path used found ∧ found.reference? = some reference

/-- A path leads in the root to a mapping that is no reference. What it has in place of the text of
one is a reference itself, and that leads to the text. -/
def Formed (root : Value) (path : List PathStep) (reference : String) : Prop :=
  ∃ used further found inner, Reaches root root path used found ∧ found.reference? = none ∧
    found.child? referenceKey = some inner ∧ inner.reference?.isSome ∧
    Reaches root inner [] further (.text reference)

mutual
def givesReference : Value → Bool
  | .list items => anyGivesReference items
  | .mapping entries =>
    ((Entries.get? "$ref" entries).bind Value.reference?).isSome || anyEntryGivesReference entries
  | _ => false

def anyGivesReference : List Value → Bool
  | [] => false
  | item :: rest => givesReference item || anyGivesReference rest

def anyEntryGivesReference : Entries → Bool
  | [] => false
  | (_, value) :: rest => givesReference value || anyEntryGivesReference rest
end

section Given

theorem givesReference_item {items : List Value} {item : Value} (member : item ∈ items)
    (noneGiven : anyGivesReference items = false) : givesReference item = false := by
  induction items with
  | nil => cases member
  | cons first rest ih =>
    rw [anyGivesReference, Bool.or_eq_false_iff] at noneGiven
    rcases List.mem_cons.1 member with rfl | later
    · exact noneGiven.1
    · exact ih later noneGiven.2

theorem givesReference_entry {entries : Entries} {key : Scalar} {value : Value}
    (member : (key, value) ∈ entries) (noneGiven : anyEntryGivesReference entries = false) :
    givesReference value = false := by
  induction entries with
  | nil => cases member
  | cons first rest ih =>
    obtain ⟨otherKey, other⟩ := first
    rw [anyEntryGivesReference, Bool.or_eq_false_iff] at noneGiven
    rcases List.mem_cons.1 member with same | later
    · cases same
      exact noneGiven.1
    · exact ih later noneGiven.2

theorem givesReference_child {value child : Value} {step : PathStep}
    (noneGiven : givesReference value = false) (isChild : value.child? step = some child) :
    givesReference child = false := by
  rcases child?_cases isChild with ⟨items, rfl, member⟩ | ⟨entries, key, rfl, member⟩
  · rw [givesReference] at noneGiven
    exact givesReference_item member noneGiven
  · rw [givesReference, Bool.or_eq_false_iff] at noneGiven
    exact givesReference_entry member noneGiven.2

theorem givesReference_referenceKey {value inner : Value} (noneGiven : givesReference value = false)
    (isChild : value.child? referenceKey = some inner) : inner.reference? = none := by
  cases value with
  | mapping entries =>
    have found : Entries.get? "$ref" entries = some inner := isChild
    rw [givesReference, Bool.or_eq_false_iff, found] at noneGiven
    simpa using noneGiven.1
  | _ => cases isChild

end Given

section Reaching

variable {root : Value}

theorem Reaches.exists_last {value found : Value} {path : List PathStep} {step : PathStep}
    {used : List String} (reaches : Reaches root value (path ++ [step]) used found) :
    ∃ before after middle inner, Reaches root value path before middle ∧
      middle.reference? = none ∧ middle.child? step = some inner ∧
      Reaches root inner [] after found := by
  generalize whole : path ++ [step] = steps at reaches
  induction reaches generalizing path with
  | here => simp at whole
  | @enter value child found first rest used plain isChild onward ih =>
    cases path with
    | nil =>
      obtain ⟨rfl, rfl⟩ : step = first ∧ [] = rest := by simpa using whole
      exact ⟨[], used, value, child, .here value, plain, isChild, onward⟩
    | cons other path =>
      obtain ⟨rfl, later⟩ : other = first ∧ path ++ [step] = rest := by simpa using whole
      obtain ⟨before, after, middle, inner, reaches, others⟩ := ih later
      exact ⟨before, after, middle, inner, .enter plain isChild reaches, others⟩
  | follow refers internal leads _ ih =>
    obtain ⟨before, after, middle, inner, reaches, others⟩ := ih whole
    exact ⟨_ :: before, after, middle, inner, .follow refers internal leads reaches, others⟩

theorem Reaches.exists_target {value found : Value} {path : List PathStep} {used : List String}
    {reference : String} (reaches : Reaches root value path used found)
    (followed : reference ∈ used) :
    ∃ target path used, lookup root reference = .ok target ∧
      Reaches root target path used found := by
  induction reaches with
  | here => cases followed
  | enter _ _ _ ih => exact ih followed
  | follow refers internal leads onward ih =>
    rcases List.mem_cons.1 followed with rfl | later
    · exact ⟨_, _, _, leads, onward⟩
    · exact ih later

theorem Reaches.inherits (holds : Value → Prop) (ofRoot : holds root)
    (inherits : ∀ value step child, holds value → value.child? step = some child → holds child)
    {value found : Value} {path : List PathStep} {used : List String}
    (reaches : Reaches root value path used found) (starts : holds value) : holds found := by
  induction reaches with
  | here => exact starts
  | enter _ isChild _ ih => exact ih (inherits _ _ _ starts isChild)
  | follow _ _ leads _ ih => exact ih (lookup_inherits holds ofRoot inherits leads)

-- A value that is no reference is where it stays.
theorem Reaches.eq_of_plain {value found : Value} {used : List String}
    (reaches : Reaches root value [] used found) (plain : value.reference? = none) :
    found = value := by
  cases reaches with
  | here => rfl
  | follow refers => simp [plain] at refers

-- Where there are no references, none are found.
theorem Reaches.plain_of_bare {value found : Value} {path : List PathStep} {used : List String}
    (reaches : Reaches root value path used found) (bare : references value = []) :
    found.reference? = none := by
  induction reaches with
  | here value =>
    by_contra refers
    obtain ⟨reference, refers⟩ := Option.ne_none_iff_exists'.1 refers
    simpa [bare] using mem_references refers
  | enter _ isChild _ ih => exact ih (List.eq_nil_of_subset_nil (bare ▸ references_child isChild))
  | follow refers => simpa [bare] using mem_references refers

end Reaching

section Left

variable {root result : Value}

-- What a reference in the result is. The path is followed one step further, to its text.
theorem shows_cases (inlines : inlined root = .ok result) {path : List PathStep}
    {reference : String} (shows : Shows result path reference) :
    isInternal reference = false ∨ Cyclic root reference ∨ Formed root path reference := by
  obtain ⟨⟨node, walks, refers⟩, first⟩ := shows
  have leads : result.walk? (path ++ [referenceKey]) = some (.text reference) := by
    simp [walk?_append, walks, walk?, child?_referenceKey.1 refers]
  rcases expand_walk inlines leads with ⟨used, found, reaches, -, -, -, sameShape⟩ |
    ⟨start, used, kept, other, isStart, reaches, -, -, there, refersToo, isUsed⟩
  · obtain rfl := sameShape.eq_scalar
    obtain ⟨before, after, middle, inner, reaches, plain, isChild, onward⟩ := reaches.exists_last
    -- Were it no reference, it would be the text, and the mapping around it a reference.
    have given : inner.reference?.isSome := by
      by_contra none
      have text := onward.eq_of_plain (by simpa using none)
      rw [← text, ← child?_referenceKey, plain] at isChild
      cases isChild
    exact .inr (.inr ⟨before, after, middle, inner, reaches, plain, isChild, given, onward⟩)
  · rcases List.prefix_concat_iff.1 isStart with rfl | isStart
    · rw [leads] at there
      cases there
      cases refersToo
    · -- No other reference is on the way, so that this is the one that was left in place.
      obtain rfl : start = path := by
        by_contra differs
        simp [first start kept isStart differs there] at refersToo
      rw [walks] at there
      cases there
      obtain rfl : other = reference := by simpa [refers] using refersToo.symm
      by_cases internal : isInternal other = true
      · have known : other ∈ references root :=
          (reaches.references_subset (List.Subset.refl _)).2 (mem_references refers)
        have followed := (isUsed internal).resolve_left (not_not_intro known)
        obtain ⟨target, way, later, leads, onward⟩ := reaches.exists_target followed
        exact .inr (.inl ⟨target, way, later, node, leads, onward, refers⟩)
      · exact .inl (by simpa using internal)

theorem Cyclic.mem_references {reference : String} (cyclic : Cyclic root reference) :
    reference ∈ references root := by
  obtain ⟨target, path, used, found, leads, reaches, refers⟩ := cyclic
  exact (reaches.references_subset (lookup_references leads)).2 (Spec.mem_references refers)

theorem not_cyclic {reference : String} {target : Value}
    (leads : lookup root reference = .ok target) (bare : references target = []) :
    ¬ Cyclic root reference := by
  rintro ⟨other, path, used, found, leadsToo, reaches, refers⟩
  obtain rfl : target = other := by simpa [leads] using leadsToo
  simp [reaches.plain_of_bare bare] at refers

theorem not_formed {path : List PathStep} {reference : String}
    (noneGiven : givesReference root = false) : ¬ Formed root path reference := by
  rintro ⟨used, further, found, inner, reaches, -, isChild, given, -⟩
  have none := reaches.inherits (givesReference · = false) noneGiven
    (fun _ _ _ => givesReference_child) noneGiven
  simp [givesReference_referenceKey none isChild] at given

end Left

section Unchanged

variable {root : Value} {fresh : List String}

mutual
theorem expand_unchanged (value : Value) {result : Value}
    (external : ∀ reference ∈ references value, isInternal reference = false)
    (expanded : expand root fresh value = .ok result) : result = value := by
  match value with
  | .scalar s | .tuple items | .set items =>
    rw [expand] at expanded
    cases expanded
    rfl
  | .again kind between =>
    rw [expand] at expanded
    cases expanded
  | .list items =>
    rw [expand] at expanded
    rw [references] at external
    obtain ⟨results, inside, same⟩ := bind_eq_ok.1 expanded
    cases same
    rw [expandItems_unchanged items external inside]
  | .mapping entries =>
    rw [expand] at expanded
    rw [references] at external
    obtain ⟨own, others⟩ := List.forall_mem_append.1 external
    split at expanded
    next reference refers =>
      have outward : isInternal reference = false := own reference (by simp [refers])
      rw [if_neg (by simp [outward])] at expanded
      cases expanded
      rfl
    next plain =>
      obtain ⟨results, inside, same⟩ := bind_eq_ok.1 expanded
      cases same
      rw [expandEntries_unchanged entries others inside]

theorem expandItems_unchanged (items : List Value) {results : List Value}
    (external : ∀ reference ∈ itemReferences items, isInternal reference = false)
    (expanded : expandItems root fresh items = .ok results) : results = items := by
  match items with
  | [] =>
    rw [expandItems] at expanded
    cases expanded
    rfl
  | item :: rest =>
    rw [expandItems] at expanded
    rw [itemReferences] at external
    obtain ⟨own, others⟩ := List.forall_mem_append.1 external
    obtain ⟨first, found, onward⟩ := bind_eq_ok.1 expanded
    obtain ⟨later, further, same⟩ := bind_eq_ok.1 onward
    cases same
    rw [expand_unchanged item own found, expandItems_unchanged rest others further]

theorem expandEntries_unchanged (entries : Entries) {results : Entries}
    (external : ∀ reference ∈ entryReferences entries, isInternal reference = false)
    (expanded : expandEntries root fresh entries = .ok results) : results = entries := by
  match entries with
  | [] =>
    rw [expandEntries] at expanded
    cases expanded
    rfl
  | (key, value) :: rest =>
    rw [expandEntries] at expanded
    rw [entryReferences] at external
    obtain ⟨own, others⟩ := List.forall_mem_append.1 external
    obtain ⟨first, found, onward⟩ := bind_eq_ok.1 expanded
    obtain ⟨later, further, same⟩ := bind_eq_ok.1 onward
    cases same
    rw [expand_unchanged value own found, expandEntries_unchanged rest others further]
end

end Unchanged

/-- A reference that the result shows is an external one, leads back to itself, or was formed by
inlining. So a value with no cycle among its references, and with none in place of the text of
another, shows no internal ones, and a value without internal references stays as it is. -/
theorem inlined_leaves {root result : Value} (inlines : inlined root = .ok result) :
    (∀ path reference, Shows result path reference →
      isInternal reference = false ∨ Cyclic root reference ∨ Formed root path reference) ∧
    ((∀ reference ∈ references root, isInternal reference = true → ¬ Cyclic root reference) →
      givesReference root = false →
      ∀ path reference, Shows result path reference → isInternal reference = false) ∧
    ((∀ reference ∈ references root, isInternal reference = false) → result = root) := by
  refine ⟨fun _ _ => shows_cases inlines, fun acyclic noneGiven path reference shows => ?_,
    fun external => expand_unchanged root external inlines⟩
  rcases shows_cases inlines shows with external | cyclic | formed
  · exact external
  · by_contra internal
    exact acyclic reference cyclic.mem_references (by simpa using internal) cyclic
  · exact absurd formed (not_formed noneGiven)

theorem shows_single {value node : Value} {step : PathStep} {reference : String}
    (plain : value.reference? = none) (isChild : value.child? step = some node)
    (refers : node.reference? = some reference) : Shows value [step] reference where
  refers := ⟨node, by simp [walk?, isChild], refers⟩
  first start other isStart differs walks := by
    obtain rfl : start = [] := by simpa [List.prefix_cons_iff, differs] using isStart
    cases walks
    exact plain

-- One reference twice and an external one, with nothing that leads back.
def shared : Value :=
  .mapping [(.text "a", .list [pointer "#/b", pointer "#/b"]),
    (.text "b", .mapping [(.text "x", .int 1)]), (.text "c", pointer "c")]

def sharedInlined : Value :=
  .mapping [(.text "a", .list [.mapping [(.text "x", .int 1)], .mapping [(.text "x", .int 1)]]),
    (.text "b", .mapping [(.text "x", .int 1)]), (.text "c", pointer "c")]

theorem inlined_leaves_shared :
    inlined shared = .ok sharedInlined ∧ Shows sharedInlined [.key (.text "c")] "c" ∧
      ∀ path reference, Shows sharedInlined path reference → isInternal reference = false := by
  have inlines : inlined shared = .ok sharedInlined := by cbv
  refine ⟨inlines, shows_single (by decide) rfl (by decide), ?_⟩
  refine (inlined_leaves inlines).2.1 (fun reference member internal => ?_) (by decide)
  have known : references shared = ["#/b", "#/b", "c"] := by decide
  have leads : lookup shared "#/b" = .ok (.mapping [(.text "x", .int 1)]) := by cbv
  have among : reference = "#/b" ∨ reference = "c" := by simpa [known] using member
  rcases among with rfl | rfl
  · exact not_cyclic leads (by decide)
  · exact absurd internal (by decide)

-- What stands for the text of a reference leads to a text that looks like one.
def forming : Value :=
  .mapping [(.text "a", .mapping [(.text "$ref", pointer "#/x")]), (.text "x", .text "#/x")]

def formed : Value :=
  .mapping [(.text "a", pointer "#/x"), (.text "x", .text "#/x")]

theorem inlined_leaves_formed :
    inlined forming = .ok formed ∧ Shows formed [.key (.text "a")] "#/x" ∧
      isInternal "#/x" = true ∧ ∀ reference, ¬ Cyclic forming reference := by
  have inlines : inlined forming = .ok formed := by cbv
  refine ⟨inlines, shows_single (by decide) rfl (by decide), by decide, ?_⟩
  intro reference cyclic
  have known : references forming = ["#/x"] := by decide
  have leads : lookup forming "#/x" = .ok (.text "#/x") := by cbv
  obtain rfl : reference = "#/x" := by simpa [known] using cyclic.mem_references
  exact not_cyclic leads (by decide) cyclic

end Spec

end ApiCatalog
