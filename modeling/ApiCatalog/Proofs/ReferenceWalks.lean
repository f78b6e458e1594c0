import ApiCatalog.Proofs.Results
import ApiCatalog.Spec.Expand
import Mathlib

/-!
Inlining references keeps what a value means: a path leads in the result to where it leads in the
value if references are followed on the way. Paths go into mappings and lists, as pointers do;
pairs and sets are taken as a whole.
-/

set_option autoImplicit false

namespace ApiCatalog

inductive PathStep
  | key (key : Scalar)
  | position (index : Nat)

namespace Value

def child? : Value → PathStep → Option Value
  | .mapping entries, .key key => (entries.find? fun entry => entry.1 == key).map (·.2)
  | .list items, .position index => items[index]?
  | _, _ => none

def walk? : Value → List PathStep → Option Value
  | value, [] => some value
  | value, step :: rest => (value.child? step).bind (walk? · rest)

def reference? : Value → Option String
  | .mapping entries => Spec.reference? entries
  | _ => none

-- Mappings with the same keys in the same order, lists of one length, or the same value.
def SameShape : Value → Value → Prop
  | .mapping entries, .mapping others => entries.map (·.1) = others.map (·.1)
  | .list items, .list others => items.length = others.length
  | value, other => value = other

end Value

namespace Spec

open Value

/-- Where a path leads from a value if internal references are followed. `used` lists those that
are, in order; the value arrived at may be a reference itself. -/
inductive Reaches (root : Value) : Value → List PathStep → List String → Value → Prop
  | here (value : Value) : Reaches root value [] [] value
  | enter {value child found : Value} {step : PathStep} {path : List PathStep} {used : List String}
      (plain : value.reference? = none) (isChild : value.child? step = some child)
      (onward : Reaches root child path used found) :
      Reaches root value (step :: path) used found
  | follow {value target found : Value} {reference : String} {path : List PathStep}
      {used : List String} (refers : value.reference? = some reference)
      (internal : isInternal reference = true) (leads : lookup root reference = .ok target)
      (onward : Reaches root target path used found) :
      Reaches root value path (reference :: used) found

/-- A path leads in the result to a reference of the root that is still there: an external one, or
one that has been followed on the way. -/
def LeftInPlace (root result : Value) (path : List PathStep) : Prop :=
  ∃ used kept reference, Reaches root root path used kept ∧ used.Nodup ∧
    result.walk? path = some kept ∧ kept.reference? = some reference ∧
    (isInternal reference = true → reference ∈ used)

section Step

variable {root : Value} {fresh : List String}

theorem expandItems_forall {items results : List Value}
    (expanded : expandItems root fresh items = .ok results) :
    List.Forall₂ (fun item result => expand root fresh item = .ok result) items results := by
  induction items generalizing results with
  | nil =>
    rw [expandItems] at expanded
    cases expanded
    exact .nil
  | cons item rest ih =>
    rw [expandItems] at expanded
    obtain ⟨result, first, onward⟩ := bind_eq_ok.1 expanded
    obtain ⟨later, others, same⟩ := bind_eq_ok.1 onward
    cases same
    exact .cons first (ih others)

theorem expandEntries_forall {entries results : Entries}
    (expanded : expandEntries root fresh entries = .ok results) :
    List.Forall₂ (fun entry result => entry.1 = result.1 ∧
      expand root fresh entry.2 = .ok result.2) entries results := by
  induction entries generalizing results with
  | nil =>
    rw [expandEntries] at expanded
    cases expanded
    exact .nil
  | cons entry rest ih =>
    obtain ⟨key, value⟩ := entry
    rw [expandEntries] at expanded
    obtain ⟨result, first, onward⟩ := bind_eq_ok.1 expanded
    obtain ⟨later, others, same⟩ := bind_eq_ok.1 onward
    cases same
    exact .cons ⟨rfl, first⟩ (ih others)

-- What is under a step in both of two values, if in either, with the second expanded from the
-- first.
inductive ChildExpanded (root : Value) (fresh : List String) : Option Value → Option Value → Prop
  | absent : ChildExpanded root fresh none none
  | present {child result : Value} (expanded : expand root fresh child = .ok result) :
      ChildExpanded root fresh (some child) (some result)

theorem ChildExpanded.exists_child {child? : Option Value} {result : Value}
    (below : ChildExpanded root fresh child? (some result)) :
    ∃ child, child? = some child ∧ expand root fresh child = .ok result := by
  cases below with
  | present expanded => exact ⟨_, rfl, expanded⟩

theorem ChildExpanded.exists_result {child : Value} {result? : Option Value}
    (below : ChildExpanded root fresh (some child) result?) :
    ∃ result, result? = some result ∧ expand root fresh child = .ok result := by
  cases below with
  | present expanded => exact ⟨_, rfl, expanded⟩

theorem childExpanded_position {items results : List Value}
    (each : List.Forall₂ (fun item result => expand root fresh item = .ok result) items results)
    (index : Nat) : ChildExpanded root fresh items[index]? results[index]? := by
  induction each generalizing index with
  | nil => exact .absent
  | cons expanded _ ih =>
    cases index with
    | zero => exact .present expanded
    | succ index => exact ih index

theorem childExpanded_key {entries results : Entries}
    (each : List.Forall₂ (fun entry result => entry.1 = result.1 ∧
      expand root fresh entry.2 = .ok result.2) entries results) (key : Scalar) :
    ChildExpanded root fresh ((entries.find? fun entry => entry.1 == key).map (·.2))
      ((results.find? fun entry => entry.1 == key).map (·.2)) := by
  induction each with
  | nil => exact .absent
  | cons expanded _ ih =>
    obtain ⟨sameKey, expanded⟩ := expanded
    simp only [List.find?_cons, ← sameKey]
    split
    · exact .present expanded
    · exact ih

theorem keys_eq {entries results : Entries}
    (each : List.Forall₂ (fun entry result => entry.1 = result.1 ∧
      expand root fresh entry.2 = .ok result.2) entries results) :
    results.map (·.1) = entries.map (·.1) := by
  induction each with
  | nil => rfl
  | cons expanded _ ih => rw [List.map_cons, List.map_cons, ih, expanded.1]

-- All that expanding a value can do: go on with the target of a reference, leave a reference in
-- place, or keep the shape and expand what is inside.
theorem expand_cases {value result : Value} (expanded : expand root fresh value = .ok result) :
    (∃ reference target, value.reference? = some reference ∧ isInternal reference = true ∧
      reference ∈ fresh ∧ lookup root reference = .ok target ∧
      expand root (fresh.filter (· != reference)) target = .ok result) ∨
    (∃ reference, value.reference? = some reference ∧
      (isInternal reference = true → reference ∉ fresh) ∧ result = value) ∨
    (value.reference? = none ∧ result.SameShape value ∧
      ∀ step, ChildExpanded root fresh (value.child? step) (result.child? step)) := by
  cases value with
  | scalar s =>
    rw [expand] at expanded
    cases expanded
    exact .inr (.inr ⟨rfl, rfl, fun step => .absent⟩)
  | tuple items =>
    rw [expand] at expanded
    cases expanded
    exact .inr (.inr ⟨rfl, rfl, fun step => .absent⟩)
  | set items =>
    rw [expand] at expanded
    cases expanded
    exact .inr (.inr ⟨rfl, rfl, fun step => .absent⟩)
  | again kind between =>
    rw [expand] at expanded
    cases expanded
  | list items =>
    rw [expand] at expanded
    obtain ⟨results, inside, same⟩ := bind_eq_ok.1 expanded
    cases same
    have each := expandItems_forall inside
    refine .inr (.inr ⟨rfl, each.length_eq.symm, fun step => ?_⟩)
    cases step with
    | key key => exact .absent
    | position index => exact childExpanded_position each index
  | mapping entries =>
    rw [expand] at expanded
    split at expanded
    next reference refers =>
      split at expanded
      next internal =>
        split at expanded
        next isFresh =>
          obtain ⟨target, leads, onward⟩ := bind_eq_ok.1 expanded
          exact .inl ⟨reference, target, refers, internal, isFresh, leads, onward⟩
        next isUsed =>
          cases expanded
          exact .inr (.inl ⟨reference, refers, fun _ => isUsed, rfl⟩)
      next isExternal =>
        cases expanded
        exact .inr (.inl ⟨reference, refers, fun internal => absurd internal isExternal, rfl⟩)
    next plain =>
      obtain ⟨results, inside, same⟩ := bind_eq_ok.1 expanded
      cases same
      have each := expandEntries_forall inside
      refine .inr (.inr ⟨plain, keys_eq each, fun step => ?_⟩)
      cases step with
      | key key => exact childExpanded_key each key
      | position index => exact .absent

end Step

section References

variable {root : Value}

theorem child?_cases {value child : Value} {step : PathStep}
    (isChild : value.child? step = some child) :
    (∃ items, value = .list items ∧ child ∈ items) ∨
      ∃ entries key, value = .mapping entries ∧ (key, child) ∈ entries := by
  cases value with
  | list items =>
    cases step with
    | key key => cases isChild
    | position index => exact .inl ⟨items, rfl, List.mem_of_getElem? isChild⟩
  | mapping entries =>
    cases step with
    | position index => cases isChild
    | key key =>
      obtain ⟨entry, found, rfl⟩ := Option.map_eq_some_iff.1 isChild
      exact .inr ⟨entries, entry.1, rfl, List.mem_of_find?_eq_some found⟩
  | _ => cases isChild

theorem references_item {items : List Value} {item : Value} (member : item ∈ items) :
    references item ⊆ itemReferences items := by
  induction items with
  | nil => cases member
  | cons first rest ih =>
    rw [itemReferences]
    rcases List.mem_cons.1 member with rfl | later
    · exact List.subset_append_left _ _
    · exact List.Subset.trans (ih later) (List.subset_append_right _ _)

theorem references_entry {entries : Entries} {key : Scalar} {value : Value}
    (member : (key, value) ∈ entries) : references value ⊆ entryReferences entries := by
  induction entries with
  | nil => cases member
  | cons first rest ih =>
    obtain ⟨otherKey, other⟩ := first
    rw [entryReferences]
    rcases List.mem_cons.1 member with same | later
    · cases same
      exact List.subset_append_left _ _
    · exact List.Subset.trans (ih later) (List.subset_append_right _ _)

theorem references_child {value child : Value} {step : PathStep}
    (isChild : value.child? step = some child) : references child ⊆ references value := by
  rcases child?_cases isChild with ⟨items, rfl, member⟩ | ⟨entries, key, rfl, member⟩
  · rw [references]
    exact references_item member
  · rw [references]
    exact List.Subset.trans (references_entry member) (List.subset_append_right _ _)

theorem mem_references {value : Value} {reference : String}
    (refers : value.reference? = some reference) : reference ∈ references value := by
  cases value with
  | mapping entries =>
    have refers : Spec.reference? entries = some reference := refers
    simp [references, refers]
  | _ => cases refers

theorem descend_child {reference segment : String} {value found : Value}
    (descends : descend reference value segment = .ok found) :
    ∃ step, value.child? step = some found := by
  unfold descend at descends
  split at descends
  next entries =>
    cases inside : Entries.get? segment entries with
    | none => simp [inside] at descends
    | some child =>
      simp only [inside, Except.ok.injEq] at descends
      subst descends
      exact ⟨.key (.text segment), inside⟩
  next items =>
    cases inside : (Number.readInteger? segment).bind (itemAt? items) with
    | none => simp [inside] at descends
    | some child =>
      simp only [inside, Except.ok.injEq] at descends
      subst descends
      obtain ⟨position, -, found⟩ := Option.bind_eq_some_iff.1 inside
      unfold itemAt? at found
      split at found
      · split at found
        · cases found
        · exact ⟨.position (position + items.length).toNat, found⟩
      · exact ⟨.position position.toNat, found⟩
  next => cases descends

def Place.All (holds : Value → Prop) (place : Place) : Prop :=
  ∀ value ∈ place.value :: place.around, holds value

theorem Place.All.enter {holds : Value → Prop} {place : Place} {value : Value}
    (all : place.All holds) (inside : holds value) : (place.enter value).All holds := by
  have further : Place.All holds ⟨value, place.value :: place.around⟩ :=
    List.forall_mem_cons.2 ⟨inside, all⟩
  cases value with
  | again kind between =>
    unfold Place.enter
    dsimp only
    split
    next value around dropped =>
      intro other member
      exact all other (List.mem_of_mem_drop (dropped ▸ member))
    next => exact List.forall_mem_singleton.2 inside
  | _ => exact further

-- What the root has and hands down to all that is inside, the target of a pointer has too.
theorem lookup_inherits (holds : Value → Prop) (ofRoot : holds root)
    (inherits : ∀ value step child, holds value → value.child? step = some child → holds child)
    {reference : String} {target : Value} (leads : lookup root reference = .ok target) :
    holds target := by
  have steps (segments : List String) : ∀ start final : Place, start.All holds →
      segments.foldlM (fun (place : Place) segment => do
        return place.enter (← descend reference place.value segment)) start = .ok final →
      final.All holds := by
    induction segments with
    | nil =>
      intro start final all ends
      cases ends
      exact all
    | cons segment rest ih =>
      intro start final all ends
      rw [List.foldlM_cons] at ends
      obtain ⟨next, entered, ends⟩ := bind_eq_ok.1 ends
      obtain ⟨value, descends, same⟩ := bind_eq_ok.1 entered
      cases same
      obtain ⟨step, isChild⟩ := descend_child descends
      have inside : holds value := inherits _ step value (all _ List.mem_cons_self) isChild
      exact ih _ final (all.enter inside) ends
  obtain ⟨final, ends, rfl⟩ := map_eq_ok.1 leads
  exact steps _ ⟨root, []⟩ final (List.forall_mem_singleton.2 ofRoot) ends final.value
    List.mem_cons_self

theorem lookup_references {reference : String} {target : Value}
    (leads : lookup root reference = .ok target) : references target ⊆ references root :=
  lookup_inherits (fun value => references value ⊆ references root)
    (List.Subset.refl _)
    (fun _ _ _ inside isChild => List.Subset.trans (references_child isChild) inside) leads

theorem Reaches.references_subset {value found : Value} {path : List PathStep}
    {used : List String} (reaches : Reaches root value path used found)
    (inside : references value ⊆ references root) :
    used ⊆ references root ∧ references found ⊆ references root := by
  induction reaches with
  | here => exact ⟨List.nil_subset _, inside⟩
  | enter _ isChild _ ih => exact ih (List.Subset.trans (references_child isChild) inside)
  | follow refers _ leads _ ih =>
    obtain ⟨later, found⟩ := ih (lookup_references leads)
    exact ⟨List.cons_subset.2 ⟨inside (mem_references refers), later⟩, found⟩

end References

section Walks

variable {root : Value}

theorem not_mem_of_subset_filter {reference : String} {used fresh : List String}
    (later : used ⊆ fresh.filter (· != reference)) : reference ∉ used := by
  intro member
  simpa using (List.mem_filter.1 (later member)).2

-- A path in an expanded value leads to where it leads in the value, or it comes past a
-- reference that expanding has left there.
theorem expand_walk {fresh : List String} {value result node : Value} {path : List PathStep}
    (expanded : expand root fresh value = .ok result) (walks : result.walk? path = some node) :
    (∃ used found, Reaches root value path used found ∧ used.Nodup ∧ used ⊆ fresh ∧
      found.reference? = none ∧ node.SameShape found) ∨
    ∃ start used kept reference, start <+: path ∧ Reaches root value start used kept ∧
      used.Nodup ∧ used ⊆ fresh ∧ result.walk? start = some kept ∧
      kept.reference? = some reference ∧
      (isInternal reference = true → reference ∉ fresh ∨ reference ∈ used) := by
  rcases expand_cases expanded with ⟨reference, target, refers, internal, isFresh, leads, onward⟩ |
    ⟨reference, refers, isUsed, rfl⟩ | ⟨plain, sameShape, children⟩
  · have fewer : fresh.filter (· != reference) ⊆ fresh := List.filter_sublist.subset
    have shorter := length_filter_lt isFresh
    rcases expand_walk onward walks with ⟨used, found, reaches, distinct, among, rest⟩ |
      ⟨start, used, kept, other, isStart, reaches, distinct, among, there, refersToo, isUsed⟩
    · refine .inl ⟨reference :: used, found, .follow refers internal leads reaches, ?_, ?_, rest⟩
      · exact List.nodup_cons.2 ⟨not_mem_of_subset_filter among, distinct⟩
      · exact List.cons_subset.2 ⟨isFresh, List.Subset.trans among fewer⟩
    · refine .inr ⟨start, reference :: used, kept, other, isStart,
        .follow refers internal leads reaches, ?_, ?_, there, refersToo, fun isInternal => ?_⟩
      · exact List.nodup_cons.2 ⟨not_mem_of_subset_filter among, distinct⟩
      · exact List.cons_subset.2 ⟨isFresh, List.Subset.trans among fewer⟩
      · -- What is not fresh any more is this reference or was used before.
        rcases isUsed isInternal with gone | before
        · by_cases same : other = reference
          · exact .inr (same ▸ List.mem_cons_self)
          · exact .inl fun member => gone (List.mem_filter.2 ⟨member, by simpa using same⟩)
        · exact .inr (List.mem_cons_of_mem _ before)
  · exact .inr ⟨[], [], result, reference, List.nil_prefix, .here result, List.nodup_nil,
      List.nil_subset _, rfl, refers, fun internal => .inl (isUsed internal)⟩
  · cases path with
    | nil =>
      cases walks
      exact .inl ⟨[], value, .here value, List.nodup_nil, List.nil_subset _, plain, sameShape⟩
    | cons step rest =>
      obtain ⟨inner, isInner, walks⟩ := Option.bind_eq_some_iff.1 walks
      have below := children step
      rw [isInner] at below
      obtain ⟨child, isChild, inside⟩ := below.exists_child
      rcases expand_walk inside walks with ⟨used, found, reaches, others⟩ |
        ⟨start, used, kept, reference, isStart, reaches, distinct, among, there, others⟩
      · exact .inl ⟨used, found, .enter plain isChild reaches, others⟩
      · refine .inr ⟨step :: start, used, kept, reference, ?_, .enter plain isChild reaches,
          distinct, among, ?_, others⟩
        · exact List.cons_prefix_cons.2 ⟨rfl, isStart⟩
        · simpa [walk?, isInner] using there
termination_by (fresh.length, path.length)

-- A path along which no reference is followed twice is still there after expanding.
theorem Reaches.expand_walk {fresh used : List String} {value found result : Value}
    {path : List PathStep} (reaches : Reaches root value path used found)
    (expanded : expand root fresh value = .ok result) (distinct : used.Nodup)
    (among : used ⊆ fresh) (plain : found.reference? = none) :
    ∃ node, result.walk? path = some node ∧ node.SameShape found := by
  induction reaches generalizing fresh result with
  | here value =>
    rcases expand_cases expanded with ⟨reference, _, refers, -⟩ | ⟨reference, refers, -⟩ |
      ⟨-, sameShape, -⟩
    · simp [plain] at refers
    · simp [plain] at refers
    · exact ⟨result, rfl, sameShape⟩
  | @enter value child found step path used noReference isChild onward ih =>
    rcases expand_cases expanded with ⟨reference, _, refers, -⟩ | ⟨reference, refers, -⟩ |
      ⟨-, -, children⟩
    · simp [noReference] at refers
    · simp [noReference] at refers
    · have below := children step
      rw [isChild] at below
      obtain ⟨inner, isInner, inside⟩ := below.exists_result
      obtain ⟨node, walks, sameShape⟩ := ih inside distinct among plain
      exact ⟨node, by simpa [walk?, isInner] using walks, sameShape⟩
  | @follow value target found reference path used refers internal leads onward ih =>
    obtain ⟨isNew, laterDistinct⟩ := List.nodup_cons.1 distinct
    obtain ⟨isFresh, laterAmong⟩ := List.cons_subset.1 among
    rcases expand_cases expanded with ⟨other, goal, refersToo, -, -, leadsToo, expanded⟩ |
      ⟨other, refersToo, isUsed, -⟩ | ⟨noReference, -⟩
    · obtain rfl : other = reference := by simpa [refers] using refersToo.symm
      obtain rfl : goal = target := by simpa [leads] using leadsToo.symm
      refine ih expanded laterDistinct (fun next member => ?_) plain
      have differs : next ≠ other := fun same => isNew (same ▸ member)
      exact List.mem_filter.2 ⟨laterAmong member, by simpa using differs⟩
    · obtain rfl : other = reference := by simpa [refers] using refersToo.symm
      exact absurd isFresh (isUsed internal)
    · simp [refers] at noReference

end Walks

/-- A path in the result that comes past no reference left in place leads to where it leads in the
root with all references followed. Every path in the root that meets no external reference and
follows no reference twice is in the result. -/
theorem inlined_walks {root result : Value} (inlines : inlined root = .ok result) :
    (∀ path node, result.walk? path = some node →
      (∀ start, start <+: path → ¬ LeftInPlace root result start) →
      ∃ used found, Reaches root root path used found ∧ found.reference? = none ∧
        node.SameShape found) ∧
    (∀ path used found, Reaches root root path used found → found.reference? = none →
      used.Nodup → ∃ node, result.walk? path = some node ∧ node.SameShape found) := by
  constructor
  · intro path node walks nothingLeft
    rcases expand_walk inlines walks with ⟨used, found, reaches, -, -, plain, sameShape⟩ |
      ⟨start, used, kept, reference, isStart, reaches, distinct, -, there, refers, isUsed⟩
    · exact ⟨used, found, reaches, plain, sameShape⟩
    · -- At first all references of the root are fresh, so it is not fresh because it was used.
      have known : reference ∈ references root :=
        (reaches.references_subset (List.Subset.refl _)).2 (mem_references refers)
      exact absurd ⟨used, kept, reference, reaches, distinct, there, refers,
        fun internal => (isUsed internal).resolve_left (not_not_intro known)⟩
        (nothingLeft start isStart)
  · intro path used found reaches plain distinct
    exact reaches.expand_walk inlines distinct
      (reaches.references_subset (List.Subset.refl _)).1 plain

def pointer (reference : String) : Value := .mapping [(.text "$ref", .text reference)]

-- Two references that lead to each other, one of them inside of a list.
def looping : Value :=
  .mapping [(.text "a", pointer "#/b/0"),
    (.text "b", .list [.mapping [(.text "x", .int 1), (.text "next", pointer "#/a")]])]

def looped : Value :=
  .mapping [(.text "a", .mapping [(.text "x", .int 1), (.text "next", pointer "#/b/0")]),
    (.text "b", .list [.mapping [(.text "x", .int 1),
      (.text "next", .mapping [(.text "x", .int 1), (.text "next", pointer "#/a")])]])]

theorem inlined_walks_looping :
    inlined looping = .ok looped ∧
    (∃ used found, Reaches looping looping [.key (.text "a"), .key (.text "x")] used found ∧
      found.reference? = none ∧ (Value.int 1).SameShape found) ∧
    ∃ node, looped.walk? [.key (.text "b"), .position 0, .key (.text "next"), .key (.text "x")] =
      some node ∧ node.SameShape (.int 1) := by
  have inlines : inlined looping = .ok looped := by cbv
  refine ⟨inlines, (inlined_walks inlines).1 _ _ (by cbv) ?_, ?_⟩
  · rintro start isStart ⟨used, kept, reference, -, -, there, refers, -⟩
    have noneOnTheWay : ∀ start ∈ [PathStep.key (.text "a"), .key (.text "x")].inits,
        (looped.walk? start).bind Value.reference? = none := by decide
    simpa [there, refers] using noneOnTheWay start ((List.mem_inits _ _).2 isStart)
  · have item : lookup looping "#/b/0" =
        .ok (.mapping [(.text "x", .int 1), (.text "next", pointer "#/a")]) := by cbv
    have back : lookup looping "#/a" = .ok (pointer "#/b/0") := by cbv
    refine (inlined_walks inlines).2 _ ["#/a", "#/b/0"] (.int 1) ?_ rfl (by decide)
    refine .enter (by decide) rfl (.enter (by decide) rfl
      (.enter (by decide) rfl ?_))
    exact .follow (by decide) (by decide) back (.follow (by decide)
      (by decide) item (.enter (by decide) rfl (.here _)))

end Spec

end ApiCatalog
