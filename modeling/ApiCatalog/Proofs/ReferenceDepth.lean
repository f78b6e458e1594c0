import ApiCatalog.Proofs.SpecFaults

/-!
Inlining references comes to an end, however they refer to each other. A branch of the expansion
expands each reference at most once and otherwise goes down, so that it is at most as long as the
value is high for each of the references of the value and once more.
-/

set_option autoImplicit false

namespace ApiCatalog

namespace Value

-- What is directly inside of a mapping or a list.
def parts : Value → List Value
  | .list items => items
  | .mapping entries => entries.map (·.2)
  | _ => []

mutual
def height : Value → Nat
  | .list items => itemsHeight items + 1
  | .mapping entries => entriesHeight entries + 1
  | _ => 1

def itemsHeight : List Value → Nat
  | [] => 0
  | item :: rest => max item.height (itemsHeight rest)

def entriesHeight : Entries → Nat
  | [] => 0
  | (_, value) :: rest => max value.height (entriesHeight rest)
end

theorem height_pos (value : Value) : 0 < value.height := by
  cases value <;> simp [height]

theorem height_item {items : List Value} {item : Value} (member : item ∈ items) :
    item.height ≤ itemsHeight items := by
  induction items with
  | nil => cases member
  | cons first rest ih =>
    rw [itemsHeight]
    rcases List.mem_cons.1 member with rfl | later
    · omega
    · have := ih later
      omega

theorem height_entry {entries : Entries} {key : Scalar} {value : Value}
    (member : (key, value) ∈ entries) : value.height ≤ entriesHeight entries := by
  induction entries with
  | nil => cases member
  | cons first rest ih =>
    obtain ⟨otherKey, other⟩ := first
    rw [entriesHeight]
    rcases List.mem_cons.1 member with same | later
    · cases same
      omega
    · have := ih later
      omega

theorem parts_cases {value part : Value} (inside : part ∈ value.parts) :
    (∃ items, value = .list items ∧ part ∈ items) ∨
      ∃ entries key, value = .mapping entries ∧ (key, part) ∈ entries := by
  cases value with
  | list items => exact .inl ⟨items, rfl, inside⟩
  | mapping entries =>
    obtain ⟨⟨key, value⟩, member, rfl⟩ := List.mem_map.1 inside
    exact .inr ⟨entries, key, rfl, member⟩
  | _ => cases inside

theorem mem_parts_of_child {value child : Value} {step : PathStep}
    (isChild : value.child? step = some child) : child ∈ value.parts := by
  rcases Spec.child?_cases isChild with ⟨items, rfl, member⟩ | ⟨entries, key, rfl, member⟩
  · exact member
  · exact List.mem_map.2 ⟨_, member, rfl⟩

theorem height_part {value part : Value} (inside : part ∈ value.parts) :
    part.height < value.height := by
  rcases parts_cases inside with ⟨items, rfl, member⟩ | ⟨entries, key, rfl, member⟩
  · rw [height]
    exact Nat.lt_succ_of_le (height_item member)
  · rw [height]
    exact Nat.lt_succ_of_le (height_entry member)

theorem references_part {value part : Value} (inside : part ∈ value.parts) :
    Spec.references part ⊆ Spec.references value := by
  rcases parts_cases inside with ⟨items, rfl, member⟩ | ⟨entries, key, rfl, member⟩
  · rw [Spec.references]
    exact Spec.references_item member
  · rw [Spec.references]
    exact List.Subset.trans (Spec.references_entry member) (List.subset_append_right _ _)

end Value

namespace Spec

open Value

/-- A value that is expanded while some references are being expanded further up. -/
structure Visit where
  active : List String
  value : Value

-- Which values the expansion of a value goes on with: those inside of it, or the target of the
-- reference that it is, unless that one is being expanded already.
inductive Visit.Calls (root : Value) (v : Visit) : Visit → Prop
  | part {part : Value} (plain : v.value.reference? = none) (inside : part ∈ v.value.parts) :
      Calls root v ⟨v.active, part⟩
  | target {reference : String} {target : Value} (refers : v.value.reference? = some reference)
      (internal : isInternal reference = true) (isNew : reference ∉ v.active)
      (leads : lookup root reference = .ok target) : Calls root v ⟨reference :: v.active, target⟩

def IsBranch (root : Value) (branch : List Visit) : Prop :=
  branch.head? = some ⟨[], root⟩ ∧ branch.IsChain (Visit.Calls root)

-- All visits of a branch but the last are gone on with, so that their references are expanded.
def expandedAlong (branch : List Visit) : List String :=
  branch.dropLast.filterMap (·.value.reference?)

def internalReferences (root : Value) : List String := ((references root).filter isInternal).dedup

def depthBound (root : Value) : Nat := ((internalReferences root).length + 1) * root.height

section Branches

variable {root : Value} {v w : Visit}

structure Visit.Within (root : Value) (v : Visit) : Prop where
  distinct : v.active.Nodup
  known : v.active ⊆ internalReferences root
  references : references v.value ⊆ references root
  height : v.value.height ≤ root.height

theorem mem_internalReferences {value : Value} {reference : String}
    (inside : references value ⊆ references root) (refers : value.reference? = some reference)
    (internal : isInternal reference = true) : reference ∈ internalReferences root := by
  have known := inside (mem_references refers)
  simp [internalReferences, known, internal]

theorem Visit.Within.calls (within : v.Within root) (calls : v.Calls root w) : w.Within root := by
  obtain ⟨distinct, known, references, height⟩ := within
  cases calls with
  | part plain inside =>
    have lower := Nat.le_of_lt (height_part inside)
    exact ⟨distinct, known, List.Subset.trans (references_part inside) references,
      Nat.le_trans lower height⟩
  | target refers internal isNew leads =>
    refine ⟨List.nodup_cons.2 ⟨isNew, distinct⟩, ?_, lookup_references leads, ?_⟩
    · exact List.cons_subset.2 ⟨mem_internalReferences references refers internal, known⟩
    · refine lookup_inherits (·.height ≤ root.height) (Nat.le_refl _) ?_ leads
      intro value step child bounded isChild
      have lower := height_part (mem_parts_of_child isChild)
      omega

def Visit.measure (root : Value) (v : Visit) : Nat :=
  ((internalReferences root).length - v.active.length) * root.height + v.value.height

theorem Visit.Within.length_active_le (within : v.Within root) :
    v.active.length ≤ (internalReferences root).length :=
  (List.subperm_of_subset within.distinct within.known).length_le

-- A target may be as high as the root, but the reference to it is used up.
theorem Visit.Within.measure_lt (within : v.Within root) (calls : v.Calls root w) :
    w.measure root < v.measure root := by
  have after := within.calls calls
  cases calls with
  | part plain inside => exact Nat.add_lt_add_left (height_part inside) _
  | @target reference target refers internal isNew leads =>
    have room : v.active.length + 1 ≤ (internalReferences root).length := after.length_active_le
    have bounded : target.height ≤ root.height := after.height
    have positive := height_pos v.value
    have fewer : (internalReferences root).length - v.active.length =
        (internalReferences root).length - (v.active.length + 1) + 1 := by omega
    simp only [measure, List.length_cons, fewer, Nat.add_mul, Nat.one_mul]
    omega

theorem length_lt_measure {visits : List Visit} (within : v.Within root)
    (chain : (v :: visits).IsChain (Visit.Calls root)) : visits.length < v.measure root := by
  induction visits generalizing v with
  | nil =>
    have := height_pos v.value
    simp only [List.length_nil, Visit.measure]
    omega
  | cons w rest ih =>
    obtain ⟨calls, further⟩ := List.isChain_cons_cons.1 chain
    have shorter := ih (within.calls calls) further
    have less := within.measure_lt calls
    simp only [List.length_cons]
    omega

theorem within_start (root : Value) : Visit.Within root ⟨[], root⟩ :=
  ⟨List.nodup_nil, List.nil_subset _, List.Subset.refl _, Nat.le_refl _⟩

theorem measure_start (root : Value) : Visit.measure root ⟨[], root⟩ = depthBound root := by
  simp [Visit.measure, depthBound, Nat.add_mul]

theorem length_le_depthBound {visits : List Visit}
    (chain : (⟨[], root⟩ :: visits : List Visit).IsChain (Visit.Calls root)) :
    (⟨[], root⟩ :: visits : List Visit).length ≤ depthBound root := by
  have short := length_lt_measure (within_start root) chain
  rwa [measure_start] at short

theorem expandedAlong_cons_cons (visits : List Visit) :
    expandedAlong (v :: w :: visits) =
      v.value.reference?.toList ++ expandedAlong (w :: visits) := by
  cases refers : v.value.reference? <;> simp [expandedAlong, refers]

-- What is being expanded further up is not expanded again.
theorem expandedAlong_nodup {visits : List Visit}
    (chain : (v :: visits).IsChain (Visit.Calls root)) :
    (expandedAlong (v :: visits)).Nodup ∧ ∀ reference ∈ v.active,
      reference ∉ expandedAlong (v :: visits) := by
  induction visits generalizing v with
  | nil => simp [expandedAlong]
  | cons w rest ih =>
    obtain ⟨calls, further⟩ := List.isChain_cons_cons.1 chain
    obtain ⟨distinct, absent⟩ := ih further
    rw [expandedAlong_cons_cons]
    cases calls with
    | part plain inside => simpa [plain] using ⟨distinct, absent⟩
    | @target reference target refers internal isNew leads =>
      obtain ⟨isOnce, others⟩ := List.forall_mem_cons.1 absent
      rw [refers, Option.toList_some, List.singleton_append]
      refine ⟨List.nodup_cons.2 ⟨isOnce, distinct⟩, fun other member => ?_⟩
      have differs : other ≠ reference := fun same => isNew (same ▸ member)
      exact List.not_mem_cons_of_ne_of_not_mem differs (others other member)

theorem IsBranch.exists_cons {branch : List Visit} (isBranch : IsBranch root branch) :
    ∃ visits, branch = ⟨[], root⟩ :: visits ∧
      (⟨[], root⟩ :: visits : List Visit).IsChain (Visit.Calls root) := by
  obtain ⟨starts, chain⟩ := isBranch
  cases branch with
  | nil => cases starts
  | cons first visits =>
    cases starts
    exact ⟨visits, rfl, chain⟩

end Branches

inductive Halt
  | tooDeep
  | failed (failure : SpecFailure)

-- The expansion that keeps track of the references being expanded, down to a given depth.
def expandWithin (root : Value) : Nat → List String → Value → Except Halt Value
  | 0, _, _ => .error .tooDeep
  | depth + 1, active, value =>
    match value with
    | .scalar s => .ok (.scalar s)
    | .tuple items => .ok (.tuple items)
    | .set items => .ok (.set items)
    | .again _ _ => .error (.failed (.crashed .endless))
    | .list items => do return .list (← items.mapM (expandWithin root depth active))
    | .mapping entries =>
      match reference? entries with
      | some reference =>
        if isInternal reference = true ∧ reference ∉ active then do
          let target ← (lookup root reference).mapError .failed
          expandWithin root depth (reference :: active) target
        else .ok (.mapping entries)
      | none => do
        return .mapping (← entries.mapM fun (key, value) => do
          return (key, ← expandWithin root depth active value))

section Depth

variable {root : Value}

theorem exists_of_mapM_error {A B E : Type} {f : A → Except E B} {items : List A} {e : E}
    (failed : items.mapM f = .error e) : ∃ item ∈ items, f item = .error e := by
  induction items with
  | nil => cases failed
  | cons item rest ih =>
    rw [List.mapM_cons] at failed
    rcases bind_eq_error.1 failed with first | ⟨b, -, onward⟩
    · exact ⟨item, List.mem_cons_self, first⟩
    · rcases bind_eq_error.1 onward with later | ⟨bs, -, returned⟩
      · obtain ⟨other, member, found⟩ := ih later
        exact ⟨other, List.mem_cons_of_mem _ member, found⟩
      · cases returned

theorem exists_chain_of_tooDeep {depth : Nat} {active : List String} {value : Value}
    (tooDeep : expandWithin root depth active value = .error .tooDeep) :
    ∃ visits : List Visit, visits.length = depth ∧
      (⟨active, value⟩ :: visits).IsChain (Visit.Calls root) := by
  induction depth generalizing active value with
  | zero => exact ⟨[], rfl, .singleton _⟩
  | succ depth ih =>
    have goesOn {w : Visit} (calls : Visit.Calls root ⟨active, value⟩ w)
        (deeper : expandWithin root depth w.active w.value = .error .tooDeep) :
        ∃ visits : List Visit, visits.length = depth + 1 ∧
          (⟨active, value⟩ :: visits).IsChain (Visit.Calls root) := by
      obtain ⟨visits, length, chain⟩ := ih deeper
      exact ⟨w :: visits, by simp [length], List.isChain_cons_cons.2 ⟨calls, chain⟩⟩
    cases value with
    | scalar | tuple | set | again =>
      rw [expandWithin] at tooDeep
      cases tooDeep
    | list items =>
      rw [expandWithin] at tooDeep
      rcases bind_eq_error.1 tooDeep with inside | ⟨_, -, returned⟩
      · obtain ⟨item, member, deeper⟩ := exists_of_mapM_error inside
        exact goesOn (.part rfl member) deeper
      · cases returned
    | mapping entries =>
      rw [expandWithin] at tooDeep
      split at tooDeep
      next reference refers =>
        split at tooDeep
        next expands =>
          rcases bind_eq_error.1 tooDeep with unfound | ⟨target, leads, deeper⟩
          · cases found : lookup root reference <;> simp [found, Except.mapError] at unfound
          · exact goesOn (.target refers expands.1 expands.2 (mapError_eq_ok.1 leads)) deeper
        next => cases tooDeep
      next plain =>
        rcases bind_eq_error.1 tooDeep with inside | ⟨_, -, returned⟩
        · obtain ⟨⟨key, part⟩, member, found⟩ := exists_of_mapM_error inside
          rcases bind_eq_error.1 found with deeper | ⟨_, -, returned⟩
          · exact goesOn (.part plain (List.mem_map.2 ⟨_, member, rfl⟩)) deeper
          · cases returned
        · cases returned

def Agrees {A : Type} (within : Except Halt A) (result : Except SpecFailure A) : Prop :=
  within ≠ .error .tooDeep → within = result.mapError .failed

theorem Agrees.of_mapError {A : Type} (result : Except SpecFailure A) :
    Agrees (result.mapError .failed) result := fun _ => rfl

theorem Agrees.ok {A : Type} (a : A) : Agrees (.ok a) (.ok a) := fun _ => rfl

theorem Agrees.bind {A B : Type} {within : Except Halt A} {result : Except SpecFailure A}
    {next : A → Except Halt B} {goal : A → Except SpecFailure B} (first : Agrees within result)
    (later : ∀ a, result = .ok a → Agrees (next a) (goal a)) :
    Agrees (within >>= next) (result >>= goal) := by
  intro finite
  have finiteFirst : within ≠ .error .tooDeep := fun deep => finite (by rw [deep]; rfl)
  rw [first finiteFirst] at finite ⊢
  cases result with
  | error e => rfl
  | ok a => exact later a rfl finite

variable {fresh : List String}

theorem expandItems_agrees {f : Value → Except Halt Value} {items : List Value}
    (each : ∀ item ∈ items, Agrees (f item) (expand root fresh item)) :
    Agrees (items.mapM f) (expandItems root fresh items) := by
  induction items with
  | nil =>
    rw [expandItems]
    exact .ok []
  | cons item rest ih =>
    obtain ⟨first, others⟩ := List.forall_mem_cons.1 each
    rw [List.mapM_cons, expandItems]
    exact first.bind fun _ _ => (ih others).bind fun _ _ => .ok _

theorem expandEntries_agrees {f : Value → Except Halt Value} {entries : Entries}
    (each : ∀ entry ∈ entries, Agrees (f entry.2) (expand root fresh entry.2)) :
    Agrees (entries.mapM fun (key, value) => do return (key, ← f value))
      (expandEntries root fresh entries) := by
  induction entries with
  | nil =>
    rw [expandEntries]
    exact .ok []
  | cons entry rest ih =>
    obtain ⟨key, value⟩ := entry
    obtain ⟨first, others⟩ := List.forall_mem_cons.1 each
    rw [List.mapM_cons, expandEntries, bind_assoc]
    refine first.bind fun _ _ => ?_
    rw [pure_bind]
    exact (ih others).bind fun _ _ => .ok _

-- To keep the references that are not being expanded is to keep those that are.
theorem expandWithin_agrees {depth : Nat} {active : List String} {value : Value}
    (complement : ∀ reference ∈ references root, reference ∈ fresh ↔ reference ∉ active)
    (inside : references value ⊆ references root) :
    Agrees (expandWithin root depth active value) (expand root fresh value) := by
  induction depth generalizing active fresh value with
  | zero => exact fun finite => absurd rfl finite
  | succ depth ih =>
    cases value with
    | scalar | tuple | set | again =>
      rw [expandWithin, expand]
      exact fun _ => rfl
    | list items =>
      rw [expandWithin, expand]
      refine (expandItems_agrees fun item member => ?_).bind fun _ _ => .ok _
      have isPart : item ∈ (list items).parts := member
      exact ih complement (List.Subset.trans (references_part isPart) inside)
    | mapping entries =>
      rw [expandWithin, expand]
      cases refers : reference? entries with
      | none =>
        refine (expandEntries_agrees fun entry member => ?_).bind fun _ _ => .ok _
        have isPart : entry.2 ∈ (mapping entries).parts := List.mem_map.2 ⟨entry, member, rfl⟩
        exact ih complement (List.Subset.trans (references_part isPart) inside)
      | some reference =>
        have known : reference ∈ references root := inside (mem_references refers)
        by_cases internal : isInternal reference = true
        · by_cases isActive : reference ∈ active
          · have used : reference ∉ fresh := fun isFresh => (complement _ known).1 isFresh isActive
            simpa [internal, isActive, used] using Agrees.ok (mapping entries)
          · have isFresh : reference ∈ fresh := (complement _ known).2 isActive
            simp only [internal, isActive, isFresh, not_false_eq_true, and_self, if_true, dite_true]
            refine (Agrees.of_mapError _).bind fun target leads => ih ?_ (lookup_references leads)
            intro other isOther
            rw [List.mem_filter, complement other isOther]
            simp [not_or, and_comm]
        · simpa [internal] using Agrees.ok (mapping entries)

end Depth

/-- Inlining ends. No branch of the expansion expands a reference twice; where it expands none it
goes down, and it is no longer than the bound. The expansion that keeps track of the references
being expanded goes as deep as a branch only, so that with the depth of the bound it gives what
inlining gives: a result or a report, if the value does not contain itself. -/
theorem inlined_ends (root : Value) :
    (∀ branch, IsBranch root branch → (expandedAlong branch).Nodup ∧
      branch.IsChain (fun before after =>
        before.value.reference? = none → after.value.height < before.value.height) ∧
      branch.length ≤ depthBound root) ∧
    (∀ depth, expandWithin root depth [] root = .error .tooDeep →
      ∃ branch, IsBranch root branch ∧ branch.length = depth + 1) ∧
    (∀ depth, depthBound root ≤ depth →
      expandWithin root depth [] root = (inlined root).mapError .failed) ∧
    (root.isEndless = false → Answers (inlined root)) := by
  refine ⟨fun branch isBranch => ?_, fun depth tooDeep => ?_, fun depth enough => ?_,
    fun finite => expand_answers finite _ root finite⟩
  · obtain ⟨visits, rfl, chain⟩ := isBranch.exists_cons
    refine ⟨(expandedAlong_nodup chain).1, chain.imp fun before after calls plain => ?_,
      length_le_depthBound chain⟩
    cases calls with
    | part _ inside => exact height_part inside
    | target refers => simp [plain] at refers
  · obtain ⟨visits, length, chain⟩ := exists_chain_of_tooDeep tooDeep
    exact ⟨⟨[], root⟩ :: visits, ⟨rfl, chain⟩, by simp [length]⟩
  · have agrees : Agrees (expandWithin root depth [] root) (inlined root) :=
      expandWithin_agrees (by simp) (List.Subset.refl _)
    apply agrees
    intro tooDeep
    obtain ⟨visits, length, chain⟩ := exists_chain_of_tooDeep tooDeep
    have short := length_le_depthBound chain
    rw [List.length_cons] at short
    omega

-- Both references of the loop are expanded, and the first is met once more at the end.
def loopingBranch : List Visit :=
  [⟨[], looping⟩, ⟨[], pointer "#/b/0"⟩,
    ⟨["#/b/0"], .mapping [(.text "x", .int 1), (.text "next", pointer "#/a")]⟩,
    ⟨["#/b/0"], pointer "#/a"⟩, ⟨["#/a", "#/b/0"], pointer "#/b/0"⟩]

theorem loopingBranch_isBranch : IsBranch looping loopingBranch := by
  have item : lookup looping "#/b/0" =
      .ok (.mapping [(.text "x", .int 1), (.text "next", pointer "#/a")]) := by cbv
  have back : lookup looping "#/a" = .ok (pointer "#/b/0") := by cbv
  refine ⟨rfl, ?_⟩
  unfold loopingBranch
  simp only [List.isChain_cons_cons, List.isChain_singleton, and_true]
  refine ⟨.part (by decide) (.head _), .target (by decide) (by decide) (by decide) item,
    .part (by decide) (.tail _ (.head _)), .target (by decide) (by decide) (by decide) back⟩

theorem inlined_ends_looping :
    depthBound looping = 15 ∧ expandedAlong loopingBranch = ["#/b/0", "#/a"] ∧
      (expandedAlong loopingBranch).Nodup ∧ loopingBranch.length ≤ 15 ∧
      expandWithin looping 15 [] looping = .ok looped := by
  have bound : depthBound looping = 15 := by decide +kernel
  have inlines : inlined looping = .ok looped := by cbv
  obtain ⟨along, -, deep, -⟩ := inlined_ends looping
  obtain ⟨distinct, -, short⟩ := along loopingBranch loopingBranch_isBranch
  have expanded := deep 15 (by rw [bound])
  rw [inlines] at expanded
  exact ⟨bound, by decide, distinct, by rwa [bound] at short, expanded⟩

end Spec

end ApiCatalog
