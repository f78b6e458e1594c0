import ApiCatalog.Proofs.PointerIndexes
import ApiCatalog.Proofs.ReferenceWalks

/-!
Pointers are written by escaping what they go through. Such a pointer leads to where its path does,
whatever characters the keys are made of.
-/

set_option autoImplicit false

namespace ApiCatalog.Spec

open Number

/-- What a pointer can name: an entry by its key, or an item by its position. -/
inductive PointerStep
  | key (name : String)
  | position (index : Nat)
  deriving DecidableEq, Repr

def PointerStep.pathStep : PointerStep → PathStep
  | .key name => .key (.text name)
  | .position index => .position index

def PointerStep.text : PointerStep → String
  | .key name => name
  | .position index => toString index

def escapeChar (c : Char) : List Char :=
  if c = '~' then ['~', '0'] else if c = '/' then ['~', '1'] else [c]

def escape (cs : List Char) : List Char := cs.flatMap escapeChar

def PointerStep.escaped (step : PointerStep) : String := String.ofList (escape step.text.toList)

def pointerTo (path : List PointerStep) : String :=
  "#/" ++ "/".intercalate (path.map PointerStep.escaped)

def Place.walk? : Place → List PointerStep → Option Place
  | place, [] => some place
  | place, step :: rest =>
    (place.value.child? step.pathStep).bind fun child => (place.enter child).walk? rest

section Escaping

variable {cs : List Char}

theorem slash_not_mem_escape (cs : List Char) : '/' ∉ escape cs := by
  intro member
  obtain ⟨c, -, among⟩ := List.mem_flatMap.1 member
  unfold escapeChar at among
  split at among
  · simp at among
  · next noTilde =>
    split at among
    · simp at among
    · next noSlash => exact noSlash (List.mem_singleton.1 among).symm

theorem decodeSlashes_cons {c : Char} (noTilde : c ≠ '~') (cs : List Char) :
    decodeSlashes (c :: cs) = c :: decodeSlashes cs := by
  rw [decodeSlashes.eq_2]
  exact fun _ isTilde => absurd isTilde noTilde

theorem decodeTildes_cons {c : Char} (noTilde : c ≠ '~') (cs : List Char) :
    decodeTildes (c :: cs) = c :: decodeTildes cs := by
  rw [decodeTildes.eq_2]
  exact fun _ isTilde => absurd isTilde noTilde

-- The zero of an escaped tilde keeps it apart from a one behind it.
theorem decodeSlashes_escape (cs : List Char) :
    decodeSlashes (escape cs) = cs.flatMap fun c => if c = '~' then ['~', '0'] else [c] := by
  induction cs with
  | nil => rfl
  | cons c rest ih =>
    rw [escape, List.flatMap_cons, List.flatMap_cons, ← escape, ← ih, escapeChar]
    by_cases isTilde : c = '~'
    · subst isTilde
      have onward : decodeSlashes ('~' :: '0' :: escape rest) =
          '~' :: decodeSlashes ('0' :: escape rest) := by
        rw [decodeSlashes.eq_2]
        rintro more - ⟨⟩
      exact onward.trans (congrArg _ (decodeSlashes_cons (by decide) _))
    · by_cases isSlash : c = '/'
      · subst isSlash
        rfl
      · rw [if_neg isTilde, if_neg isSlash, if_neg isTilde]
        exact decodeSlashes_cons isTilde _

theorem decodeSegment_escape (cs : List Char) : decodeSegment (escape cs) = cs := by
  rw [decodeSegment, decodeSlashes_escape]
  induction cs with
  | nil => rfl
  | cons c rest ih =>
    rw [List.flatMap_cons]
    by_cases isTilde : c = '~'
    · subst isTilde
      exact congrArg _ ih
    · rw [if_neg isTilde, List.singleton_append, decodeTildes_cons isTilde, ih]

theorem segments_pointerTo {path : List PointerStep} (held : path ≠ []) :
    segments (pointerTo path) = path.map PointerStep.text := by
  have behind : (pointerTo path).toList.drop 2 =
      ['/'].intercalate (path.map fun step => escape step.text.toList) := by
    simp [pointerTo, PointerStep.escaped, Function.comp_def]
  have apart : ∀ segment ∈ path.map fun step => escape step.text.toList, '/' ∉ segment := by
    intro segment member
    obtain ⟨step, -, rfl⟩ := List.mem_map.1 member
    exact slash_not_mem_escape _
  rw [segments, behind, List.splitOn_intercalate '/' apart (by simpa using held), List.map_map]
  refine List.map_congr_left fun step _ => ?_
  rw [Function.comp_apply, decodeSegment_escape, String.ofList_toList]

end Escaping

section Walks

variable {reference : String} {place final : Place} {step : PointerStep} {path : List PointerStep}

theorem descend_of_child? {value child : Value} (isChild : value.child? step.pathStep = some child)
    (short : ∀ n, step = .position n → (toString n).length ≤ maxIntegerDigits) :
    descend reference value step.text = .ok child := by
  cases step with
  | key name =>
    cases value with
    | mapping entries =>
      have found : Entries.get? name entries = some child := isChild
      rw [PointerStep.text, descend, found]
    | _ => cases isChild
  | position index =>
    cases value with
    | list items => exact IndexOf.descend ⟨index, rfl, isChild⟩ (short index rfl)
    | _ => cases isChild

theorem Place.walk?_leads (leads : place.walk? path = some final)
    (short : ∀ n, .position n ∈ path → (toString n).length ≤ maxIntegerDigits) :
    (path.map PointerStep.text).foldlM (fun (place : Place) segment => do
      return place.enter (← descend reference place.value segment)) place = .ok final := by
  induction path generalizing place with
  | nil =>
    cases leads
    rfl
  | cons step rest ih =>
    obtain ⟨child, isChild, onward⟩ := Option.bind_eq_some_iff.1 leads
    have descends : descend reference place.value step.text = .ok child :=
      descend_of_child? isChild fun n same => short n (by simp [same])
    rw [List.map_cons, List.foldlM_cons, descends]
    exact ih onward fun n member => short n (List.mem_cons_of_mem _ member)

end Walks

/-- A pointer made by escaping leads to where its path does, through keys of any characters. A
position has to be as short as numbers may be, as it is in every list that fits into a memory. -/
theorem lookup_pointerTo (root : Value) {path : List PointerStep} {final : Place} (held : path ≠ [])
    (leads : Place.walk? ⟨root, []⟩ path = some final)
    (short : ∀ n, .position n ∈ path → (toString n).length ≤ maxIntegerDigits) :
    lookup root (pointerTo path) = .ok final.value := by
  rw [lookup, segments_pointerTo held, Place.walk?_leads leads short]
  rfl

-- Keys that look like escapes, and one that is empty.
def tilded : Value :=
  .mapping [(.text "~1", .list [.null, .mapping [(.text "~0/a", .mapping [(.text "", .int 7)])]])]

def tildedPath : List PointerStep := [.key "~1", .position 1, .key "~0/a", .key ""]

theorem lookup_pointerTo_tilded :
    pointerTo tildedPath = "#/~01/1/~00~1a/" ∧
    lookup tilded (pointerTo tildedPath) = .ok (.int 7) := by
  refine ⟨by decide +kernel, ?_⟩
  obtain ⟨final, leads, value⟩ : ∃ final, Place.walk? ⟨tilded, []⟩ tildedPath = some final ∧
      final.value = .int 7 := ⟨_, rfl, rfl⟩
  rw [← value]
  refine lookup_pointerTo tilded (by decide) leads fun n member => ?_
  obtain rfl : n = 1 := by simpa [tildedPath] using member
  decide +kernel

end ApiCatalog.Spec
