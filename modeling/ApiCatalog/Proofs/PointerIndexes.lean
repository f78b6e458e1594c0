import ApiCatalog.Proofs.Numerals
import ApiCatalog.Proofs.Results
import ApiCatalog.Spec.Pointer
import Mathlib

/-!
How pointers go into lists. A segment should be the index of an item, and what is no index should be
refused. But every numeral is taken for a position, and negative ones count from the end.
-/

set_option autoImplicit false

namespace ApiCatalog.Spec

open Number

/-- A segment is the index of an item: its position from 0 in decimal digits, with no leading
zeros, no sign and nothing around it. -/
def IndexOf (items : List Value) (segment : String) (item : Value) : Prop :=
  ∃ n : Nat, segment = toString n ∧ items[n]? = some item

-- On its way from a place, a pointer applies a segment to a list.
inductive Applies (reference : String) : Place → List String → List Value → String → Prop
  | here {place : Place} {items : List Value} {segment : String} {rest : List String}
      (isList : place.value = .list items) :
      Applies reference place (segment :: rest) items segment
  | later {place : Place} {value : Value} {items : List Value} {first segment : String}
      {rest : List String} (descends : descend reference place.value first = .ok value)
      (onward : Applies reference (place.enter value) rest items segment) :
      Applies reference place (first :: rest) items segment

/-- A segment spells a position in a list, counted from either end, in another way than indexes
do. -/
def Misspelled (items : List Value) (segment : String) : Prop :=
  (∃ position : Int, Numeral segment.toList position ∧ -items.length ≤ position ∧
    position < items.length) ∧ ∀ n : Nat, segment ≠ toString n

/-- A pointer goes into lists by indexes only. -/
structure ByIndex (root : Value) (reference : String) : Prop where
  taken : ∀ target, lookup root reference = .ok target → ∀ items segment,
    Applies reference ⟨root, []⟩ (segments reference) items segment →
      ∃ item, IndexOf items segment item ∧ descend reference (.list items) segment = .ok item
  refused : ∀ items segment, Applies reference ⟨root, []⟩ (segments reference) items segment →
    (¬ ∃ item, IndexOf items segment item) →
      lookup root reference = .error (.reported (.badIndex reference segment)) ∧
      descend reference (.list items) segment = .error (.reported (.badIndex reference segment))
  allowed : ∀ items segment item,
    Applies reference ⟨root, []⟩ (segments reference) items segment →
      IndexOf items segment item → segment.length ≤ maxIntegerDigits →
      descend reference (.list items) segment = .ok item

section Items

variable {items : List Value} {reference segment : String}

theorem itemAt?_ofNat (items : List Value) (n : Nat) : itemAt? items n = items[n]? := by
  unfold itemAt?
  rw [if_neg (by omega), Int.toNat_natCast]

theorem itemAt?_isSome_iff {position : Int} :
    (itemAt? items position).isSome ↔ -items.length ≤ position ∧ position < items.length := by
  unfold itemAt?
  split
  · split
    · simp only [Option.isSome_none, Bool.false_eq_true, false_iff]
      omega
    · rw [isSome_getElem?]
      omega
  · rw [isSome_getElem?]
    omega

-- What a segment leads to in a list: a numeral to the item at its position, if there is one.
theorem descend_list_cases (reference : String) (items : List Value) (segment : String) :
    (∃ position item, Numeral segment.toList position ∧ itemAt? items position = some item ∧
      descend reference (.list items) segment = .ok item) ∨
    (¬ ∃ position : Int, Numeral segment.toList position ∧ -items.length ≤ position ∧
      position < items.length) ∧
      descend reference (.list items) segment =
        .error (.reported (.badIndex reference segment)) := by
  cases found : (readInteger? segment).bind (itemAt? items) with
  | some item =>
    obtain ⟨position, reads, isItem⟩ := Option.bind_eq_some_iff.1 found
    exact .inl ⟨position, item, readInteger?_eq_some_iff.1 reads, isItem, by simp [descend, found]⟩
  | none =>
    refine .inr ⟨?_, by simp [descend, found]⟩
    rintro ⟨position, numeral, inside⟩
    have isItem := itemAt?_isSome_iff.2 inside
    rw [readInteger?_eq_some_iff.2 numeral, Option.bind_some] at found
    simp [found] at isItem

theorem indexOf_of_numeral {n : Nat} {position : Int} {item : Value}
    (numeral : Numeral (toString n).toList position) (isItem : itemAt? items position = some item) :
    IndexOf items (toString n) item := by
  have reads := readInteger?_eq_some_iff.2 numeral
  rw [readInteger?_toString] at reads
  split at reads
  · cases reads
  · cases reads
    exact ⟨n, rfl, by rwa [itemAt?_ofNat] at isItem⟩

theorem IndexOf.descend {item : Value} (isIndex : IndexOf items segment item)
    (short : segment.length ≤ maxIntegerDigits) :
    descend reference (.list items) segment = .ok item := by
  obtain ⟨n, rfl, isItem⟩ := isIndex
  have reads : readInteger? (toString n) = some (n : Int) := by
    rw [readInteger?_toString, if_neg (Nat.not_lt.2 short)]
  rw [Spec.descend, reads, Option.bind_some, itemAt?_ofNat, isItem]

end Items

theorem Applies.fails {reference segment : String} {place : Place} {path : List String}
    {items : List Value} {failure : SpecFailure}
    (applies : Applies reference place path items segment)
    (refused : descend reference (.list items) segment = .error failure) :
    path.foldlM (fun (place : Place) segment => do
      return place.enter (← descend reference place.value segment)) place = .error failure := by
  induction applies with
  | here isList =>
    rw [List.foldlM_cons, isList, refused]
    rfl
  | later descends _ ih =>
    rw [List.foldlM_cons, descends]
    exact ih refused

/-- Pointers go into lists by indexes if and only if they have no segment that spells a position in
another way. -/
theorem lookup_byIndex_iff (root : Value) (reference : String) :
    ByIndex root reference ↔ ∀ items segment,
      Applies reference ⟨root, []⟩ (segments reference) items segment →
        ¬ Misspelled items segment := by
  constructor
  · rintro byIndex items segment applies ⟨⟨position, numeral, inside⟩, other⟩
    have noIndex : ¬ ∃ item, IndexOf items segment item := by
      rintro ⟨item, n, same, -⟩
      exact other n same
    obtain ⟨-, refused⟩ := byIndex.refused items segment applies noIndex
    rcases descend_list_cases reference items segment with ⟨_, item, -, -, descends⟩ | ⟨outside, -⟩
    · rw [refused] at descends
      cases descends
    · exact outside ⟨position, numeral, inside⟩
  · intro spelled
    -- A refusal on the way is what the pointer ends with, and a numeral on the way is an index,
    -- because nothing spells a position in another way.
    have ends {items : List Value} {segment : String}
        (applies : Applies reference ⟨root, []⟩ (segments reference) items segment)
        (refused : descend reference (.list items) segment =
          .error (.reported (.badIndex reference segment))) :
        lookup root reference = .error (.reported (.badIndex reference segment)) :=
      map_eq_error.2 (applies.fails refused)
    have index {items : List Value} {segment : String} {position : Int} {item : Value}
        (applies : Applies reference ⟨root, []⟩ (segments reference) items segment)
        (numeral : Numeral segment.toList position)
        (isItem : itemAt? items position = some item) : IndexOf items segment item := by
      have inside := itemAt?_isSome_iff.1 (Option.isSome_of_mem isItem)
      have canonical : ∃ n : Nat, segment = toString n := by
        by_contra other
        exact spelled items segment applies ⟨⟨position, numeral, inside⟩, by simpa using other⟩
      obtain ⟨n, rfl⟩ := canonical
      exact indexOf_of_numeral numeral isItem
    refine ⟨fun target leads items segment applies => ?_, fun items segment applies noIndex => ?_,
      fun items segment item _ isIndex short => isIndex.descend short⟩
    · rcases descend_list_cases reference items segment with
        ⟨position, item, numeral, isItem, descends⟩ | ⟨-, refused⟩
      · exact ⟨item, index applies numeral isItem, descends⟩
      · rw [ends applies refused] at leads
        cases leads
    · rcases descend_list_cases reference items segment with
        ⟨position, item, numeral, isItem, -⟩ | ⟨-, refused⟩
      · exact absurd ⟨item, index applies numeral isItem⟩ noIndex
      · exact ⟨ends applies refused, refused⟩

-- A list that is looked into from its end.
def listed : Value := .mapping [(.text "a", .list [.int 1, .int 2])]

theorem lookup_byIndex_negative :
    lookup listed "#/a/-1" = .ok (.int 2) ∧
    Applies "#/a/-1" ⟨listed, []⟩ (segments "#/a/-1") [.int 1, .int 2] "-1" ∧
    (¬ ∃ item, IndexOf [.int 1, .int 2] "-1" item) ∧ ¬ ByIndex listed "#/a/-1" := by
  have leads : lookup listed "#/a/-1" = .ok (.int 2) := by cbv
  have applies : Applies "#/a/-1" ⟨listed, []⟩ (segments "#/a/-1") [.int 1, .int 2] "-1" := by
    have path : segments "#/a/-1" = ["a", "-1"] := by cbv
    rw [path]
    exact .later rfl (.here rfl)
  have noIndex : ¬ ∃ item, IndexOf [.int 1, .int 2] "-1" item := by
    rintro ⟨item, n, same, -⟩
    have digits : '-' ∈ (toString n).toList := by
      rw [← same]
      decide
    have spelled : (toString n).toList = Nat.toDigits 10 n := by simp
    rw [spelled] at digits
    exact absurd (Nat.isDigit_of_mem_toDigits (by decide) (by decide) digits) (by decide)
  refine ⟨leads, applies, noIndex, fun byIndex => ?_⟩
  rw [(byIndex.refused _ _ applies noIndex).1] at leads
  cases leads

end ApiCatalog.Spec
