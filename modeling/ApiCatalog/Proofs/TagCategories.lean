import ApiCatalog.Proofs.CategoryNumbers
import ApiCatalog.Proofs.SpecFaults

/-!
The categories of a description are named after its tags, but their ids are made from the tags in
small letters with dashes for spaces. So they are distinct only if no two tags look alike then.
-/

set_option autoImplicit false

namespace ApiCatalog.Spec

-- The first tag of an entry of a path that is an operation and has tags.
def tagIn? : Scalar × Value → Option String
  | (.text verb, .mapping operation) =>
    if verbs.contains (Text.lower verb) then
      (listOrEmpty (Entries.get? "tags" operation)).head?.map Value.display
    else none
  | _ => none

-- The tag of a path is the first tag of its first operation with tags.
def pathTag? : Scalar × Value → Option String
  | (_, .mapping item) => item.findSome? tagIn?
  | _ => none

/-- The tags that the paths of a description are grouped by, with its references inlined. -/
def tagsOf (spec : Entries) : List String :=
  match inlined (.mapping spec) with
  | .ok (.mapping entries) =>
    ((mapping? (Entries.get? "paths" entries)).getD []).filterMap pathTag?
  | _ => []

-- Two characters that ids do not tell apart.
def SameInId (c d : Char) : Prop := c = d ∨ c ∈ [' ', '-'] ∧ d ∈ [' ', '-']

instance (c d : Char) : Decidable (SameInId c d) :=
  inferInstanceAs (Decidable (c = d ∨ c ∈ [' ', '-'] ∧ d ∈ [' ', '-']))

def LookAlike (a b : String) : Prop :=
  List.Forall₂ SameInId (Text.lower a).toList (Text.lower b).toList

instance (a b : String) : Decidable (LookAlike a b) :=
  inferInstanceAs (Decidable (List.Forall₂ SameInId _ _))

section Ids

theorem dashed_eq_iff (c d : Char) :
    ((if c = ' ' then '-' else c) = if d = ' ' then '-' else d) ↔ SameInId c d := by
  unfold SameInId
  by_cases cSpace : c = ' ' <;> by_cases dSpace : d = ' ' <;> grind

theorem categoryId_eq_iff (a b : String) : categoryId a = categoryId b ↔ LookAlike a b := by
  unfold categoryId LookAlike
  rw [String.append_right_inj, String.ofList_inj, ← List.forall₂_eq_eq_eq,
    List.forall₂_map_left_iff, List.forall₂_map_right_iff]
  simp only [dashed_eq_iff]

theorem categoryId_ne_root (tag : String) : categoryId tag ≠ "openapi" := by
  intro same
  have length := congrArg (·.toList.length) same
  simp [categoryId] at length

end Ids

section Tags

theorem eraseDups_nodup {A : Type} [BEq A] [LawfulBEq A] (xs : List A) : xs.eraseDups.Nodup := by
  match xs with
  | [] => simp
  | x :: rest =>
    rw [List.eraseDups_cons, List.nodup_cons]
    exact ⟨by simp, eraseDups_nodup _⟩
termination_by xs.length
decreasing_by exact Nat.lt_succ_of_le (List.length_filter_le _ _)

theorem sortedTags_nodup (apis : List (Api × Option String)) : (sortedTags apis).Nodup :=
  (List.mergeSort_perm _ _).nodup_iff.2 (eraseDups_nodup _)

theorem mem_sortedTags {apis : List (Api × Option String)} {tag : String} :
    tag ∈ sortedTags apis ↔ tag ∈ apis.filterMap (·.2) := by
  simp [sortedTags, List.mem_eraseDups]

end Tags

section Operations

theorem shown_eq_display {value : Value} {text : String} (isShown : shown value = .ok text) :
    text = value.display := by
  unfold shown at isShown
  split at isShown <;> cases isShown
  rfl

theorem operation?_cases {key : Scalar} {value : Value} {verb : String} {operation : Entries}
    (found : operation? key value = .ok (some (verb, operation))) :
    key = .text verb ∧ verbs.contains (Text.lower verb) = true := by
  unfold operation? at found
  split at found
  next name =>
    split at found
    next isVerb =>
      obtain ⟨entries, -, same⟩ := Option.map_eq_some_iff.1 (Except.ok.inj found)
      cases same
      exact ⟨rfl, isVerb⟩
    next => cases found
  next => cases found
  next => cases found

theorem tagIn?_of_other {key : Scalar} {value : Value} (other : operation? key value = .ok none) :
    tagIn? (key, value) = none := by
  unfold tagIn?
  split
  next verb operation entry =>
    cases entry
    split
    next isVerb =>
      rw [operation?, if_pos isVerb] at other
      cases other
    next => rfl
  next => rfl

theorem firstTag?_eq {operation : Entries} {tag : Option String}
    (first : firstTag? operation = .ok tag) :
    tag = (listOrEmpty (Entries.get? "tags" operation)).head?.map Value.display := by
  unfold firstTag? at first
  split at first
  next value others tags =>
    obtain ⟨text, isShown, rfl⟩ := map_eq_ok.1 first
    simp [tags, listOrEmpty, shown_eq_display isShown]
  next noTags =>
    cases first
    unfold listOrEmpty
    split
    next items found =>
      cases items with
      | nil => rfl
      | cons value others => exact absurd found (noTags value others)
    next => rfl

theorem tagIn?_of_operation {key : Scalar} {value : Value} {verb : String} {operation : Entries}
    {tag : Option String} (found : operation? key value = .ok (some (verb, operation)))
    (first : firstTag? operation = .ok tag) : tagIn? (key, value) = tag := by
  obtain ⟨rfl, isVerb⟩ := operation?_cases found
  obtain rfl := operation?_eq_some found
  rw [tagIn?, if_pos isVerb, firstTag?_eq first]

variable {asText : TextReader} {pathParameters : List Value} {tag found : Option String}
  {rest : Entries} {methods : List Method}

theorem convertOperations_cons {key : Scalar} {value : Value}
    (converts : convertOperations asText pathParameters tag ((key, value) :: rest) =
      .ok (methods, found)) :
    (operation? key value = .ok none ∧
      convertOperations asText pathParameters tag rest = .ok (methods, found)) ∨
    ∃ verb operation method later, operation? key value = .ok (some (verb, operation)) ∧
      convertOperation asText pathParameters verb operation = .ok method ∧
      convertOperations asText pathParameters (tag.or (tagIn? (key, value))) rest =
        .ok (later, found) ∧
      methods = method :: later := by
  rw [convertOperations] at converts
  obtain ⟨operation, isFound, onward⟩ := bind_eq_ok.1 converts
  cases operation with
  | none => exact .inl ⟨isFound, onward⟩
  | some pair =>
    obtain ⟨verb, operation⟩ := pair
    obtain ⟨next, isNext, onward⟩ : ∃ next, next = tag.or (tagIn? (key, value)) ∧
        (do
          let method ← convertOperation asText pathParameters verb operation
          let later ← convertOperations asText pathParameters next rest
          return (method :: later.1, later.2)) = .ok (methods, found) := by
      cases tag with
      | some tag => exact ⟨some tag, rfl, onward⟩
      | none =>
        obtain ⟨next, first, onward⟩ := bind_eq_ok.1 onward
        exact ⟨next, by simp [tagIn?_of_operation isFound first], onward⟩
    obtain ⟨method, converted, further⟩ := bind_eq_ok.1 onward
    obtain ⟨⟨later, last⟩, others, same⟩ := bind_eq_ok.1 further
    cases same
    exact .inr ⟨verb, operation, method, later, isFound, converted, isNext ▸ others, rfl⟩

theorem convertOperations_tag
    (converts : convertOperations asText pathParameters tag rest = .ok (methods, found)) :
    found = tag.or (rest.findSome? tagIn?) ∧ (methods = [] → found = tag) := by
  induction rest generalizing tag methods with
  | nil =>
    cases converts
    simp
  | cons entry rest ih =>
    obtain ⟨key, value⟩ := entry
    rcases convertOperations_cons converts with ⟨other, onward⟩ |
      ⟨verb, operation, method, later, -, -, onward, rfl⟩
    · rw [List.findSome?_cons, tagIn?_of_other other]
      exact ih onward
    · obtain ⟨same, -⟩ := ih onward
      refine ⟨?_, nofun⟩
      rw [same, Option.or_assoc, List.findSome?_cons]
      cases tagIn? (key, value) <;> rfl

theorem convertPath_tag {path : Scalar} {item : Entries} {api : Api}
    (converts : convertPath asText path item = .ok (api, tag)) :
    tag = item.findSome? tagIn? ∧ (api.methods = [] → tag = none) := by
  obtain ⟨text, -, onward⟩ := bind_eq_ok.1 converts
  obtain ⟨⟨methods, last⟩, operations, same⟩ := bind_eq_ok.1 onward
  cases same
  simpa using convertOperations_tag operations

theorem convertPaths_tags {paths : Entries} {apis : List (Api × Option String)}
    (converts : convertPaths asText paths = .ok apis) :
    apis.filterMap (·.2) = paths.filterMap pathTag? := by
  fun_induction convertPaths asText paths generalizing apis with
  | case1 =>
    cases converts
    rfl
  | case2 path item rest ih =>
    obtain ⟨⟨api, tag⟩, converted, onward⟩ := bind_eq_ok.1 converts
    obtain ⟨later, further, same⟩ := bind_eq_ok.1 onward
    cases same
    obtain ⟨isTag, unused⟩ := convertPath_tag converted
    have isPathTag : pathTag? (path, .mapping item) = tag := isTag.symm
    rw [List.filterMap_cons, isPathTag]
    -- A path without operations is left out, but it has no tag either.
    by_cases empty : api.methods = []
    · simp [empty, unused empty, ih further]
    · cases tag <;> simp [empty, ih further]
  | case3 entry rest other ih =>
    have noTag : pathTag? entry = none := by
      unfold pathTag?
      split
      next path item => exact absurd rfl (other path item)
      next => rfl
    rw [List.filterMap_cons, noTag]
    exact ih converts

end Operations

section Documents

variable {asText : TextReader}

theorem preorders_root (apis : List (Api × Option String)) :
    preorders [rootCategory apis] =
      rootCategory apis :: (sortedTags apis).map (tagCategory apis) := by
  have leaves (tags : List String) :
      preorders (tags.map (tagCategory apis)) = tags.map (tagCategory apis) := by
    induction tags with
    | nil => rfl
    | cons tag rest ih => simpa [tagCategory] using ih
  simpa [rootCategory] using leaves (sortedTags apis)

theorem preorders_rootCategory (apis : List (Api × Option String)) :
    (preorders [rootCategory apis]).map (·.id) = "openapi" :: (sortedTags apis).map categoryId := by
  rw [preorders_root, List.map_cons, List.map_map]
  rfl

theorem toDocument_converted {spec : Entries} {d : Document}
    (converts : toDocument asText spec = .ok d) :
    ∃ entries config, inlined (.mapping spec) = .ok (.mapping entries) ∧
      (mapping? (Entries.get? "paths" entries) = none ∧ d = { config } ∨
        ∃ paths apis, mapping? (Entries.get? "paths" entries) = some paths ∧
          convertPaths asText paths = .ok apis ∧
          d = { config, categories := [rootCategory apis] }) := by
  obtain ⟨expanded, inlines, onward⟩ := bind_eq_ok.1 converts
  cases expanded with
  | mapping entries =>
    obtain ⟨url, -, onward⟩ := bind_eq_ok.1 onward
    refine ⟨entries, url.map fun url => { baseUrls := [url] }, inlines, ?_⟩
    cases found : mapping? (Entries.get? "paths" entries) with
    | none =>
      simp only [found] at onward
      cases onward
      exact .inl ⟨rfl, rfl⟩
    | some paths =>
      simp only [found] at onward
      obtain ⟨apis, converted, same⟩ := bind_eq_ok.1 onward
      cases same
      exact .inr ⟨paths, apis, rfl, converted, rfl⟩
  | _ => cases onward

-- The same with the tags that the category is made for.
theorem toDocument_cases {spec : Entries} {d : Document}
    (converts : toDocument asText spec = .ok d) :
    d.categories = [] ∧ tagsOf spec = [] ∨
      ∃ apis, d.categories = [rootCategory apis] ∧ apis.filterMap (·.2) = tagsOf spec := by
  obtain ⟨entries, config, inlines, ⟨noPaths, rfl⟩ | ⟨paths, apis, found, converted, rfl⟩⟩ :=
    toDocument_converted converts
  · exact .inl ⟨rfl, by simp [tagsOf, inlines, noPaths]⟩
  · exact .inr ⟨apis, rfl, by simp [tagsOf, inlines, found, convertPaths_tags converted]⟩

/-- The ids of the categories of a description are distinct if and only if no two of its tags look
alike in small letters with spaces and dashes taken for the same. -/
theorem toDocument_ids_nodup_iff {spec : Entries} {d : Document}
    (converts : toDocument asText spec = .ok d) :
    ((preorders d.categories).map (·.id)).Nodup ↔
      ∀ a ∈ tagsOf spec, ∀ b ∈ tagsOf spec, LookAlike a b → a = b := by
  rcases toDocument_cases converts with ⟨noCategory, noTag⟩ | ⟨apis, category, tags⟩
  · simp [noCategory, noTag]
  · have isRoot : "openapi" ∉ (sortedTags apis).map categoryId := by
      intro member
      obtain ⟨tag, -, same⟩ := List.mem_map.1 member
      exact categoryId_ne_root tag same
    rw [category, preorders_rootCategory, List.nodup_cons, and_iff_right isRoot,
      List.nodup_map_iff_inj_on (sortedTags_nodup apis)]
    simp only [mem_sortedTags, tags, categoryId_eq_iff]

end Documents

-- Two paths that are grouped by the given tags.
def taggedSpec (first second : String) : Entries :=
  let path (tag : String) : Value :=
    .mapping [(.text "get", .mapping [(.text "tags", .list [.text tag])])]
  [(.text "paths", .mapping [(.text "/x", path first), (.text "/y", path second)])]

theorem inlined_taggedSpec (first second : String) :
    inlined (.mapping (taggedSpec first second)) = .ok (.mapping (taggedSpec first second)) := by
  cbv

theorem toDocument_taggedSpec (asText : TextReader) (first second : String) :
    toDocument asText (taggedSpec first second) = convert asText (taggedSpec first second) := by
  rw [toDocument, inlined_taggedSpec]
  rfl

theorem tagsOf_taggedSpec (first second : String) :
    tagsOf (taggedSpec first second) = [first, second] := by
  rw [tagsOf, inlined_taggedSpec]
  rfl

theorem toDocument_ids_nodup_apart :
    ∃ d, toDocument Value.checkText (taggedSpec "Pets" "Pet Store") = .ok d ∧
      tagsOf (taggedSpec "Pets" "Pet Store") = ["Pets", "Pet Store"] ∧
      ((preorders d.categories).map (·.id)).Nodup := by
  have tags := tagsOf_taggedSpec "Pets" "Pet Store"
  have succeeds : (convert Value.checkText (taggedSpec "Pets" "Pet Store")).isOk := by
    decide +kernel
  obtain ⟨d, converts⟩ := exists_of_isOk succeeds
  rw [← toDocument_taggedSpec] at converts
  refine ⟨d, converts, tags, (toDocument_ids_nodup_iff converts).2 ?_⟩
  rw [tags]
  decide +kernel

-- What becomes of tags that differ in letter case only.
def alikeDocument : Document :=
  let category (tag path : String) : Category :=
    { id := "openapi-a", name := some tag, apis := [{ path, methods := [{ verb := "GET" }] }] }
  { categories := [
      { id := "openapi", name := some "OpenAPI"
        description := some "Imported from OpenAPI specification"
        children := [category "A" "/x", category "a" "/y"] }] }

theorem toDocument_ids_alike :
    toDocument Value.checkText (taggedSpec "A" "a") = .ok alikeDocument ∧
      (preorders alikeDocument.categories).map (·.id) = ["openapi", "openapi-a", "openapi-a"] ∧
      ¬ ((preorders alikeDocument.categories).map (·.id)).Nodup := by
  have converts : convert Value.checkText (taggedSpec "A" "a") = .ok alikeDocument := by cbv
  refine ⟨?_, by decide, by decide⟩
  rw [toDocument_taggedSpec, converts]

end ApiCatalog.Spec
