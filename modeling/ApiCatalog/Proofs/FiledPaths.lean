import ApiCatalog.Proofs.TagCategories

/-!
Where the paths of a description go: each one with operations becomes one block of the category that
is named after its tag, or of the category around them if it has none.
-/

set_option autoImplicit false

namespace ApiCatalog.Spec

-- An entry of a path is an operation if it is a mapping under a verb, in whatever letter case.
def operationIn? : Scalar × Value → Option (String × Entries)
  | (.text verb, .mapping operation) =>
    if verbs.contains (Text.lower verb) then some (verb, operation) else none
  | _ => none

def operationsOf (item : Entries) : List (String × Entries) := item.filterMap operationIn?

def servedPath? : Scalar × Value → Option (Scalar × Entries)
  | (path, .mapping item) => if (operationsOf item).isEmpty then none else some (path, item)
  | _ => none

-- The paths that are mappings with at least one operation.
def servedPaths (paths : Entries) : List (Scalar × Entries) := paths.filterMap servedPath?

-- The first tag of the first operation that has tags.
def tagOf (path : Scalar × Entries) : Option String :=
  (operationsOf path.2).findSome? fun operation =>
    (listOrEmpty (Entries.get? "tags" operation.2)).head?.map Value.display

def parametersOf (entries : Entries) : List Value := listOrEmpty (Entries.get? "parameters" entries)

variable (asText : TextReader)

/-- A block has the operations of a path in their order, with their verbs in capitals. -/
structure Renders (path : Scalar × Entries) (api : Api) : Prop where
  address : api.path = path.1.display
  methods : List.Forall₂ (fun operation method => method.verb = Text.upper operation.1 ∧
      convertOperation asText (parametersOf path.2) operation.1 operation.2 = .ok method)
    (operationsOf path.2) api.methods

/-- The category of a description and those inside of it hold its paths. -/
structure Files (paths : Entries) (root : Category) : Prop where
  all : ∃ apis, List.Forall₂ (Renders asText) (servedPaths paths) apis ∧
    (root.apis ++ root.children.flatMap (·.apis)).Perm apis
  -- The category itself holds those without a tag, in order.
  untagged : List.Forall₂ (Renders asText) ((servedPaths paths).filter (tagOf · = none)) root.apis
  -- There is a category for each tag, sorted by name, with the paths of the tag in order.
  tagged : ∃ tags : List String, tags.Pairwise (· < ·) ∧
    (∀ tag, tag ∈ tags ↔ ∃ path ∈ servedPaths paths, tagOf path = some tag) ∧
    List.Forall₂ (fun tag child => child.name = some tag ∧ child.apis ≠ [] ∧ child.children = [] ∧
      List.Forall₂ (Renders asText) ((servedPaths paths).filter (tagOf · = some tag)) child.apis)
      tags root.children

variable {asText}

section Operations

theorem operationIn?_eq {key : Scalar} {value : Value} {found : Option (String × Entries)}
    (isFound : operation? key value = .ok found) : operationIn? (key, value) = found := by
  unfold operation? at isFound
  split at isFound
  next verb =>
    split at isFound
    next isVerb =>
      cases isFound
      cases value <;> simp only [operationIn?, mapping?, if_pos isVerb, Option.map]
    next other =>
      cases isFound
      cases value <;> simp only [operationIn?, if_neg other]
  next =>
    cases isFound
    rfl
  next => cases isFound

theorem tagIn?_eq (entry : Scalar × Value) :
    tagIn? entry = (operationIn? entry).bind fun operation =>
      (listOrEmpty (Entries.get? "tags" operation.2)).head?.map Value.display := by
  fun_cases operationIn? entry with
  | case1 verb operation isVerb => rw [tagIn?, if_pos isVerb, Option.bind_some]
  | case2 verb operation other => rw [tagIn?, if_neg other, Option.bind_none]
  | case3 entry other => rw [tagIn?.eq_2 _ other, Option.bind_none]

theorem tagOf_eq (path : Scalar) (item : Entries) : tagOf (path, item) = item.findSome? tagIn? := by
  unfold tagOf operationsOf
  induction item with
  | nil => rfl
  | cons entry rest ih =>
    rw [List.findSome?_cons, tagIn?_eq, List.filterMap_cons]
    cases operationIn? entry with
    | none => exact ih
    | some operation => simp only [List.findSome?_cons, Option.bind_some, ih]

theorem accept_eq_ok {A : Type} {record : RecordKind} {checked : Checked A} {a : A}
    (accepted : accept record checked = .ok a) : checked = .ok a := by
  cases checked with
  | ok value => exact congrArg Checked.ok (Except.ok.inj accepted)
  | bad issues => cases accepted

-- All that converting an operation does.
theorem convertOperation_cases {pathParameters : List Value} {verb : String} {operation : Entries}
    {method : Method}
    (converts : convertOperation asText pathParameters verb operation = .ok method) :
    ∃ parameters fields body response,
      mergeParameters pathParameters (parametersOf operation) = .ok parameters ∧
      parameterFields asText parameters = .ok fields ∧
      bodyFields asText (Entries.get? "requestBody" operation) = .ok body ∧
      responseFields asText (Entries.get? "responses" operation) = .ok response ∧
      method.verb = Text.upper verb ∧ method.request = blockOf (fields ++ body) ∧
      method.response = blockOf response := by
  obtain ⟨parameters, merged, converts⟩ := bind_eq_ok.1 converts
  obtain ⟨fields, isFields, converts⟩ := bind_eq_ok.1 converts
  obtain ⟨body, isBody, converts⟩ := bind_eq_ok.1 converts
  obtain ⟨response, isResponse, converts⟩ := bind_eq_ok.1 converts
  refine ⟨parameters, fields, body, response, merged, isFields, isBody, isResponse, ?_⟩
  have checked := accept_eq_ok converts
  cases name : optionalText asText "name" (operationName operation) with
  | bad issues =>
    rw [name] at checked
    cases checked
  | ok name' =>
    cases description :
        optionalText asText "description" (Entries.get? "description" operation) with
    | bad issues =>
      rw [name, description] at checked
      cases checked
    | ok description' =>
      rw [name, description] at checked
      cases checked
      exact ⟨rfl, rfl, rfl⟩

theorem convertOperations_methods {pathParameters : List Value} {tag found : Option String}
    {item : Entries} {methods : List Method}
    (converts : convertOperations asText pathParameters tag item = .ok (methods, found)) :
    List.Forall₂ (fun operation method =>
      convertOperation asText pathParameters operation.1 operation.2 = .ok method)
      (operationsOf item) methods := by
  induction item generalizing tag methods with
  | nil =>
    cases converts
    exact .nil
  | cons entry rest ih =>
    obtain ⟨key, value⟩ := entry
    rcases convertOperations_cons converts with ⟨other, onward⟩ |
      ⟨verb, operation, method, later, isOperation, converted, onward, rfl⟩
    · rw [operationsOf, List.filterMap_cons, operationIn?_eq other]
      exact ih onward
    · rw [operationsOf, List.filterMap_cons, operationIn?_eq isOperation]
      exact .cons converted (ih onward)

end Operations

section Paths

theorem convertPath_renders {path : Scalar} {item : Entries} {api : Api} {tag : Option String}
    (converts : convertPath asText path item = .ok (api, tag)) :
    Renders asText (path, item) api ∧ tag = tagOf (path, item) := by
  refine ⟨?_, tagOf_eq path item ▸ (convertPath_tag converts).1⟩
  obtain ⟨text, isShown, onward⟩ := bind_eq_ok.1 converts
  obtain ⟨⟨methods, last⟩, operations, same⟩ := bind_eq_ok.1 onward
  cases same
  refine ⟨shown_eq_display isShown, (convertOperations_methods operations).imp ?_⟩
  intro operation method converted
  obtain ⟨-, -, -, -, -, -, -, -, verb, -⟩ := convertOperation_cases converted
  exact ⟨verb, converted⟩

theorem convertPaths_renders {paths : Entries} {apis : List (Api × Option String)}
    (converts : convertPaths asText paths = .ok apis) :
    List.Forall₂ (fun path entry => Renders asText path entry.1 ∧ entry.2 = tagOf path)
      (servedPaths paths) apis := by
  unfold servedPaths
  fun_induction convertPaths asText paths generalizing apis with
  | case1 =>
    cases converts
    exact .nil
  | case2 path item rest ih =>
    obtain ⟨⟨api, tag⟩, converted, onward⟩ := bind_eq_ok.1 converts
    obtain ⟨later, further, same⟩ := bind_eq_ok.1 onward
    cases same
    have renders := convertPath_renders converted
    -- A path has methods exactly if it has operations.
    have isEmpty : api.methods.isEmpty = (operationsOf item).isEmpty := by
      have sameLength := renders.1.methods.length_eq
      rw [Bool.eq_iff_iff, List.isEmpty_iff_length_eq_zero, List.isEmpty_iff_length_eq_zero,
        sameLength]
    rw [List.filterMap_cons, servedPath?, isEmpty]
    cases (operationsOf item).isEmpty with
    | true => exact ih further
    | false => exact .cons renders (ih further)
  | case3 entry rest other ih =>
    have noPath : servedPath? entry = none := by
      unfold servedPath?
      split
      next path item => exact absurd rfl (other path item)
      next => rfl
    rw [List.filterMap_cons, noPath]
    exact ih converts

end Paths

section Groups

theorem flatMap_filter_perm {A B : Type} [DecidableEq B] (key : A → B) {keys : List B}
    {items : List A} (distinct : keys.Nodup) (covered : ∀ item ∈ items, key item ∈ keys) :
    (keys.flatMap fun k => items.filter (key · = k)).Perm items := by
  induction keys generalizing items with
  | nil =>
    have none : items = [] := List.eq_nil_iff_forall_not_mem.2 fun item member => by
      simpa using covered item member
    simp [none]
  | cons k ks ih =>
    obtain ⟨isNew, distinct⟩ := List.nodup_cons.1 distinct
    have others : (ks.flatMap fun other => items.filter (key · = other)) =
        ks.flatMap fun other =>
          (items.filter fun item => !decide (key item = k)).filter (key · = other) := by
      refine List.flatMap_congr fun other member => ?_
      rw [List.filter_filter]
      refine List.filter_congr fun item _ => ?_
      have differs : other ≠ k := fun same => isNew (same ▸ member)
      by_cases same : key item = other <;> simp [same, differs]
    have left : ∀ item ∈ items.filter fun item => !decide (key item = k), key item ∈ ks := by
      intro item member
      obtain ⟨member, differs⟩ := List.mem_filter.1 member
      exact (List.mem_cons.1 (covered item member)).resolve_left (by simpa using differs)
    rw [List.flatMap_cons, others]
    exact (List.Perm.append_left _ (ih distinct left)).trans (List.filter_append_perm _ items)

variable {paths : Entries} {apis : List (Api × Option String)}

theorem sortedTags_increasing (apis : List (Api × Option String)) :
    (sortedTags apis).Pairwise (· < ·) := by
  have sorted : (sortedTags apis).Pairwise (· ≤ ·) := List.pairwise_mergeSort' _ _
  have distinct : (sortedTags apis).Pairwise (· ≠ ·) := sortedTags_nodup apis
  exact (sorted.and distinct).imp fun ordered => lt_of_le_of_ne ordered.1 ordered.2

-- What the categories hold, with one form of the test for all of them.
theorem apis_rootCategory (apis : List (Api × Option String)) :
    (rootCategory apis).apis = (apis.filter (·.2 = none)).map (·.1) := by
  change (apis.filter fun entry => entry.2.isNone).map (·.1) = _
  congr 2
  funext entry
  rw [Bool.eq_iff_iff, decide_eq_true_iff, Option.isNone_iff_eq_none]

theorem apis_tagCategory (apis : List (Api × Option String)) (tag : String) :
    (tagCategory apis tag).apis = (apis.filter (·.2 = some tag)).map (·.1) := by
  change (apis.filter fun entry => entry.2 == some tag).map (·.1) = _
  congr 2
  funext entry
  rw [Bool.eq_iff_iff, decide_eq_true_iff, beq_iff_eq]

theorem rootCategory_perm (apis : List (Api × Option String)) :
    ((rootCategory apis).apis ++ (rootCategory apis).children.flatMap (·.apis)).Perm
      (apis.map (·.1)) := by
  have distinct : (none :: (sortedTags apis).map some).Nodup :=
    List.nodup_cons.2 ⟨by simp, (sortedTags_nodup apis).map (Option.some_injective _)⟩
  have covered : ∀ entry ∈ apis, entry.2 ∈ none :: (sortedTags apis).map some := by
    rintro ⟨api, tag⟩ member
    cases tag with
    | none => exact List.mem_cons_self
    | some tag =>
      refine List.mem_cons_of_mem _ (List.mem_map_of_mem (mem_sortedTags.2 ?_))
      exact List.mem_filterMap.2 ⟨_, member, rfl⟩
  have grouped := (flatMap_filter_perm Prod.snd distinct covered).map Prod.fst
  rw [List.flatMap_cons, List.map_append, List.map_flatMap, List.flatMap_map] at grouped
  rw [apis_rootCategory, rootCategory, List.flatMap_map]
  simpa only [apis_tagCategory] using grouped

theorem rootCategory_files (rendered : List.Forall₂
      (fun path entry => Renders asText path entry.1 ∧ entry.2 = tagOf path)
      (servedPaths paths) apis) :
    Files asText paths (rootCategory apis) := by
  have each (tag : Option String) : List.Forall₂ (Renders asText)
      ((servedPaths paths).filter (tagOf · = tag)) ((apis.filter (·.2 = tag)).map (·.1)) := by
    rw [List.forall₂_map_right_iff]
    refine (List.rel_filter (fun path entry related => ?_) rendered).imp fun _ _ => And.left
    simp [related.2]
  have isTag (tag : String) :
      tag ∈ sortedTags apis ↔ ∃ path ∈ servedPaths paths, tagOf path = some tag := by
    have sameTags : apis.map (·.2) = (servedPaths paths).map tagOf := by
      rw [← List.forall₂_eq_eq_eq, List.forall₂_map_left_iff, List.forall₂_map_right_iff]
      exact (rendered.imp fun _ _ => And.right).flip
    calc tag ∈ sortedTags apis
      _ ↔ some tag ∈ apis.map (·.2) := by simp [mem_sortedTags]
      _ ↔ ∃ path ∈ servedPaths paths, tagOf path = some tag := by rw [sameTags, List.mem_map]
  refine ⟨⟨apis.map (·.1), ?_, rootCategory_perm apis⟩, ?_,
    sortedTags apis, sortedTags_increasing apis, isTag, ?_⟩
  · rw [List.forall₂_map_right_iff]
    exact rendered.imp fun _ _ => And.left
  · rw [apis_rootCategory]
    exact each none
  · rw [rootCategory, List.forall₂_map_right_iff, List.forall₂_same]
    intro tag member
    have filed : List.Forall₂ (Renders asText) ((servedPaths paths).filter (tagOf · = some tag))
        (tagCategory apis tag).apis := by
      rw [apis_tagCategory]
      exact each (some tag)
    refine ⟨rfl, fun empty => ?_, rfl, filed⟩
    obtain ⟨path, isPath, tagged⟩ := (isTag tag).1 member
    rw [empty, List.forall₂_nil_right_iff] at filed
    have found : path ∈ (servedPaths paths).filter (tagOf · = some tag) :=
      List.mem_filter.2 ⟨isPath, by simpa using tagged⟩
    simp [filed] at found

end Groups

/-- Every path of a description that has operations is in one category, in its place. -/
theorem toDocument_files {spec entries paths : Entries} {d : Document}
    (inlines : inlined (.mapping spec) = .ok (.mapping entries))
    (hasPaths : Entries.get? "paths" entries = some (.mapping paths))
    (converts : toDocument asText spec = .ok d) :
    ∃ root, d.categories = [root] ∧ d.apis = [] ∧ Files asText paths root := by
  obtain ⟨others, config, inlinesToo, ⟨noPaths, -⟩ | ⟨paths', apis, found, converted, rfl⟩⟩ :=
    toDocument_converted converts
  · cases inlines.symm.trans inlinesToo
    simp [hasPaths, mapping?] at noPaths
  · cases inlines.symm.trans inlinesToo
    cases hasPaths.symm.trans (mapping?_eq_some found)
    exact ⟨_, rfl, rfl, rootCategory_files (convertPaths_renders converted)⟩

-- Paths with and without tags, one without operations, and one that is no mapping.
def mixedPaths : Entries :=
  let tagged (tag : String) : Value := .mapping [(.text "tags", .list [.text tag, .text "x"])]
  [(.text "/b", .mapping [(.text "GET", .mapping [])]),
    (.text "/c", .mapping [(.text "get", tagged "z")]),
    (.text "/d", .mapping [(.text "parameters", .list [])]), (.text "/e", .int 5),
    (.text "/f", .mapping [(.text "post", .mapping []), (.text "Put", tagged "a")]),
    (.text "/a", .mapping [(.text "head", .mapping [(.text "tags", .list [])])])]

def mixed : Entries := [(.text "paths", .mapping mixedPaths)]

theorem toDocument_files_mixed :
    (servedPaths mixedPaths).map (·.1.display) = ["/b", "/c", "/f", "/a"] ∧
    (servedPaths mixedPaths).map tagOf = [none, some "z", some "a", none] ∧
    ∃ d root, toDocument Value.checkText mixed = .ok d ∧ d.categories = [root] ∧ d.apis = [] ∧
      Files Value.checkText mixedPaths root := by
  have inlines : inlined (.mapping mixed) = .ok (.mapping mixed) := by cbv
  have succeeds : (toDocument Value.checkText mixed).isOk := by
    rw [toDocument, inlines]
    decide +kernel
  obtain ⟨d, converts⟩ := exists_of_isOk succeeds
  refine ⟨by decide +kernel, by decide +kernel, ?_⟩
  obtain ⟨root, filed⟩ := toDocument_files inlines rfl converts
  exact ⟨d, root, converts, filed⟩

end ApiCatalog.Spec
