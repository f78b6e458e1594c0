import ApiCatalog.Proofs.ReferenceWalks
import ApiCatalog.Externals.Standard
import ApiCatalog.Spec.Convert

/-!
A text is converted or refused with a report, unless it cannot be decoded for a reason that is not
foreseen, contains itself, or has an integer as an example that exceeds the doubles.
-/

set_option autoImplicit false

namespace ApiCatalog.Spec

open Value

def isHuge : Option Value → Bool
  | some (.scalar (.int n)) => (Binary64.ofInt? n).isNone
  | _ => false

mutual
def hasHugeSample : Value → Bool
  | .list items => anyHugeSample items
  | .mapping entries => isHuge (Entries.get? "example" entries) || anyEntryHugeSample entries
  | _ => false

def anyHugeSample : List Value → Bool
  | [] => false
  | item :: rest => hasHugeSample item || anyHugeSample rest

def anyEntryHugeSample : Entries → Bool
  | [] => false
  | (_, value) :: rest => hasHugeSample value || anyEntryHugeSample rest
end

-- YAML is read if the format says so, or if it says nothing and the text is not JSON.
def ReadsYaml (hint : Hint) (content : String) : Prop :=
  hint = .yaml ∨ hint = .none ∧
    ∃ problem position, Json.ofText content = .error (.malformed problem position)

/-- What no report is made of. -/
inductive Unforeseen (yaml : YamlReader) (hint : Hint) (content : String) : Prop
  | longInteger {digits : Nat} (readsJson : hint ≠ .yaml)
      (found : Json.ofText content = .error (.longInteger digits))
  | yaml {crash : Crash} (readsYaml : ReadsYaml hint content)
      (found : yaml content = .error (.crashed crash))
  | endless {spec : Entries} (decoded : decode yaml hint content = .ok spec)
      (found : isEndless (.mapping spec) = true)
  | hugeSample {spec : Entries} {expanded : Value} (decoded : decode yaml hint content = .ok spec)
      (inlines : inlined (.mapping spec) = .ok expanded) (found : hasHugeSample expanded = true)

-- A computation that gives a result or reports why it has none.
def Answers {A : Type} (result : Except SpecFailure A) : Prop :=
  ∀ crash, result ≠ .error (.crashed crash)

namespace Answers

variable {A B : Type}

theorem ok (a : A) : Answers (.ok a) := nofun

theorem reported (e : SpecError) : Answers (A := A) (.error (.reported e)) := nofun

theorem cases {result : Except SpecFailure A} (answers : Answers result) :
    (∃ a, result = .ok a) ∨ ∃ e, result = .error (.reported e) := by
  match result, answers with
  | .ok a, _ => exact .inl ⟨a, rfl⟩
  | .error (.reported e), _ => exact .inr ⟨e, rfl⟩
  | .error (.crashed crash), answers => exact absurd rfl (answers crash)

theorem bind {result : Except SpecFailure A} {next : A → Except SpecFailure B}
    (first : Answers result) (later : ∀ a, result = .ok a → Answers (next a)) :
    Answers (result >>= next) := by
  intro crash crashed
  rcases bind_eq_error.1 crashed with early | ⟨a, found, late⟩
  · exact first crash early
  · exact later a found crash late

theorem map {result : Except SpecFailure A} (f : A → B) (answers : Answers result) :
    Answers (result.map f) :=
  fun crash crashed => answers crash (map_eq_error.1 crashed)

theorem mapM {f : A → Except SpecFailure B} {items : List A}
    (each : ∀ item ∈ items, Answers (f item)) : Answers (items.mapM f) := by
  induction items with
  | nil => exact ok []
  | cons item rest ih =>
    rw [List.mapM_cons]
    obtain ⟨first, others⟩ := List.forall_mem_cons.1 each
    exact first.bind fun _ _ => (ih others).bind fun _ _ => ok _

theorem filterM {p : A → Except SpecFailure Bool} {items : List A}
    (each : ∀ item ∈ items, Answers (p item)) : Answers (items.filterM p) := by
  have steps (kept : List A) : Answers (List.filterAuxM p items kept) := by
    induction items generalizing kept with
    | nil => exact ok kept
    | cons item rest ih =>
      obtain ⟨first, others⟩ := List.forall_mem_cons.1 each
      exact first.bind fun _ _ => ih others _
  exact (steps []).bind fun _ _ => ok _

end Answers

theorem mem_of_mapM {A B : Type} {f : A → Except SpecFailure B} {items : List A}
    {results : List B} (mapped : items.mapM f = .ok results) :
    ∀ b ∈ results, ∃ a ∈ items, f a = .ok b := by
  induction items generalizing results with
  | nil =>
    cases mapped
    nofun
  | cons item rest ih =>
    rw [List.mapM_cons] at mapped
    obtain ⟨first, found, onward⟩ := bind_eq_ok.1 mapped
    obtain ⟨later, others, same⟩ := bind_eq_ok.1 onward
    cases same
    intro b member
    rcases List.mem_cons.1 member with rfl | inLater
    · exact ⟨item, List.mem_cons_self, found⟩
    · obtain ⟨a, inRest, found⟩ := ih others b inLater
      exact ⟨a, List.mem_cons_of_mem _ inRest, found⟩

theorem mem_of_filterM {A : Type} {p : A → Except SpecFailure Bool} {items results : List A}
    (filtered : items.filterM p = .ok results) : results ⊆ items := by
  have steps : ∀ kept found : List A, List.filterAuxM p items kept = .ok found →
      found ⊆ items ++ kept := by
    clear filtered
    induction items with
    | nil =>
      intro kept found ends
      cases ends
      exact List.Subset.refl _
    | cons item rest ih =>
      intro kept found ends a member
      obtain ⟨keeps, -, onward⟩ := bind_eq_ok.1 ends
      have before := ih _ found onward member
      cases keeps
      · exact List.mem_cons_of_mem _ before
      · simpa [or_left_comm] using before
  obtain ⟨found, ends, same⟩ := bind_eq_ok.1 filtered
  cases same
  simpa using steps [] found ends

theorem lookup_answers (root : Value) (reference : String) : Answers (lookup root reference) := by
  have descends (value : Value) (segment : String) :
      Answers (descend reference value segment) := by
    unfold descend
    split
    · split
      · exact .ok _
      · exact .reported _
    · split
      · exact .ok _
      · exact .reported _
    · exact .reported _
  have steps (segments : List String) (start : Place) :
      Answers (segments.foldlM (fun (place : Place) segment => do
        return place.enter (← descend reference place.value segment)) start) := by
    induction segments generalizing start with
    | nil => exact .ok start
    | cons segment rest ih =>
      rw [List.foldlM_cons]
      exact ((descends _ _).bind fun _ _ => .ok _).bind fun _ _ => ih _
  exact (steps _ _).map _

section Finite

theorem isEndless_item {items : List Value} {item : Value} (member : item ∈ items)
    (finite : anyEndless items = false) : isEndless item = false := by
  induction items with
  | nil => cases member
  | cons first rest ih =>
    rw [anyEndless, Bool.or_eq_false_iff] at finite
    rcases List.mem_cons.1 member with rfl | later
    · exact finite.1
    · exact ih later finite.2

theorem isEndless_entry {entries : Entries} {key : Scalar} {value : Value}
    (member : (key, value) ∈ entries) (finite : anyEntryEndless entries = false) :
    isEndless value = false := by
  induction entries with
  | nil => cases member
  | cons first rest ih =>
    obtain ⟨otherKey, other⟩ := first
    rw [anyEntryEndless, Bool.or_eq_false_iff] at finite
    rcases List.mem_cons.1 member with same | later
    · cases same
      exact finite.1
    · exact ih later finite.2

theorem isEndless_child {value child : Value} {step : PathStep} (finite : isEndless value = false)
    (isChild : value.child? step = some child) : isEndless child = false := by
  rcases child?_cases isChild with ⟨items, rfl, member⟩ | ⟨entries, key, rfl, member⟩
  · exact isEndless_item member (by simpa only [isEndless] using finite)
  · exact isEndless_entry member (by simpa only [isEndless] using finite)

mutual
theorem expand_answers {root : Value} (finiteRoot : isEndless root = false) (fresh : List String)
    (value : Value) (finite : isEndless value = false) : Answers (expand root fresh value) := by
  rw [expand.eq_def]
  split
  · exact .ok _
  · exact .ok _
  · exact .ok _
  · simp [isEndless] at finite
  · have inside := expandItems_answers finiteRoot fresh _ (by simpa only [isEndless] using finite)
    exact inside.bind fun _ _ => .ok _
  · split
    · split
      · split
        next isFresh =>
          have := length_filter_lt isFresh
          refine (lookup_answers _ _).bind fun target leads => ?_
          exact expand_answers finiteRoot _ target
            (lookup_inherits (isEndless · = false) finiteRoot (fun _ _ _ => isEndless_child) leads)
        next => exact .ok _
      · exact .ok _
    · have inside := expandEntries_answers finiteRoot fresh _
        (by simpa only [isEndless] using finite)
      exact inside.bind fun _ _ => .ok _
termination_by (fresh.length, sizeOf value)

theorem expandItems_answers {root : Value} (finiteRoot : isEndless root = false)
    (fresh : List String) (items : List Value) (finite : anyEndless items = false) :
    Answers (expandItems root fresh items) := by
  cases items with
  | nil =>
    rw [expandItems]
    exact .ok _
  | cons item rest =>
    rw [expandItems]
    rw [anyEndless, Bool.or_eq_false_iff] at finite
    have first := expand_answers finiteRoot fresh item finite.1
    have others := expandItems_answers finiteRoot fresh rest finite.2
    exact first.bind fun _ _ => others.bind fun _ _ => .ok _
termination_by (fresh.length, sizeOf items)

theorem expandEntries_answers {root : Value} (finiteRoot : isEndless root = false)
    (fresh : List String) (entries : Entries) (finite : anyEntryEndless entries = false) :
    Answers (expandEntries root fresh entries) := by
  match entries with
  | [] =>
    rw [expandEntries]
    exact .ok _
  | (key, value) :: rest =>
    rw [expandEntries]
    rw [anyEntryEndless, Bool.or_eq_false_iff] at finite
    have first := expand_answers finiteRoot fresh value finite.1
    have others := expandEntries_answers finiteRoot fresh rest finite.2
    exact first.bind fun _ _ => others.bind fun _ _ => .ok _
termination_by (fresh.length, sizeOf entries)
end

end Finite

section Conversion

variable {asText : TextReader}

def Modest (value : Value) : Prop := hasHugeSample value = false

theorem modest_item {items : List Value} (modest : Modest (.list items)) :
    ∀ item ∈ items, Modest item := by
  have all : anyHugeSample items = false := by simpa only [Modest, hasHugeSample] using modest
  clear modest
  induction items with
  | nil => nofun
  | cons first rest ih =>
    rw [anyHugeSample, Bool.or_eq_false_iff] at all
    exact List.forall_mem_cons.2 ⟨all.1, ih all.2⟩

theorem modest_mapping {entries : Entries} (modest : Modest (.mapping entries)) :
    isHuge (Entries.get? "example" entries) = false ∧ ∀ entry ∈ entries, Modest entry.2 := by
  have parts : isHuge (Entries.get? "example" entries) = false ∧
      anyEntryHugeSample entries = false := by
    simpa only [Modest, hasHugeSample, Bool.or_eq_false_iff] using modest
  refine ⟨parts.1, ?_⟩
  have all := parts.2
  clear modest parts
  induction entries with
  | nil => nofun
  | cons first rest ih =>
    obtain ⟨key, value⟩ := first
    rw [anyEntryHugeSample, Bool.or_eq_false_iff] at all
    exact List.forall_mem_cons.2 ⟨all.1, ih all.2⟩

theorem modest_get? {entries : Entries} (modest : ∀ entry ∈ entries, Modest entry.2) {key : String}
    {value : Value} (found : Entries.get? key entries = some value) : Modest value := by
  obtain ⟨entry, there, rfl⟩ := Option.map_eq_some_iff.1 found
  exact modest entry (List.mem_of_find?_eq_some there)

theorem mapping?_eq_some {value : Option Value} {entries : Entries}
    (found : mapping? value = some entries) : value = some (.mapping entries) := by
  unfold mapping? at found
  split at found
  · cases found
    rfl
  · cases found

theorem modest_listOrEmpty {entries : Entries} (modest : ∀ entry ∈ entries, Modest entry.2)
    (key : String) : ∀ item ∈ listOrEmpty (Entries.get? key entries), Modest item := by
  unfold listOrEmpty
  split
  next items found => exact modest_item (modest_get? modest found)
  next => nofun

theorem shown_answers (value : Value) : Answers (shown value) := by
  unfold shown
  split
  · exact .ok _
  · exact .reported _

theorem accept_answers {A : Type} (record : RecordKind) (checked : Checked A) :
    Answers (accept record checked) := by
  cases checked with
  | ok value => exact .ok _
  | bad issues => exact .reported _

theorem typeName_answers (schema : Entries) : Answers (typeName schema) := by
  unfold typeName
  split
  · exact .ok _
  · split
    · exact shown_answers _
    · exact .ok _
  · exact shown_answers _

theorem sampleOf_answers {value : Option Value} (modest : isHuge value = false) :
    Answers (sampleOf value) := by
  unfold sampleOf
  split
  · exact .ok _
  · exact .ok _
  · exact .ok _
  next n =>
    cases near : Binary64.ofInt? n with
    | none => simp [isHuge, near] at modest
    | some x => exact .ok _
  · exact .ok _

theorem describedField_answers (field : Field) (comment : Option Value) :
    Answers (describedField asText field comment) :=
  (accept_answers _ _).map _

mutual
theorem schemaFields_answers (schema : Entries) (modest : ∀ entry ∈ schema, Modest entry.2) :
    Answers (schemaFields asText schema) := by
  rw [schemaFields.eq_def]
  split
  next properties found =>
    have : sizeOf properties < sizeOf schema := by
      have := Entries.sizeOf_lt_of_get? found
      simp only [Value.mapping.sizeOf_spec] at this
      omega
    exact propertyFields_answers _ properties (modest_mapping (modest_get? modest found)).2
  next => exact .ok _
termination_by sizeOf schema

theorem propertyFields_answers (required : List String) (properties : Entries)
    (modest : ∀ entry ∈ properties, Modest entry.2) :
    Answers (propertyFields asText required properties) := by
  rw [propertyFields.eq_def]
  split
  · exact .ok _
  next name property rest =>
    obtain ⟨first, others⟩ := List.forall_mem_cons.1 modest
    obtain ⟨sample, inside⟩ := modest_mapping first
    refine (typeName_answers _).bind fun type _ => ?_
    extract_lets finish
    have finishes (nested : List Field) : Answers (finish nested) := by
      refine (shown_answers _).bind fun _ _ => (sampleOf_answers sample).bind fun _ _ => ?_
      refine (describedField_answers _ _).bind fun _ _ => ?_
      exact (propertyFields_answers required rest others).bind fun _ _ => .ok _
    split
    · exact (schemaFields_answers property inside).bind fun nested _ => finishes nested
    · split
      · exact (itemFields_answers property inside).bind fun nested _ => finishes nested
      · exact finishes []
  next rest _ =>
    obtain ⟨-, others⟩ := List.forall_mem_cons.1 modest
    exact (shown_answers _).bind fun _ _ =>
      (propertyFields_answers required rest others).bind fun _ _ => .ok _
termination_by sizeOf properties

theorem itemFields_answers (schema : Entries) (modest : ∀ entry ∈ schema, Modest entry.2) :
    Answers (itemFields asText schema) := by
  rw [itemFields.eq_def]
  split
  next items found =>
    have : sizeOf items < sizeOf schema := by
      have := Entries.sizeOf_lt_of_get? found
      simp only [Value.mapping.sizeOf_spec] at this
      omega
    exact schemaFields_answers items (modest_mapping (modest_get? modest found)).2
  next => exact .ok _
termination_by sizeOf schema
end

theorem jsonSchemaIn?_answers (content : Entries) : Answers (jsonSchemaIn? content) := by
  induction content with
  | nil => exact .ok _
  | cons entry rest ih =>
    obtain ⟨mediaType, media⟩ := entry
    rw [jsonSchemaIn?]
    refine (shown_answers _).bind fun type _ => ?_
    split
    · split
      · split
        · exact .ok _
        · exact ih
      · exact ih
    · exact ih

theorem modest_jsonSchemaIn? {content schema : Entries} (modest : ∀ entry ∈ content, Modest entry.2)
    (found : jsonSchemaIn? content = .ok (some schema)) : ∀ entry ∈ schema, Modest entry.2 := by
  induction content with
  | nil => cases found
  | cons entry rest ih =>
    obtain ⟨mediaType, media⟩ := entry
    obtain ⟨first, others⟩ := List.forall_mem_cons.1 modest
    rw [jsonSchemaIn?] at found
    obtain ⟨type, -, found⟩ := bind_eq_ok.1 found
    split at found
    next body isBody =>
      split at found
      next isSchema =>
        split at found
        · cases found
          cases mapping?_eq_some isBody
          have inside := modest_get? (modest_mapping first).2 (mapping?_eq_some isSchema)
          exact (modest_mapping inside).2
        · exact ih others found
      next => exact ih others found
    next => exact ih others found

theorem contentFields_answers {body : Entries} (modest : ∀ entry ∈ body, Modest entry.2) :
    Answers (contentFields asText body) := by
  have inside : ∀ entry ∈ (mapping? (Entries.get? "content" body)).getD [], Modest entry.2 := by
    cases isContent : mapping? (Entries.get? "content" body) with
    | none => nofun
    | some content =>
      exact (modest_mapping (modest_get? modest (mapping?_eq_some isContent))).2
  refine (jsonSchemaIn?_answers _).bind fun schema? found => ?_
  split
  next => exact schemaFields_answers _ (modest_jsonSchemaIn? inside found)
  next => exact .ok _

theorem responseFields_answers {entries : Entries} (modest : ∀ entry ∈ entries, Modest entry.2)
    (key : String) : Answers (responseFields asText (Entries.get? key entries)) := by
  refine (Answers.mapM fun _ _ => (shown_answers _).bind fun _ _ => .ok _).bind
    fun responses listed => ?_
  split
  next response chosen =>
    -- The chosen response is one of those that were listed, with its code written out.
    obtain ⟨code, -, isMapping⟩ := List.exists_of_findSome?_eq_some chosen
    have member : (code, Value.mapping response) ∈ responses := by
      obtain ⟨before, after, listing, -⟩ :=
        List.lookup_eq_some_iff.1 (mapping?_eq_some isMapping)
      exact List.mem_reverse.1 (listing ▸ by simp)
    obtain ⟨⟨code, value⟩, isResponse, written⟩ := mem_of_mapM listed _ member
    obtain ⟨text, -, same⟩ := bind_eq_ok.1 written
    cases same
    cases isListed : mapping? (Entries.get? key entries) with
    | none =>
      rw [isListed] at isResponse
      cases isResponse
    | some listed =>
      rw [isListed] at isResponse
      have inside := modest_mapping (modest_get? modest (mapping?_eq_some isListed))
      exact contentFields_answers (modest_mapping (inside.2 _ isResponse)).2
  next => exact .ok _

theorem bodyFields_answers {entries : Entries} (modest : ∀ entry ∈ entries, Modest entry.2)
    (key : String) : Answers (bodyFields asText (Entries.get? key entries)) := by
  unfold bodyFields
  split
  next isBody =>
    exact contentFields_answers
      (modest_mapping (modest_get? modest (mapping?_eq_some isBody))).2
  next => exact .ok _

theorem parameterKey_answers (parameter : Entries) : Answers (parameterKey parameter) := by
  have part (key : String) : Answers (parameterKey.part parameter key) := by
    unfold parameterKey.part
    dsimp only
    split
    · exact .ok _
    · exact .reported _
  exact (part _).bind fun _ _ => (part _).bind fun _ _ => .ok _

theorem mergeParameters_answers (ofPath ofOperation : List Value) :
    Answers (mergeParameters ofPath ofOperation) := by
  refine (Answers.mapM fun _ _ => parameterKey_answers _).bind fun _ _ => ?_
  exact (Answers.filterM fun _ _ => (parameterKey_answers _).bind fun _ _ => .ok _).bind
    fun _ _ => .ok _

theorem modest_mappings {items : List Value} (modest : ∀ item ∈ items, Modest item) :
    ∀ entries ∈ mappings items, Modest (.mapping entries) := by
  intro entries member
  obtain ⟨item, isItem, isMapping⟩ := List.mem_filterMap.1 member
  cases mapping?_eq_some isMapping
  exact modest _ isItem

theorem modest_mergeParameters {ofPath ofOperation : List Value} {parameters : List Entries}
    (modestPath : ∀ item ∈ ofPath, Modest item)
    (modestOperation : ∀ item ∈ ofOperation, Modest item)
    (merged : mergeParameters ofPath ofOperation = .ok parameters) :
    ∀ parameter ∈ parameters, Modest (.mapping parameter) := by
  obtain ⟨overridden, -, onward⟩ := bind_eq_ok.1 merged
  obtain ⟨inherited, filtered, same⟩ := bind_eq_ok.1 onward
  cases same
  intro parameter member
  rcases List.mem_append.1 member with isInherited | isOwn
  · exact modest_mappings modestPath _ (mem_of_filterM filtered isInherited)
  · exact modest_mappings modestOperation _ isOwn

theorem parameterField?_answers {parameter : Entries} (modest : Modest (.mapping parameter)) :
    Answers (parameterField? asText parameter) := by
  obtain ⟨sample, inside⟩ := modest_mapping modest
  unfold parameterField?
  split
  · exact .ok _
  · split
    · have schemaSample : isHuge ((Entries.get? "example"
          ((mapping? (Entries.get? "schema" parameter)).getD [])).or
            (Entries.get? "example" parameter)) = false := by
        cases isSchema : mapping? (Entries.get? "schema" parameter) with
        | none => simpa [Entries.get?] using sample
        | some schema =>
          have own := (modest_mapping (modest_get? inside (mapping?_eq_some isSchema))).1
          cases example_ : Entries.get? "example" schema with
          | none => simpa [example_] using sample
          | some value => simpa [example_] using own
      refine (shown_answers _).bind fun _ _ => (typeName_answers _).bind fun _ _ => ?_
      exact (sampleOf_answers schemaSample).bind fun _ _ =>
        (describedField_answers _ _).bind fun _ _ => .ok _
    · exact .ok _

theorem convertOperation_answers {pathParameters : List Value} {operation : Entries}
    (modestPath : ∀ item ∈ pathParameters, Modest item)
    (modest : ∀ entry ∈ operation, Modest entry.2) (verb : String) :
    Answers (convertOperation asText pathParameters verb operation) := by
  refine (mergeParameters_answers _ _).bind fun parameters merged => ?_
  have each := modest_mergeParameters modestPath (modest_listOrEmpty modest "parameters") merged
  have fields : Answers (parameterFields asText parameters) :=
    (Answers.mapM fun parameter member => parameterField?_answers (each parameter member)).bind
      fun _ _ => .ok _
  refine fields.bind fun _ _ => (bodyFields_answers modest _).bind fun _ _ => ?_
  exact (responseFields_answers modest _).bind fun _ _ => accept_answers _ _

theorem operation?_answers (key : Scalar) (value : Value) : Answers (operation? key value) := by
  unfold operation?
  split
  · split
    · exact .ok _
    · exact .ok _
  · exact .ok _
  · exact .reported _

theorem firstTag?_answers (operation : Entries) : Answers (firstTag? operation) := by
  unfold firstTag?
  split
  · exact (shown_answers _).map _
  · exact .ok _

theorem operation?_eq_some {key : Scalar} {value : Value} {verb : String} {operation : Entries}
    (found : operation? key value = .ok (some (verb, operation))) : value = .mapping operation := by
  unfold operation? at found
  split at found
  · split at found
    · obtain ⟨entries, isMapping, same⟩ := Option.map_eq_some_iff.1 (Except.ok.inj found)
      cases same
      exact Option.some.inj (mapping?_eq_some isMapping)
    · cases found
  · cases found
  · cases found

theorem convertOperations_answers {pathParameters : List Value} {item : Entries}
    (modestPath : ∀ parameter ∈ pathParameters, Modest parameter)
    (modest : ∀ entry ∈ item, Modest entry.2) (tag : Option String) :
    Answers (convertOperations asText pathParameters tag item) := by
  induction item generalizing tag with
  | nil => exact .ok _
  | cons entry rest ih =>
    obtain ⟨key, value⟩ := entry
    obtain ⟨first, others⟩ := List.forall_mem_cons.1 modest
    rw [convertOperations]
    refine (operation?_answers _ _).bind fun found isFound => ?_
    split
    · exact ih others tag
    next verb operation =>
      cases operation?_eq_some isFound
      extract_lets finish
      have finishes (tag : Option String) : Answers (finish tag) := by
        refine (convertOperation_answers modestPath (modest_mapping first).2 verb).bind
          fun _ _ => ?_
        exact (ih others tag).bind fun _ _ => .ok _
      split
      · exact finishes tag
      · exact (firstTag?_answers _).bind fun _ _ => finishes _

theorem convertPaths_answers {paths : Entries} (modest : ∀ entry ∈ paths, Modest entry.2) :
    Answers (convertPaths asText paths) := by
  induction paths with
  | nil => exact .ok _
  | cons entry rest ih =>
    obtain ⟨path, value⟩ := entry
    obtain ⟨first, others⟩ := List.forall_mem_cons.1 modest
    cases value with
    | mapping item =>
      have inside := (modest_mapping first).2
      have converted : Answers (convertPath asText path item) :=
        (shown_answers _).bind fun _ _ =>
          (convertOperations_answers (modest_listOrEmpty inside "parameters") inside none).bind
            fun _ _ => .ok _
      exact converted.bind fun _ _ => (ih others).bind fun _ _ => .ok _
    | _ => exact ih others

theorem serverUrl?_answers (spec : Entries) : Answers (serverUrl? spec) := by
  unfold serverUrl?
  split
  · split
    · split
      · exact (shown_answers _).map _
      · exact .ok _
    · exact .ok _
  · exact .ok _

theorem convert_answers {spec : Entries} (modest : ∀ entry ∈ spec, Modest entry.2) :
    Answers (convert asText spec) := by
  refine (serverUrl?_answers _).bind fun _ _ => ?_
  split
  · exact .ok _
  next isPaths =>
    have inside := (modest_mapping (modest_get? modest (mapping?_eq_some isPaths))).2
    exact (convertPaths_answers inside).bind fun _ _ => .ok _

end Conversion

theorem requireObject_answers (value : Value) : Answers (requireObject value) := by
  unfold requireObject
  split
  · exact .ok _
  · exact .reported _
  · exact .reported _

section Decoding

variable {yaml : YamlReader} {hint : Hint} {content : String}

theorem decodeYaml_answers (readsYaml : ReadsYaml hint content)
    (foreseen : ¬ Unforeseen yaml hint content) (detail : Option String) :
    Answers (decodeYaml yaml detail content) := by
  unfold decodeYaml
  split
  · exact requireObject_answers _
  · exact .reported _
  next found => exact absurd (.yaml readsYaml found) foreseen

theorem decode_answers (foreseen : ¬ Unforeseen yaml hint content) :
    Answers (decode yaml hint content) := by
  unfold decode
  split
  next isYaml => exact decodeYaml_answers (.inl isYaml) foreseen _
  next isOther =>
    split
    · exact requireObject_answers _
    next found => exact absurd (.longInteger isOther found) foreseen
    next fault isProblem found =>
      dsimp only
      split
      · exact .reported _
      next isNotJson =>
        have isNone : hint = .none := by
          cases hint with
          | json => exact absurd rfl isNotJson
          | yaml => exact absurd rfl isOther
          | none => rfl
        cases fault with
        | malformed problem position =>
          exact decodeYaml_answers (.inr ⟨isNone, problem, position, found⟩) foreseen _
        | longInteger digits => exact absurd rfl (isProblem digits)

end Decoding

/-- A text in whatever format is converted or refused with a report, unless something unforeseen
comes of it. -/
theorem documentOfText_answers {asText : TextReader} {yaml : YamlReader} {format content : String}
    (foreseen : ¬ Unforeseen yaml (.ofFormat format) content) :
    (∃ document, documentOfText asText yaml (.ofFormat format) content = .ok document) ∨
      ∃ e, documentOfText asText yaml (.ofFormat format) content = .error (.reported e) := by
  suffices answers : Answers (documentOfText asText yaml (.ofFormat format) content) from
    answers.cases
  refine (decode_answers foreseen).bind fun spec decoded => ?_
  have finite : isEndless (.mapping spec) = false := by
    cases found : isEndless (.mapping spec) with
    | true => exact absurd (.endless decoded found) foreseen
    | false => rfl
  refine (expand_answers finite _ _ finite).bind fun expanded inlines => ?_
  have modest : Modest expanded := by
    cases found : hasHugeSample expanded with
    | true => exact absurd (.hugeSample decoded inlines found) foreseen
    | false => exact found
  split
  · exact convert_answers (modest_mapping modest).2
  · exact .reported _

theorem foreseen_of_json {yaml : YamlReader} {hint : Hint} {content : String} {spec : Entries}
    {expanded : Value} (readsJson : hint ≠ .yaml) (read : Json.ofText content = .ok (.mapping spec))
    (finite : isEndless (.mapping spec) = false)
    (inlines : inlined (.mapping spec) = .ok expanded)
    (modest : hasHugeSample expanded = false) : ¬ Unforeseen yaml hint content := by
  have decodes : decode yaml hint content = .ok spec := by
    simp [decode, readsJson, read, requireObject]
  intro unforeseen
  cases unforeseen with
  | longInteger _ found => simp [read] at found
  | yaml readsYaml _ =>
    rcases readsYaml with isYaml | ⟨-, problem, position, found⟩
    · exact readsJson isYaml
    · simp [read] at found
  | endless decoded found =>
    cases decodes.symm.trans decoded
    simp [finite] at found
  | hugeSample decoded inlines' found =>
    cases decodes.symm.trans decoded
    cases inlines.symm.trans inlines'
    simp [modest] at found

-- Parameters that are no mapping, or have a number for a name.
def mistyped : Entries :=
  [(.text "paths", .mapping [(.text "/p", .mapping [(.text "get", .mapping [(.text "parameters",
    .list [.int 7, .mapping [(.text "name", .int 1), (.text "example", .int 8)]])])])])]

def mistypedText : String :=
  "\x7b\"paths\": \x7b\"/p\": \x7b\"get\": \x7b\"parameters\": [7, " ++
    "\x7b\"name\": 1, \"example\": 8\x7d]\x7d\x7d\x7d\x7d"

theorem documentOfText_answers_mistyped :
    ¬ Unforeseen Externals.readYaml (.ofFormat "json") mistypedText ∧
      ((∃ document, documentOfText Value.checkText Externals.readYaml (.ofFormat "json")
          mistypedText = .ok document) ∨
        ∃ e, documentOfText Value.checkText Externals.readYaml (.ofFormat "json")
          mistypedText = .error (.reported e)) := by
  have read : Json.ofText mistypedText = .ok (.mapping mistyped) := by cbv
  have inlines : inlined (.mapping mistyped) = .ok (.mapping mistyped) := by cbv
  have foreseen : ¬ Unforeseen Externals.readYaml (.ofFormat "json") mistypedText :=
    foreseen_of_json (by decide) read (by decide) inlines (by decide)
  exact ⟨foreseen, documentOfText_answers foreseen⟩

def crash? {A : Type} : Except SpecFailure A → Option Crash
  | .error (.crashed crash) => some crash
  | _ => none

-- A date of no calendar.
theorem documentOfText_misdated :
    ¬ ((∃ document, documentOfText Value.checkText Externals.readYaml (.ofFormat "yaml")
        "2001-99-99" = .ok document) ∨
      ∃ e, documentOfText Value.checkText Externals.readYaml (.ofFormat "yaml")
        "2001-99-99" = .error (.reported e)) := by
  have crashes : crash? (documentOfText Value.checkText Externals.readYaml (.ofFormat "yaml")
      "2001-99-99") = some (.foreign "YAML date") := by decide
  rintro (⟨document, converted⟩ | ⟨e, reported⟩)
  · simp [converted, crash?] at crashes
  · simp [reported, crash?] at crashes

end ApiCatalog.Spec
