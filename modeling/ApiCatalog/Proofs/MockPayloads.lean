import ApiCatalog.Catalog
import ApiCatalog.Proofs.TagCategories

/-!
What mock payloads hold. The names of a block stand in the order in which they first occur, each
with what the last field of the name says, and so on inside of nested blocks.
-/

set_option autoImplicit false

namespace ApiCatalog

-- Each name once, where it first occurs.
def Schema.names (block : Schema) : List String := (block.fields.map (·.name)).eraseDups

-- The field that shadows all others of its name.
def Schema.last? (block : Schema) (name : String) : Option Field :=
  block.fields.findRev? (·.name == name)

theorem FieldType.mockValue_eq_iff {type : FieldType} {name : String} {value : Value} :
    type.mockValue name = value ↔
      type = .string ∧ value = .text ("mock_" ++ name) ∨ type = .number ∧ value = .int 0 ∨
      type = .boolean ∧ value = .bool false ∨ type = .array ∧ value = .list [] ∨
      type = .object ∧ value = .mapping [] := by
  cases type <;> simp [mockValue, eq_comm]

mutual
/-- The value that a payload has for a field. -/
inductive Field.Renders : Field → Value → Prop
  | mock {field : Field} {literal : Literal} (mocked : field.mock = some literal) :
      Field.Renders field literal.toValue
  | nested {field : Field} {block : Schema} {payload : Entries} (unmocked : field.mock = none)
      (isBlock : field.nested = some block) (inside : Schema.Renders block payload) :
      Field.Renders field (.mapping payload)
  | plain {field : Field} (unmocked : field.mock = none) (noBlock : field.nested = none) :
      Field.Renders field (field.type.mockValue field.name)

/-- The payload of a block has its names as keys, and for each the value of its last field. -/
inductive Schema.Renders : Schema → Entries → Prop
  | intro {block : Schema} {payload : Entries}
      (keys : payload.map Prod.fst = block.names.map Scalar.text)
      (values : ∀ name field value, block.last? name = some field →
        Entries.get? name payload = some value → Field.Renders field value) :
      Schema.Renders block payload
end

namespace Entries

variable {name key : String} {value : Value} {entries : Entries}

theorem put_cons (scalar : Scalar) (held : Value) (rest : Entries) :
    put (.text key) value ((scalar, held) :: rest) =
      if scalar = .text key then (scalar, value) :: rest
      else (scalar, held) :: put (.text key) value rest := by
  simp [put, Scalar.sameKey_text]

theorem keys_put : (put (.text key) value entries).map Prod.fst =
    if .text key ∈ entries.map Prod.fst then entries.map Prod.fst
    else entries.map Prod.fst ++ [.text key] := by
  induction entries with
  | nil => simp [put]
  | cons entry rest ih =>
    obtain ⟨scalar, held⟩ := entry
    by_cases same : scalar = .text key
    · simp [put_cons, same]
    · have differs : .text key ≠ scalar := Ne.symm same
      simp only [put_cons, if_neg same, List.map_cons, ih, List.mem_cons, differs, false_or]
      by_cases present : .text key ∈ rest.map Prod.fst
      · rw [if_pos present, if_pos present]
      · rw [if_neg present, if_neg present, List.cons_append]

theorem get?_put : get? name (put (.text key) value entries) =
    if name = key then some value else get? name entries := by
  induction entries with
  | nil => simp [put, get?_cons, eq_comm]
  | cons entry rest ih =>
    obtain ⟨scalar, held⟩ := entry
    by_cases same : scalar = .text key
    · by_cases sought : name = key <;> simp [put_cons, get?_cons, same, sought, Ne.symm]
    · rw [put_cons, if_neg same, get?_cons, get?_cons, ih]
      by_cases sought : name = key
      · rw [if_pos sought, if_pos sought, if_neg (sought ▸ same)]
      · rw [if_neg sought, if_neg sought]

-- With distinct keys nothing but the values under them can differ.
theorem eq_of_get? {others : Entries} {names : List String} (distinct : names.Nodup)
    (keys : entries.map Prod.fst = names.map Scalar.text)
    (otherKeys : others.map Prod.fst = names.map Scalar.text)
    (same : ∀ name ∈ names, get? name entries = get? name others) : entries = others := by
  induction names generalizing entries others with
  | nil => simp_all
  | cons name rest ih =>
    obtain ⟨isNew, distinct⟩ := List.nodup_cons.1 distinct
    obtain ⟨⟨_, value⟩, later, rfl, rfl, laterKeys⟩ := List.map_eq_cons_iff.1 keys
    obtain ⟨⟨_, other⟩, further, rfl, isKey, furtherKeys⟩ := List.map_eq_cons_iff.1 otherKeys
    cases isKey
    have first : value = other := by simpa [get?_cons] using same name List.mem_cons_self
    have others : later = further := by
      refine ih distinct laterKeys furtherKeys fun key member => ?_
      have differs : name ≠ key := fun equal => isNew (equal ▸ member)
      simpa [get?_cons, differs] using same key (List.mem_cons_of_mem _ member)
    rw [first, others]

theorem ofPairs_concat (pairs : List (Scalar × Value)) (scalar : Scalar) (value : Value) :
    ofPairs (pairs ++ [(scalar, value)]) = put scalar value (ofPairs pairs) := by
  simp [ofPairs]

end Entries

section Payloads

theorem eraseDups_concat {A : Type} [DecidableEq A] (xs : List A) (x : A) :
    (xs ++ [x]).eraseDups = if x ∈ xs then xs.eraseDups else xs.eraseDups ++ [x] := by
  rw [List.eraseDups_append, List.removeAll, List.filter_singleton]
  by_cases seen : x ∈ xs <;> simp [seen, List.eraseDups_cons]

theorem mockPairs_eq (fields : List Field) :
    mockPairs fields = fields.map fun field => (.text field.name, field.mockPayload) := by
  induction fields with
  | nil => rfl
  | cons field rest ih => rw [mockPairs, ih, List.map_cons]

theorem mockPairs_concat (fields : List Field) (field : Field) :
    mockPairs (fields ++ [field]) =
      mockPairs fields ++ [(.text field.name, field.mockPayload)] := by
  simp [mockPairs_eq]

variable (fields : List Field)

-- By induction from the end, as each field is put into what those before it have made.
theorem keys_mockPairs : (Entries.ofPairs (mockPairs fields)).map Prod.fst =
    ((fields.map (·.name)).eraseDups).map Scalar.text := by
  induction fields using List.reverseRecOn with
  | nil => rfl
  | append_singleton fields field ih =>
    have present : .text field.name ∈ ((fields.map (·.name)).eraseDups).map Scalar.text ↔
        field.name ∈ fields.map (·.name) := by simp
    rw [mockPairs_concat, Entries.ofPairs_concat, Entries.keys_put, ih, List.map_append,
      List.map_singleton, eraseDups_concat]
    by_cases seen : field.name ∈ fields.map (·.name)
    · rw [if_pos seen, if_pos (present.2 seen)]
    · rw [if_neg seen, if_neg (seen ∘ present.1), List.map_append, List.map_singleton]

theorem get?_mockPairs (name : String) : Entries.get? name (Entries.ofPairs (mockPairs fields)) =
    (fields.findRev? (·.name == name)).map Field.mockPayload := by
  induction fields using List.reverseRecOn with
  | nil => rfl
  | append_singleton fields field ih =>
    rw [mockPairs_concat, Entries.ofPairs_concat, Entries.get?_put, ih]
    by_cases same : field.name = name
    · simp [same]
    · simp [same, Ne.symm same]

end Payloads

namespace Schema

variable {block : Schema} {name : String} {field : Field}

theorem keys_mockPayload (block : Schema) :
    block.mockPayload.map Prod.fst = block.names.map Scalar.text := by
  obtain ⟨fields, optional⟩ := block
  rw [FieldBlock.mockPayload, keys_mockPairs, names]

theorem get?_mockPayload (block : Schema) (name : String) :
    Entries.get? name block.mockPayload = (block.last? name).map Field.mockPayload := by
  obtain ⟨fields, optional⟩ := block
  rw [FieldBlock.mockPayload, get?_mockPairs, last?]

theorem mem_of_last? (isLast : block.last? name = some field) : field ∈ block.fields := by
  rw [last?, List.findRev?_eq_find?_reverse] at isLast
  simpa using List.mem_of_find?_eq_some isLast

theorem exists_last? (member : name ∈ block.names) : ∃ field, block.last? name = some field := by
  obtain ⟨field, isField, named⟩ := List.mem_map.1 (List.mem_eraseDups.1 member)
  apply Option.isSome_iff_exists.1
  rw [last?, List.findRev?_eq_find?_reverse, List.find?_isSome]
  exact ⟨field, List.mem_reverse.2 isField, by simpa using named⟩

end Schema

theorem Entries.exists_get? {name : String} {entries : Entries}
    (member : .text name ∈ entries.map Prod.fst) : ∃ value, get? name entries = some value := by
  induction entries with
  | nil => cases member
  | cons entry rest ih =>
    obtain ⟨scalar, value⟩ := entry
    by_cases same : scalar = .text name
    · exact ⟨value, by rw [get?_cons, if_pos same]⟩
    · have later := (List.mem_cons.1 member).resolve_left (Ne.symm same)
      rw [get?_cons, if_neg same]
      exact ih later

-- What holds of a field if it holds of those right inside of it holds of all fields.
theorem Field.nested_induction {P : Field → Prop}
    (step : ∀ field, (∀ block ∈ field.nested, ∀ inner ∈ block.fields, P inner) → P field)
    (field : Field) : P field :=
  step field fun block isBlock inner member =>
    have smaller : sizeOf inner < sizeOf field := by
      obtain ⟨name, type, optional, nested, mock, sample, comment, isParameter⟩ := field
      obtain ⟨fields, blockOptional⟩ := block
      have inFields : sizeOf inner < sizeOf fields := List.sizeOf_lt_of_mem member
      cases Option.mem_def.1 isBlock
      simp only [Field.mk.sizeOf_spec, Option.some.sizeOf_spec, FieldBlock.mk.sizeOf_spec]
      omega
    Field.nested_induction step inner
termination_by sizeOf field

section Rendering

variable {field : Field} {block : Schema}

theorem Field.mockPayload_of_mock {literal : Literal} (mocked : field.mock = some literal) :
    field.mockPayload = literal.toValue := by
  cases field
  cases mocked
  rw [Field.mockPayload]

theorem Field.mockPayload_of_nested (unmocked : field.mock = none)
    (isBlock : field.nested = some block) : field.mockPayload = .mapping block.mockPayload := by
  cases field
  cases unmocked
  cases isBlock
  rw [Field.mockPayload, nestedPayload]

theorem Field.mockPayload_of_plain (unmocked : field.mock = none) (noBlock : field.nested = none) :
    field.mockPayload = field.type.mockValue field.name := by
  cases field
  cases unmocked
  cases noBlock
  rw [Field.mockPayload, nestedPayload]

-- A block renders to its payload and to nothing else, if its fields do.
theorem Schema.renders_iff_of_fields
    (each : ∀ field ∈ block.fields, ∀ value, field.Renders value ↔ value = field.mockPayload)
    (payload : Entries) : block.Renders payload ↔ payload = block.mockPayload := by
  constructor
  · rintro ⟨keys, values⟩
    have distinct : block.names.Nodup := Spec.eraseDups_nodup _
    refine Entries.eq_of_get? distinct keys block.keys_mockPayload fun name member => ?_
    obtain ⟨field, isLast⟩ := exists_last? member
    obtain ⟨value, found⟩ : ∃ value, Entries.get? name payload = some value :=
      Entries.exists_get? (keys ▸ List.mem_map_of_mem member)
    have rendered := values name field value isLast found
    rw [found, get?_mockPayload, isLast, Option.map_some,
      (each field (mem_of_last? isLast) value).1 rendered]
  · rintro rfl
    refine .intro block.keys_mockPayload fun name field value isLast found => ?_
    rw [get?_mockPayload, isLast] at found
    exact (each field (mem_of_last? isLast) value).2 (Option.some.inj found).symm

theorem Field.renders_iff (field : Field) :
    ∀ value, field.Renders value ↔ value = field.mockPayload := by
  induction field using Field.nested_induction with
  | step field inside =>
    intro value
    constructor
    · intro rendered
      cases rendered with
      | mock mocked => rw [mockPayload_of_mock mocked]
      | nested unmocked isBlock rendered =>
        rw [mockPayload_of_nested unmocked isBlock,
          (Schema.renders_iff_of_fields (inside _ isBlock) _).1 rendered]
      | plain unmocked noBlock => rw [mockPayload_of_plain unmocked noBlock]
    · rintro rfl
      cases mocked : field.mock with
      | some literal =>
        rw [mockPayload_of_mock mocked]
        exact .mock mocked
      | none =>
        cases isBlock : field.nested with
        | some block =>
          rw [mockPayload_of_nested mocked isBlock]
          exact .nested mocked isBlock ((Schema.renders_iff_of_fields (inside _ isBlock) _).2 rfl)
        | none =>
          rw [mockPayload_of_plain mocked isBlock]
          exact .plain mocked isBlock

end Rendering

/-- The payload of a schema is the one mapping that renders it, and without a schema it is that of
a block without fields. -/
theorem mockPayload_renders_iff (schema : Option Schema) (value : Value) :
    (∃ payload, value = .mapping payload ∧ (schema.getD {}).Renders payload) ↔
      value = mockPayload schema := by
  have rendered (payload : Entries) : (schema.getD {}).Renders payload ↔
      payload = (schema.map FieldBlock.mockPayload).getD [] := by
    rw [Schema.renders_iff_of_fields fun field _ => field.renders_iff]
    cases schema <;> rfl
  simp only [rendered, mockPayload, exists_eq_right]

-- The second field of a name gives the value, at the place of the first one.
def shadowedBlock : Schema :=
  let inner : Schema := { fields := [{ name := "c", type := .array }] }
  { fields := [{ name := "b" }, { name := "a", type := .number },
      { name := "b", type := .object, nested := some inner },
      { name := "d", type := .boolean, mock := some (.text "x") }] }

theorem mockPayload_renders_shadowed :
    ∃ payload, shadowedBlock.Renders payload ∧ payload =
      [(.text "b", .mapping [(.text "c", .list [])]), (.text "a", .int 0),
        (.text "d", .text "x")] := by
  obtain ⟨payload, same, renders⟩ :=
    (mockPayload_renders_iff (some shadowedBlock) (mockPayload (some shadowedBlock))).2 rfl
  cases same
  exact ⟨_, renders, rfl⟩

end ApiCatalog
