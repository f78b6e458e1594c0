import ApiCatalog.Proofs.MockPayloads
import ApiCatalog.Proofs.NestedTypes
import ApiCatalog.Proofs.SoundReaders

/-!
Whether mock payloads fit the types of their fields. In documents that are read they always do. In
converted descriptions arrays can have blocks, and such an array is rendered as one mapping.
-/

set_option autoImplicit false

namespace ApiCatalog

-- Whether a value is of the kind that a type stands for.
def Value.isOf : FieldType → Value → Bool
  | .string, .scalar (.text _) | .number, .scalar (.int _) | .number, .scalar (.float _)
  | .boolean, .scalar (.bool _) | .array, .list _ | .object, .mapping _ => true
  | _, _ => false

/-- A payload has a value of the right kind for the last field of each name, unless the field has a
mock value, and so do the payloads of the blocks inside. -/
inductive Schema.Conforms (kind : Field → FieldType) : Schema → Value → Prop
  | intro {block : Schema} {payload : Entries}
      (kinds : ∀ name field, block.last? name = some field → field.mock = none →
        ∃ value, Entries.get? name payload = some value ∧ value.isOf (kind field))
      (inside : ∀ name field inner value, block.last? name = some field → field.mock = none →
        field.nested = some inner → Entries.get? name payload = some value →
        Schema.Conforms kind inner value) :
      Schema.Conforms kind block (.mapping payload)

-- What the values of a field are: the type that it has, except for arrays with a block.
def Field.renderedType (field : Field) : FieldType :=
  if field.type = .array ∧ field.nested.isSome then .object else field.type

-- Events of streams have fields without a block around them.
def Service.eventBlocks : Service → List Schema
  | method .. | socket _ | eventSocket _ => []
  | stream s => s.events.map fun event => { fields := event.fields }

def Service.blocks (service : Service) : List Schema := service.schemas ++ service.eventBlocks

-- All blocks of a document that are not inside of others.
def Document.blocks (d : Document) : List Schema := d.eachService.flatMap Service.blocks

-- A field and all that is inside of it have a property.
inductive Field.Throughout (P : Field → Prop) : Field → Prop
  | intro {field : Field} (here : P field)
      (inside : ∀ block ∈ field.nested, ∀ inner ∈ block.fields, Throughout P inner) :
      Throughout P field

-- Blocks are rendered as mappings, and everything else by its type.
def Field.Suits (kind : Field → FieldType) (field : Field) : Prop :=
  kind field = if field.nested.isSome then .object else field.type

section Payloads

variable {kind : Field → FieldType}

theorem isOf_mockValue (type : FieldType) (name : String) : (type.mockValue name).isOf type := by
  cases type <;> rfl

theorem Field.Suits.isOf_mockPayload {field : Field} (suits : field.Suits kind)
    (unmocked : field.mock = none) : field.mockPayload.isOf (kind field) := by
  rw [suits]
  cases isBlock : field.nested with
  | none =>
    rw [mockPayload_of_plain unmocked isBlock]
    exact isOf_mockValue field.type field.name
  | some block =>
    rw [mockPayload_of_nested unmocked isBlock]
    rfl

theorem Schema.conforms_of_fields {block : Schema}
    (suits : ∀ field ∈ block.fields, field.Suits kind)
    (inside : ∀ field ∈ block.fields, ∀ inner ∈ field.nested,
      Schema.Conforms kind inner (.mapping inner.mockPayload)) :
    block.Conforms kind (.mapping block.mockPayload) := by
  constructor
  · intro name field isLast unmocked
    refine ⟨field.mockPayload, ?_, (suits field (mem_of_last? isLast)).isOf_mockPayload unmocked⟩
    rw [get?_mockPayload, isLast, Option.map_some]
  · intro name field inner value isLast unmocked isBlock found
    rw [get?_mockPayload, isLast, Option.map_some,
      Field.mockPayload_of_nested unmocked isBlock] at found
    cases found
    exact inside field (mem_of_last? isLast) inner isBlock

theorem Field.Throughout.conforms {field : Field} (suits : field.Throughout (Suits kind)) :
    ∀ block ∈ field.nested, Schema.Conforms kind block (.mapping block.mockPayload) := by
  induction suits with
  | intro here inside ih =>
    intro block isBlock
    apply Schema.conforms_of_fields
    · intro field member
      obtain ⟨suits, -⟩ := inside block isBlock field member
      exact suits
    · exact ih block isBlock

theorem Schema.conforms {block : Schema}
    (suits : ∀ field ∈ block.fields, field.Throughout (Field.Suits kind)) :
    block.Conforms kind (mockPayload (some block)) := by
  apply conforms_of_fields
  · intro field member
    obtain ⟨here, -⟩ := suits field member
    exact here
  · exact fun field member => (suits field member).conforms

end Payloads

section Read

theorem Field.WellFormed.suits {field : Field} (wellFormed : field.WellFormed) :
    field.Throughout (Suits Field.type) := by
  induction wellFormed with
  | @intro field _ isObject _ _ _ ih =>
    refine .intro ?_ ih
    by_cases isBlock : field.nested.isSome
    · simp [Suits, isBlock, isObject.1 isBlock]
    · simp [Suits, isBlock]

theorem Method.WellFormed.schemas {m : Method} (wellFormed : m.WellFormed) (path : String) :
    ∀ block ∈ (Service.method path m).schemas, Schema.WellFormed block := by
  simp only [Service.schemas, List.mem_append, Option.mem_toList]
  rintro block (isBlock | isBlock)
  · exact wellFormed.request block isBlock
  · exact wellFormed.response block isBlock

theorem Socket.WellFormed.schemas {s : Socket} (wellFormed : s.WellFormed) :
    ∀ block ∈ (Service.socket s).schemas, Schema.WellFormed block := by
  simp only [Service.schemas, List.mem_append, Option.mem_toList, List.mem_flatMap]
  rintro block ((isBlock | isBlock) | ⟨event, isEvent, isBlock | isBlock⟩)
  · exact wellFormed.auth block isBlock
  · exact wellFormed.connectHeaders block isBlock
  · exact (wellFormed.events event isEvent).request block isBlock
  · exact (wellFormed.events event isEvent).response block isBlock

theorem EventStream.WellFormed.blocks {s : EventStream} (wellFormed : s.WellFormed) :
    ∀ block ∈ (Service.stream s).blocks, Schema.WellFormed block := by
  simp only [Service.blocks, Service.schemas, Service.eventBlocks, List.mem_append,
    Option.mem_toList, List.mem_map]
  rintro block (isBlock | ⟨event, isEvent, rfl⟩)
  · exact wellFormed.request block isBlock
  · exact wellFormed.events event isEvent

theorem Services.WellFormed.blocks {services : Services} (wellFormed : services.WellFormed) :
    ∀ service ∈ services.each, ∀ block ∈ service.blocks, Schema.WellFormed block := by
  intro service member block isBlock
  simp only [Services.each, List.mem_append, List.mem_flatMap, List.mem_map] at member
  rcases member with ((⟨api, isApi, method, isMethod, rfl⟩ | ⟨s, isSocket, rfl⟩) |
    ⟨s, isSocket, rfl⟩) | ⟨s, isStream, rfl⟩
  · rw [Service.blocks, Service.eventBlocks, List.append_nil] at isBlock
    exact (wellFormed.apis api isApi method isMethod).schemas api.path block isBlock
  · rw [Service.blocks, Service.eventBlocks, List.append_nil] at isBlock
    exact (wellFormed.sockets s isSocket).schemas block isBlock
  · rw [Service.blocks, Service.eventBlocks, List.append_nil] at isBlock
    exact (wellFormed.eventSockets s isSocket).schemas block isBlock
  · exact (wellFormed.streams s isStream).blocks block isBlock

-- By recursion over the trees.
mutual
theorem Category.WellFormed.preorder : (c : Category) → c.WellFormed →
    ∀ k ∈ c.preorder, k.services.WellFormed
  | ⟨id, name, description, basePath, apis, sockets, eventSockets, streams, children⟩ => by
    rintro ⟨services, held⟩
    rw [Category.preorder]
    exact List.forall_mem_cons.2 ⟨services, wellFormed_preorders children held⟩

theorem wellFormed_preorders : (cs : List Category) → (∀ c ∈ cs, c.WellFormed) →
    ∀ k ∈ preorders cs, k.services.WellFormed
  | [], _ => nofun
  | c :: rest, held => by
    obtain ⟨first, others⟩ := List.forall_mem_cons.1 held
    rw [preorders]
    exact List.forall_mem_append.2 ⟨first.preorder, wellFormed_preorders rest others⟩
end

theorem Document.WellFormed.blocks {d : Document} (wellFormed : d.WellFormed) :
    ∀ block ∈ d.blocks, Schema.WellFormed block := by
  intro block member
  obtain ⟨service, isService, isBlock⟩ := List.mem_flatMap.1 member
  obtain ⟨services, isServices, isService⟩ := List.mem_flatMap.1 isService
  rcases List.mem_cons.1 isServices with rfl | isServices
  · exact wellFormed.services.blocks service isService block isBlock
  · obtain ⟨c, isCategory, rfl⟩ := List.mem_map.1 isServices
    have held := wellFormed_preorders d.categories wellFormed.categories c isCategory
    exact held.blocks service isService block isBlock

end Read

namespace Spec

variable {asText : TextReader}

section Converted

variable {required : List String} {entry : Scalar × Value} {field : Field}

theorem ConvertedProperty.type_of_isSome (converted : ConvertedProperty asText required entry field)
    (isBlock : field.nested.isSome) : field.type = .object ∨ field.type = .array := by
  obtain ⟨⟨inner, nests⟩, -⟩ := converted.nests_of_isSome isBlock
  obtain ⟨property, type, -, isMapping, typed, isType, -, -⟩ | ⟨-, -, noBlock⟩ := converted.inside
  · rw [isMapping, nests_iff typed, ← isType] at nests
    exact nests.2.type_cases
  · simp [noBlock] at isBlock

theorem ConvertedProperty.suits (converted : ConvertedProperty asText required entry field) :
    field.Suits Field.renderedType := by
  rw [Field.Suits, Field.renderedType]
  by_cases isBlock : field.nested.isSome
  · rcases converted.type_of_isSome isBlock with isObject | isArray
    · simp [isBlock, isObject]
    · simp [isBlock, isArray]
  · simp [isBlock]

-- What is inside of a field comes from the properties of another schema.
theorem ConvertedProperty.exists_converted
    (converted : ConvertedProperty asText required entry field)
    {block : Schema} (isBlock : field.nested = some block) :
    ∀ inner ∈ block.fields, ∃ required entry, ConvertedProperty asText required entry inner := by
  intro inner member
  obtain ⟨⟨schema, nests⟩, -⟩ := converted.nests_of_isSome (by simp [isBlock])
  have converts := converted.inside_eq nests
  rw [Field.inside, isBlock, Option.map_some, Option.getD_some] at converts
  have each := schemaFields_forall converts
  obtain ⟨property, together⟩ := exists_zip_of_mem each member
  exact ⟨_, property, List.forall₂_zip each together⟩

theorem suits_of_converted (field : Field)
    (converted : ∃ required entry, ConvertedProperty asText required entry field) :
    field.Throughout (Field.Suits Field.renderedType) := by
  induction field using Field.nested_induction with
  | step field ih =>
    obtain ⟨required, entry, converted⟩ := converted
    refine .intro converted.suits fun block isBlock inner member => ?_
    exact ih block isBlock inner member (converted.exists_converted isBlock inner member)

end Converted

theorem schemaFields_suit {schema : Entries} {fields : List Field}
    (converts : schemaFields asText schema = .ok fields) :
    ∀ field ∈ fields, field.Throughout (Field.Suits Field.renderedType) := by
  intro field member
  have each := schemaFields_forall converts
  obtain ⟨entry, together⟩ := exists_zip_of_mem each member
  exact suits_of_converted field ⟨_, entry, List.forall₂_zip each together⟩

theorem DescribesParameter.suits {parameter : Entries} {field : Field}
    (describes : DescribesParameter asText parameter field) :
    field.Throughout (Field.Suits Field.renderedType) :=
  .intro (by simp [Field.Suits, Field.renderedType, describes.nested]) (by simp [describes.nested])

theorem toDocument_suits {spec : Entries} {d : Document}
    (converts : toDocument asText spec = .ok d) :
    ∀ block ∈ d.blocks, ∀ field ∈ block.fields,
      field.Throughout (Field.Suits Field.renderedType) := by
  intro block member
  obtain ⟨service, isService, isBlock⟩ := List.mem_flatMap.1 member
  -- There are no streams in converted descriptions.
  have noEvents : service.eventBlocks = [] := by
    obtain ⟨_, _, _, _, _, _, _, rfl⟩ := toDocument_services converts service isService
    rfl
  rw [Service.blocks, noEvents, List.append_nil] at isBlock
  exact (toDocument_all (fun _ _ => schemaFields_suit) (fun _ _ => DescribesParameter.suits)
    converts service isService block isBlock).2

end Spec

/-- The payloads of a document that is read fit the types of its fields at every depth. So do those
of a converted description, except that arrays with a block are rendered as mappings. -/
theorem mockPayload_conforms :
    (∀ text d, Document.ofText text = .ok d →
      ∀ block ∈ d.blocks, block.Conforms Field.type (mockPayload (some block))) ∧
    ∀ asText spec d, Spec.toDocument asText spec = .ok d →
      ∀ block ∈ d.blocks, block.Conforms Field.renderedType (mockPayload (some block)) := by
  constructor
  · intro text d parsed block member
    obtain ⟨r, ran, finished⟩ := bind_eq_ok.1 parsed
    have sound := DocumentReader.run_sound (fun _ => proper_of_mem) DocumentReader.start_sound ran
    have wellFormed := DocumentReader.finish_wellFormed sound.toHolds finished
    exact Schema.conforms fun field isField => (wellFormed.blocks block member field isField).suits
  · intro asText spec d converts block member
    exact Schema.conforms (Spec.toDocument_suits converts block member)

-- A field that is mocked, one that shadows another, an object in an object, and a stream.
def shadowedText : String :=
  "api /p \x7b get \x7b response \x7b a \x7b b \x7b c Array \x7d \x7d " ++
    "a String d @mock(1) d Number \x7d \x7d \x7d " ++
    "sse /s \x7b event e \x7b f \x7b g Boolean \x7d \x7d \x7d"

def taggedSchema : Entries :=
  let item : Value := .mapping [(.text "properties", .mapping [(.text "id", .mapping [])])]
  [(.text "properties", .mapping [
    (.text "tags", .mapping [(.text "type", .text "array"), (.text "items", item)])])]

-- An array of objects in a response.
def taggedResponse : Entries :=
  let json : Value := .mapping [(.text "schema", .mapping taggedSchema)]
  let response : Value := .mapping [(.text "content", .mapping [(.text "application/json", json)])]
  let operation : Value := .mapping [(.text "responses", .mapping [(.text "200", response)])]
  [(.text "paths", .mapping [(.text "/x", .mapping [(.text "get", operation)])])]

theorem exists_taggedResponse : ∃ d, Spec.toDocument Value.checkText taggedResponse = .ok d ∧
    ∃ block ∈ d.blocks, ∃ field, block.last? "tags" = some field ∧ field.mock = none ∧
      field.type = .array ∧ field.nested.isSome := by
  have inlines : Spec.inlined (.mapping taggedResponse) = .ok (.mapping taggedResponse) := by cbv
  have found : ∃ d ∈ (Spec.toDocument Value.checkText taggedResponse).toOption,
      ∃ block ∈ d.blocks, ∃ field ∈ block.last? "tags", field.mock = none ∧ field.type = .array ∧
        field.nested.isSome := by
    rw [Spec.toDocument, inlines]
    decide +kernel
  obtain ⟨d, converts, block, isBlock, field, isLast, rest⟩ := found
  exact ⟨d, eq_ok_of_mem converts, block, isBlock, field, isLast, rest⟩

theorem mockPayload_conforms_shadowed :
    (∃ d, Document.ofText shadowedText = .ok d ∧ d.blocks.length = 2 ∧
      ∀ block ∈ d.blocks, block.Conforms Field.type (mockPayload (some block))) ∧
    ∃ d, Spec.toDocument Value.checkText taggedResponse = .ok d ∧ d.blocks ≠ [] ∧
      ∀ block ∈ d.blocks, block.Conforms Field.renderedType (mockPayload (some block)) := by
  constructor
  · have read : ∃ d ∈ (Document.ofText shadowedText).toOption, d.blocks.length = 2 := by
      decide +kernel
    obtain ⟨d, member, two⟩ := read
    exact ⟨d, eq_ok_of_mem member, two, mockPayload_conforms.1 _ d (eq_ok_of_mem member)⟩
  · obtain ⟨d, converts, block, isBlock, -⟩ := exists_taggedResponse
    exact ⟨d, converts, List.ne_nil_of_mem isBlock, mockPayload_conforms.2 _ _ d converts⟩

theorem mockPayload_conforms_array :
    ¬ ∀ spec d, Spec.toDocument Value.checkText spec = .ok d →
      ∀ block ∈ d.blocks, block.Conforms Field.type (mockPayload (some block)) := by
  intro conforms
  obtain ⟨d, converts, block, isBlock, field, isLast, unmocked, isArray, isNested⟩ :=
    exists_taggedResponse
  obtain ⟨inner, nested⟩ := Option.isSome_iff_exists.1 isNested
  obtain ⟨kinds, -⟩ := conforms taggedResponse d converts block isBlock
  obtain ⟨value, found, isList⟩ := kinds "tags" field isLast unmocked
  -- The value is the payload of the items, which is no list.
  change Entries.get? "tags" block.mockPayload = some value at found
  rw [block.get?_mockPayload, isLast, Option.map_some,
    Field.mockPayload_of_nested unmocked nested] at found
  cases found
  rw [isArray] at isList
  cases isList

end ApiCatalog
