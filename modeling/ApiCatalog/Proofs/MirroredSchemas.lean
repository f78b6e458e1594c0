import ApiCatalog.Proofs.Endpoints
import ApiCatalog.Proofs.ResponseFields

/-!
The fields of a schema have its shape, however deep it is. No block of fields in a converted
description is empty.
-/

set_option autoImplicit false

namespace ApiCatalog

-- The fields of the block of a field, if it has one.
def Field.inside (field : Field) : List Field := (field.nested.map (·.fields)).getD []

-- A field has no empty block, and nor has anything inside of it.
inductive Field.Filled : Field → Prop
  | intro {field : Field} (held : ∀ block ∈ field.nested, block.fields ≠ [])
      (inside : ∀ inner ∈ field.inside, Filled inner) : Filled field

def Schema.Filled (block : Schema) : Prop :=
  block.fields ≠ [] ∧ ∀ field ∈ block.fields, field.Filled

-- The blocks of fields of a service, from outside.
def Service.schemas : Service → List Schema
  | method _ m => m.request.toList ++ m.response.toList
  | socket s | eventSocket s => s.auth.toList ++ s.connectHeaders.toList ++
      s.events.flatMap fun event => event.request.toList ++ event.response.toList
  | stream s => s.request.toList

-- The services of a document and of all its categories.
def Document.eachService (d : Document) : List Service :=
  (d.services :: (preorders d.categories).map Category.services).flatMap Services.each

namespace Spec

/-- The schema that the fields inside of a property come from: an object is its own one, and an
array has that of its items. -/
inductive Nests : Value → Entries → Prop
  | object {property : Entries} (typed : typeName property = .ok "object") :
      Nests (.mapping property) property
  | array {property items : Entries} (typed : typeName property = .ok "array")
      (found : Entries.get? "items" property = some (.mapping items)) :
      Nests (.mapping property) items

variable (asText : TextReader)

/-- A field stands for an entry of the properties of a schema. -/
structure MirrorsEntry (schema : Entries) (entry : Scalar × Value) (field : Field) : Prop where
  name : field.name = entry.1.display
  required : field.optional = false ↔
    ∃ name, entry.1 = .text name ∧ .text name ∈ listOrEmpty (Entries.get? "required" schema)
  inside : ∀ inner, Nests entry.2 inner → schemaFields asText inner = .ok field.inside
  nested : field.nested.isSome → (∃ inner, Nests entry.2 inner) ∧ field.inside ≠ []

/-- The fields stand for the properties of a schema, one for each in order, and so do those inside
of them for the schemas that are nested. -/
inductive Mirrors : Entries → List Field → Prop
  | intro {schema : Entries} {fields : List Field}
      (each : List.Forall₂ (MirrorsEntry asText schema) (propertiesOf schema) fields)
      (inside : ∀ entry field inner, (entry, field) ∈ (propertiesOf schema).zip fields →
        Nests entry.2 inner → Mirrors inner field.inside) : Mirrors schema fields

variable {asText}

section Schemas

variable {schema : Entries} {entry : Scalar × Value} {field : Field} {fields : List Field}

theorem inside_of_nested {inside : List Field} (nested : field.nested = blockOf inside) :
    field.inside = inside := by
  rw [Field.inside, nested]
  cases inside <;> rfl

theorem isRequired_iff {key : Scalar} :
    isRequired (requiredNames schema) key = true ↔
      ∃ name, key = .text name ∧ .text name ∈ listOrEmpty (Entries.get? "required" schema) := by
  have listed (name : String) : name ∈ requiredNames schema ↔
      .text name ∈ listOrEmpty (Entries.get? "required" schema) := by
    rw [requiredNames, List.mem_filterMap]
    constructor
    · rintro ⟨value, member, isName⟩
      split at isName <;> cases isName
      exact member
    · exact fun member => ⟨_, member, rfl⟩
  cases key with
  | text name => simp [isRequired, listed]
  | _ => simp [isRequired]

theorem ConvertedProperty.inside_eq {required : List String}
    (converted : ConvertedProperty asText required entry field) {inner : Entries}
    (nests : Nests entry.2 inner) : schemaFields asText inner = .ok field.inside := by
  obtain ⟨property, type, inside, isMapping, typed, -, converts, nested⟩ | ⟨noMapping, -, -⟩ :=
    converted.inside
  · rw [inside_of_nested nested, ← converts]
    rw [isMapping] at nests
    cases nests with
    | object isObject =>
      cases typed.symm.trans isObject
      rw [insideFields, if_pos rfl]
    | array isArray found =>
      cases typed.symm.trans isArray
      rw [insideFields, if_neg (by decide), if_pos rfl, itemFields_eq, found]
      rfl
  · cases isValue : entry.2 with
    | mapping property => simp [isValue, mapping?] at noMapping
    | _ =>
      rw [isValue] at nests
      cases nests

theorem ConvertedProperty.nests_of_isSome {required : List String}
    (converted : ConvertedProperty asText required entry field) (isBlock : field.nested.isSome) :
    (∃ inner, Nests entry.2 inner) ∧ field.inside ≠ [] := by
  obtain ⟨property, type, inside, isMapping, typed, -, converts, nested⟩ | ⟨-, -, none⟩ :=
    converted.inside
  · have held : inside ≠ [] := by
      rintro rfl
      simp [nested, blockOf] at isBlock
    refine ⟨?_, by rwa [inside_of_nested nested]⟩
    rw [isMapping]
    unfold insideFields at converts
    split at converts
    next isObject =>
      subst isObject
      exact ⟨property, .object typed⟩
    next =>
      split at converts
      next isArray =>
        subst isArray
        rw [itemFields_eq] at converts
        cases found : mapping? (Entries.get? "items" property) with
        | some items => exact ⟨items, .array typed (mapping?_eq_some found)⟩
        | none =>
          rw [found] at converts
          cases converts
          exact absurd rfl held
      next =>
        cases converts
        exact absurd rfl held
  · simp [none] at isBlock

theorem ConvertedProperty.mirrors
    (converted : ConvertedProperty asText (requiredNames schema) entry field) :
    MirrorsEntry asText schema entry field where
  name := converted.name
  required := by rw [converted.optional, Bool.not_eq_false', isRequired_iff]
  inside _ := converted.inside_eq
  nested := converted.nests_of_isSome

theorem Nests.sizeOf_lt {inner : Entries} (nests : Nests entry.2 inner)
    (member : entry ∈ propertiesOf schema) : sizeOf inner < sizeOf schema := by
  obtain ⟨name, value⟩ := entry
  have inProperties : sizeOf value < sizeOf (propertiesOf schema) := by
    have := List.sizeOf_lt_of_mem member
    simp only [Prod.mk.sizeOf_spec] at this
    omega
  have inSchema : sizeOf (propertiesOf schema) < sizeOf schema := by
    unfold propertiesOf at member ⊢
    cases found : mapping? (Entries.get? "properties" schema) with
    | none => simp [found] at member
    | some properties =>
      have := Entries.sizeOf_lt_of_get? (mapping?_eq_some found)
      simp only [Value.mapping.sizeOf_spec] at this
      simpa [found] using (by omega : sizeOf properties < sizeOf schema)
  cases nests with
  | object =>
    simp only [Value.mapping.sizeOf_spec] at inProperties
    omega
  | array _ found =>
    have inItems := Entries.sizeOf_lt_of_get? found
    simp only [Value.mapping.sizeOf_spec] at inProperties inItems
    omega

end Schemas

theorem schemaFields_mirrors {schema : Entries} {fields : List Field}
    (converts : schemaFields asText schema = .ok fields) : Mirrors asText schema fields := by
  rw [schemaFields_eq] at converts
  have each := propertyFields_forall converts
  -- By induction on the size of the schema: whatever a property nests is smaller.
  refine .intro (each.imp fun _ _ => ConvertedProperty.mirrors)
    fun entry field inner together nests => ?_
  have smaller := nests.sizeOf_lt (List.of_mem_zip together).1
  exact schemaFields_mirrors ((List.forall₂_zip each together).inside_eq nests)
termination_by sizeOf schema

theorem Mirrors.filled {schema : Entries} {fields : List Field}
    (mirrors : Mirrors asText schema fields) :
    ∀ field ∈ fields, field.Filled := by
  induction mirrors with
  | @intro schema fields each _ ih =>
    intro field member
    obtain ⟨entry, together⟩ := exists_zip_of_mem each member
    have mirrored := List.forall₂_zip each together
    refine .intro (fun block isBlock => ?_) fun inner isInner => ?_
    · have isSome := Option.isSome_of_mem isBlock
      have held := (mirrored.nested isSome).2
      rwa [Field.inside, Option.mem_def.1 isBlock] at held
    · have isSome : field.nested.isSome := by
        by_contra none
        simp [Field.inside, Option.not_isSome_iff_eq_none.1 none] at isInner
      obtain ⟨nested, nests⟩ := (mirrored.nested isSome).1
      exact ih entry field nested together nests inner isInner

-- The services of the categories are the methods of the converted paths.
theorem exists_method {apis : List (Api × Option String)} {c : Category}
    (isCategory : c ∈ preorders [rootCategory apis]) {service : Service}
    (member : service ∈ c.services.each) :
    ∃ entry ∈ apis, ∃ method ∈ entry.1.methods, service = .method entry.1.path method := by
  obtain ⟨tag, held, others⟩ : ∃ tag, c.apis = (apis.filter (·.2 = tag)).map (·.1) ∧
      c.services = ⟨c.apis, [], [], []⟩ := by
    rw [preorders_root] at isCategory
    rcases List.mem_cons.1 isCategory with rfl | isChild
    · exact ⟨none, apis_rootCategory apis, rfl⟩
    · obtain ⟨tag, -, rfl⟩ := List.mem_map.1 isChild
      exact ⟨some tag, apis_tagCategory apis tag, rfl⟩
  obtain ⟨api, isApi, isMethod⟩ : ∃ api ∈ c.apis, service ∈ api.methods.map (.method api.path) := by
    simpa [Services.each, others] using member
  rw [held] at isApi
  obtain ⟨entry, kept, rfl⟩ := List.mem_map.1 isApi
  obtain ⟨method, among, rfl⟩ := List.mem_map.1 isMethod
  exact ⟨entry, (List.mem_filter.1 kept).1, method, among, rfl⟩

theorem toDocument_services {spec : Entries} {d : Document}
    (converts : toDocument asText spec = .ok d) :
    ∀ service ∈ d.eachService, ∃ paths apis, convertPaths asText paths = .ok apis ∧
      ∃ entry ∈ apis, ∃ method ∈ entry.1.methods, service = .method entry.1.path method := by
  intro service member
  obtain ⟨entries, config, -, ⟨-, rfl⟩ | ⟨paths, apis, -, converted, rfl⟩⟩ :=
    toDocument_converted converts
  · have noService : ({ config } : Document).eachService = [] := rfl
    rw [noService] at member
    cases member
  · obtain ⟨services, isServices, isService⟩ := List.mem_flatMap.1 member
    rcases List.mem_cons.1 isServices with rfl | isServices
    · cases isService
    · obtain ⟨c, isCategory, rfl⟩ := List.mem_map.1 isServices
      exact ⟨paths, apis, converted, exists_method isCategory isService⟩

-- What holds of all fields that schemas and parameters are converted to holds of all fields of a
-- description.
section Fields

variable {P : Field → Prop}
  (ofSchema : ∀ schema fields, schemaFields asText schema = .ok fields →
    ∀ field ∈ fields, P field)
  (ofParameter : ∀ parameter field, DescribesParameter asText parameter field → P field)

include ofSchema in
theorem optionalFields_all {schema : Option Entries} {fields : List Field}
    (converts : optionalFields asText schema = .ok fields) : ∀ field ∈ fields, P field := by
  cases schema with
  | none =>
    cases converts
    nofun
  | some schema => exact ofSchema schema fields converts

include ofParameter in
theorem parameterFields_all {parameters : List Entries} {fields : List Field}
    (converts : parameterFields asText parameters = .ok fields) : ∀ field ∈ fields, P field := by
  have each := parameterFields_describe converts
  intro field member
  obtain ⟨parameter, together⟩ := exists_zip_of_mem each member
  exact ofParameter parameter field (List.forall₂_zip each together)

theorem blockOf_all {fields : List Field} {block : Schema} (each : ∀ field ∈ fields, P field)
    (isBlock : blockOf fields = some block) :
    block.fields ≠ [] ∧ ∀ field ∈ block.fields, P field := by
  obtain rfl := fields_of_blockOf isBlock
  refine ⟨fun empty => ?_, each⟩
  rw [blockOf_eq_none_iff.2 empty] at isBlock
  cases isBlock

include ofSchema ofParameter

theorem convertOperation_all {pathParameters : List Value} {verb : String} {operation : Entries}
    {method : Method}
    (converts : convertOperation asText pathParameters verb operation = .ok method)
    (path : String) : ∀ block ∈ (Service.method path method).schemas,
      block.fields ≠ [] ∧ ∀ field ∈ block.fields, P field := by
  obtain ⟨parameters, fields, body, responses, -, isFields, isBody, isResponse, -, request,
    response⟩ := convertOperation_cases converts
  intro block member
  rcases List.mem_append.1 member with isRequest | isResponse'
  · rw [request, Option.mem_toList] at isRequest
    refine blockOf_all (List.forall_mem_append.2 ⟨?_, ?_⟩) isRequest
    · exact parameterFields_all ofParameter isFields
    · exact optionalFields_all ofSchema (bodyFields_eq isBody)
  · rw [response, Option.mem_toList] at isResponse'
    exact blockOf_all (optionalFields_all ofSchema (responseFields_eq isResponse)) isResponse'

theorem convertPaths_all {paths : Entries} {apis : List (Api × Option String)}
    (converts : convertPaths asText paths = .ok apis) :
    ∀ entry ∈ apis, ∀ method ∈ entry.1.methods,
      ∀ block ∈ (Service.method entry.1.path method).schemas,
        block.fields ≠ [] ∧ ∀ field ∈ block.fields, P field := by
  intro entry isEntry method isMethod
  have rendered := convertPaths_renders converts
  obtain ⟨path, together⟩ := exists_zip_of_mem rendered isEntry
  have methods := (List.forall₂_zip rendered together).1.methods
  obtain ⟨operation, together⟩ := exists_zip_of_mem methods isMethod
  exact convertOperation_all ofSchema ofParameter (List.forall₂_zip methods together).2 entry.1.path

theorem toDocument_all {spec : Entries} {d : Document}
    (converts : toDocument asText spec = .ok d) :
    ∀ service ∈ d.eachService, ∀ block ∈ service.schemas,
      block.fields ≠ [] ∧ ∀ field ∈ block.fields, P field := by
  intro service member
  obtain ⟨paths, apis, converted, entry, isEntry, method, isMethod, rfl⟩ :=
    toDocument_services converts service member
  exact convertPaths_all ofSchema ofParameter converted entry isEntry method isMethod

end Fields

theorem toDocument_filled {spec : Entries} {d : Document}
    (converts : toDocument asText spec = .ok d) :
    ∀ service ∈ d.eachService, ∀ block ∈ service.schemas, block.Filled :=
  toDocument_all (fun _ _ converts => (schemaFields_mirrors converts).filled)
    (fun _ _ describes => .intro (by simp [describes.nested])
      (by simp [Field.inside, describes.nested])) converts

/-- The fields that a schema is converted to mirror it at every depth, and no block of fields in a
converted description is empty. -/
theorem schemas_mirrored (asText : TextReader) :
    (∀ schema fields, schemaFields asText schema = .ok fields → Mirrors asText schema fields) ∧
    ∀ spec d, toDocument asText spec = .ok d →
      ∀ service ∈ d.eachService, ∀ block ∈ service.schemas, block.Filled :=
  ⟨fun _ _ => schemaFields_mirrors, fun _ _ => toDocument_filled⟩

-- An object that may be null, an array of objects, an object without properties, and a property
-- that is no schema under a key that is no text.
def deepSchema : Entries :=
  let typed (type : Value) (more : Entries) : Value := .mapping ((.text "type", type) :: more)
  let properties (entries : Entries) : Scalar × Value := (.text "properties", .mapping entries)
  let label := typed (.text "object") [properties [(.text "en", .mapping [])]]
  [properties [
      (.text "owner", typed (.list [.text "null", .text "object"])
        [properties [(.text "id", typed (.text "integer") [])]]),
      (.text "tags", typed (.text "array")
        [(.text "items", .mapping [properties [(.text "label", label)]])]),
      (.text "empty", typed (.text "object") []), (.int 1, .int 5)],
    (.text "required", .list [.text "owner", .int 1])]

def deepSpec : Entries :=
  let json : Value := .mapping [(.text "schema", .mapping deepSchema)]
  let body : Value := .mapping [(.text "content", .mapping [(.text "application/json", json)])]
  let operation : Value := .mapping [(.text "requestBody", body),
    (.text "responses", .mapping [(.int 200, body)])]
  [(.text "paths", .mapping [(.text "/p", .mapping [(.text "post", operation)])])]

theorem schemas_mirrored_deep :
    (∃ fields, schemaFields Value.checkText deepSchema = .ok fields ∧
      Mirrors Value.checkText deepSchema fields) ∧
    ∃ d, toDocument Value.checkText deepSpec = .ok d ∧
      ∀ service ∈ d.eachService, ∀ block ∈ service.schemas, block.Filled := by
  have converts : (schemaFields Value.checkText deepSchema).isOk := by decide +kernel
  have inlines : inlined (.mapping deepSpec) = .ok (.mapping deepSpec) := by cbv
  have succeeds : (toDocument Value.checkText deepSpec).isOk := by
    rw [toDocument, inlines]
    decide +kernel
  obtain ⟨fields, converts⟩ := exists_of_isOk converts
  obtain ⟨d, succeeds⟩ := exists_of_isOk succeeds
  exact ⟨⟨fields, converts, (schemas_mirrored _).1 _ _ converts⟩,
    d, succeeds, (schemas_mirrored _).2 _ _ succeeds⟩

end Spec

end ApiCatalog
