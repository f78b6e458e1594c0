import ApiCatalog.Proofs.MirroredSchemas

/-!
Which fields have a block inside, by their types. Types are told in any letter case, but blocks are
made only for types in small letters, so that those of other objects and arrays are overlooked.
-/

set_option autoImplicit false

namespace ApiCatalog.Spec

variable (asText : TextReader)

-- A schema that is converted to at least one field.
def GivesFields (schema : Entries) : Prop :=
  ∃ fields, schemaFields asText schema = .ok fields ∧ fields ≠ []

-- The schema that a property of a type has for a block: an object is its own one, and an array
-- has that of its items, if it is a mapping.
inductive Offers : FieldType → Value → Entries → Prop
  | object {property : Entries} : Offers .object (.mapping property) property
  | array {property items : Entries}
      (found : Entries.get? "items" property = some (.mapping items)) :
      Offers .array (.mapping property) items

/-- A field has a block exactly if its type has a schema for one that gives fields. -/
def NestsByType (value : Value) (field : Field) : Prop :=
  field.nested.isSome ↔ ∃ inner, Offers field.type value inner ∧ GivesFields asText inner

/-- The type of a property is not in small letters, and would have fields inside. -/
def Overlooked (value : Value) : Prop :=
  ∃ property type inner, value = .mapping property ∧ typeName property = .ok type ∧
    type ∉ ["object", "array"] ∧ Offers (typeOfName type) value inner ∧ GivesFields asText inner

/-- A field and the property that it is converted from, at any depth of a schema. -/
inductive StandsFor : Entries → List Field → Scalar × Value → Field → Prop
  | here {schema : Entries} {fields : List Field} {entry : Scalar × Value} {field : Field}
      (together : (entry, field) ∈ (propertiesOf schema).zip fields) :
      StandsFor schema fields entry field
  | inside {schema inner : Entries} {fields : List Field} {outer entry : Scalar × Value}
      {around field : Field} (together : (outer, around) ∈ (propertiesOf schema).zip fields)
      (nests : Nests outer.2 inner) (deeper : StandsFor inner around.inside entry field) :
      StandsFor schema fields entry field

-- The fields of a list and of all blocks inside of them.
inductive Reached : List Field → Field → Prop
  | here {fields : List Field} {field : Field} (member : field ∈ fields) : Reached fields field
  | inside {fields : List Field} {around field : Field} (member : around ∈ fields)
      (deeper : Reached around.inside field) : Reached fields field

section Properties

variable {asText} {required : List String} {entry : Scalar × Value} {field : Field}

theorem isSome_of_inside (held : field.inside ≠ []) : field.nested.isSome := by
  by_contra noBlock
  apply held
  simp [Field.inside, Option.not_isSome_iff_eq_none.1 noBlock]

theorem Reached.ne_nil {fields : List Field} (reached : Reached fields field) : fields ≠ [] := by
  cases reached <;> exact List.ne_nil_of_mem ‹_›

section Schemas

variable {schema : Entries} {fields : List Field}
  (converts : schemaFields asText schema = .ok fields)

include converts

theorem schemaFields_forall :
    List.Forall₂ (ConvertedProperty asText (requiredNames schema)) (propertiesOf schema)
      fields := by
  rw [schemaFields_eq] at converts
  exact propertyFields_forall converts

theorem converted_of_zip (together : (entry, field) ∈ (propertiesOf schema).zip fields) :
    ConvertedProperty asText (requiredNames schema) entry field :=
  List.forall₂_zip (schemaFields_forall converts) together

theorem StandsFor.converted (stands : StandsFor schema fields entry field) :
    ∃ required, ConvertedProperty asText required entry field := by
  induction stands with
  | here together => exact ⟨_, converted_of_zip converts together⟩
  | inside together nests _ ih => exact ih ((converted_of_zip converts together).inside_eq nests)

-- Fields have something inside only for a schema that is nested.
theorem exists_standsFor (reached : Reached fields field) :
    ∃ entry, StandsFor schema fields entry field := by
  induction reached generalizing schema with
  | here member =>
    obtain ⟨entry, together⟩ := exists_zip_of_mem (schemaFields_forall converts) member
    exact ⟨entry, .here together⟩
  | inside member deeper ih =>
    obtain ⟨outer, together⟩ := exists_zip_of_mem (schemaFields_forall converts) member
    have converted := converted_of_zip converts together
    obtain ⟨⟨inner, nests⟩, -⟩ := converted.nests_of_isSome (isSome_of_inside deeper.ne_nil)
    obtain ⟨entry, stands⟩ := ih (converted.inside_eq nests)
    exact ⟨entry, .inside together nests stands⟩

end Schemas

theorem ConvertedProperty.type_eq (converted : ConvertedProperty asText required entry field)
    {property : Entries} {type : String} (isMapping : entry.2 = .mapping property)
    (typed : typeName property = .ok type) : field.type = typeOfName type := by
  obtain ⟨other, name, -, isOther, named, isType, -, -⟩ | ⟨noMapping, -, -⟩ := converted.inside
  · cases isOther.symm.trans isMapping
    cases named.symm.trans typed
    exact isType
  · rw [isMapping] at noMapping
    cases noMapping

theorem ConvertedProperty.isSome_iff (converted : ConvertedProperty asText required entry field) :
    field.nested.isSome ↔ ∃ inner, Nests entry.2 inner ∧ GivesFields asText inner := by
  constructor
  · intro isBlock
    obtain ⟨⟨inner, nests⟩, held⟩ := converted.nests_of_isSome isBlock
    exact ⟨inner, nests, field.inside, converted.inside_eq nests, held⟩
  · rintro ⟨inner, nests, fields, converts, held⟩
    cases converts.symm.trans (converted.inside_eq nests)
    exact isSome_of_inside held

theorem Offers.type_cases {type : FieldType} {value : Value} {inner : Entries}
    (offers : Offers type value inner) : type = .object ∨ type = .array := by
  cases offers <;> simp

-- What is nested is what a type in small letters offers.
theorem nests_iff {property inner : Entries} {type : String}
    (typed : typeName property = .ok type) :
    Nests (.mapping property) inner ↔
      type ∈ ["object", "array"] ∧ Offers (typeOfName type) (.mapping property) inner := by
  have ofObject : typeOfName "object" = .object := by decide +kernel
  have ofArray : typeOfName "array" = .array := by decide +kernel
  constructor
  · intro nests
    cases nests with
    | object isObject =>
      cases typed.symm.trans isObject
      rw [ofObject]
      exact ⟨by simp, .object⟩
    | array isArray found =>
      cases typed.symm.trans isArray
      rw [ofArray]
      exact ⟨by simp, .array found⟩
  · rintro ⟨small, offers⟩
    rcases List.mem_pair.1 small with rfl | rfl
    · rw [ofObject] at offers
      cases offers
      exact .object typed
    · rw [ofArray] at offers
      cases offers with
      | array found => exact .array typed found

theorem overlooked_iff {property : Entries} {type : String}
    (typed : typeName property = .ok type) :
    Overlooked asText (.mapping property) ↔ type ∉ ["object", "array"] ∧
      ∃ inner, Offers (typeOfName type) (.mapping property) inner ∧ GivesFields asText inner := by
  constructor
  · rintro ⟨_, _, inner, ⟨⟩, typed', capital, offers, gives⟩
    cases typed.symm.trans typed'
    exact ⟨capital, inner, offers, gives⟩
  · rintro ⟨capital, inner, offers, gives⟩
    exact ⟨property, type, inner, rfl, typed, capital, offers, gives⟩

theorem ConvertedProperty.nestsByType_iff
    (converted : ConvertedProperty asText required entry field) :
    NestsByType asText entry.2 field ↔ ¬ Overlooked asText entry.2 := by
  rw [NestsByType, converted.isSome_iff]
  obtain ⟨property, type, -, isMapping, typed, isType, -, -⟩ | ⟨noMapping, isString, -⟩ :=
    converted.inside
  · simp only [isMapping, nests_iff typed, overlooked_iff typed, isType]
    by_cases small : type ∈ ["object", "array"]
    · simp [small]
    · simp [small]
  · -- What is no mapping has nothing inside.
    have noOffer (inner : Entries) : ¬ Offers field.type entry.2 inner := by
      rw [isString]
      nofun
    have noNesting (inner : Entries) : ¬ Nests entry.2 inner := by
      intro nests
      generalize entry.2 = value at nests noMapping
      cases nests <;> cases noMapping
    have noProperty : ¬ Overlooked asText entry.2 := by
      rintro ⟨property, type, inner, isMapping, -⟩
      rw [isMapping] at noMapping
      cases noMapping
    simp [noOffer, noNesting, noProperty]

end Properties

/-- Every field at any depth comes from a property, and its type tells whether it has a block,
unless the type is not in small letters and the block would not be empty. -/
theorem schemaFields_nestsByType_iff {asText : TextReader} {schema : Entries} {fields : List Field}
    (converts : schemaFields asText schema = .ok fields) :
    (∀ field, Reached fields field → ∃ entry, StandsFor schema fields entry field) ∧
    ∀ entry field, StandsFor schema fields entry field →
      (NestsByType asText entry.2 field ↔ ¬ Overlooked asText entry.2) := by
  refine ⟨fun field => exists_standsFor converts, fun entry field stands => ?_⟩
  obtain ⟨required, converted⟩ := stands.converted converts
  exact converted.nestsByType_iff

theorem exists_zip_of_mem_left {A B : Type} {R : A → B → Prop} {xs : List A} {ys : List B}
    (related : List.Forall₂ R xs ys) {x : A} (member : x ∈ xs) : ∃ y, (x, y) ∈ xs.zip ys := by
  obtain ⟨y, found⟩ := exists_zip_of_mem related.flip member
  rw [← List.zip_swap] at found
  obtain ⟨⟨_, _⟩, together, ⟨⟩⟩ := List.mem_map.1 found
  exact ⟨_, together⟩

def withProperty (type : Value) (name : String) : Entries :=
  [(.text "type", type), (.text "properties", .mapping [(.text name, .mapping [])])]

def ownerSchema : Entries := withProperty (.list [.text "null", .text "Object"]) "id"

def homeSchema : Entries := withProperty (.list [.text "object", .text "null"]) "city"

def petSchema : Entries :=
  [(.text "properties", .mapping [(.text "owner", .mapping ownerSchema),
    (.text "home", .mapping homeSchema)])]

def petsProperty : Entries := [(.text "type", .text "array"), (.text "items", .mapping petSchema)]

-- Two objects in the items of an array, the type of one of them with a capital letter.
def petsSchema : Entries := [(.text "properties", .mapping [(.text "pets", .mapping petsProperty)])]

theorem exists_standsFor_pet (entry : Scalar × Value) (member : entry ∈ propertiesOf petSchema) :
    ∃ fields field, schemaFields Value.checkText petsSchema = .ok fields ∧
      StandsFor petsSchema fields entry field := by
  have succeeds : (schemaFields Value.checkText petsSchema).isOk := by decide +kernel
  obtain ⟨fields, converts⟩ := exists_of_isOk succeeds
  obtain ⟨pets, together⟩ := exists_zip_of_mem_left (schemaFields_forall converts)
    (x := (.text "pets", .mapping petsProperty)) List.mem_cons_self
  have nests : Nests (.mapping petsProperty) petSchema := .array rfl rfl
  have inside := (converted_of_zip converts together).inside_eq nests
  obtain ⟨field, deeper⟩ := exists_zip_of_mem_left (schemaFields_forall inside) member
  exact ⟨fields, field, converts, .inside together nests (.here deeper)⟩

theorem schemaFields_nestsByType_home :
    ∃ fields field, schemaFields Value.checkText petsSchema = .ok fields ∧
      StandsFor petsSchema fields (.text "home", .mapping homeSchema) field ∧
      ¬ Overlooked Value.checkText (.mapping homeSchema) ∧
      NestsByType Value.checkText (.mapping homeSchema) field := by
  obtain ⟨fields, field, converts, stands⟩ := exists_standsFor_pet
    (.text "home", .mapping homeSchema) (List.mem_cons_of_mem _ List.mem_cons_self)
  have typed : typeName homeSchema = .ok "object" := rfl
  have heeded : ¬ Overlooked Value.checkText (.mapping homeSchema) := by
    simp [overlooked_iff typed]
  exact ⟨fields, field, converts, stands, heeded,
    ((schemaFields_nestsByType_iff converts).2 _ field stands).2 heeded⟩

theorem schemaFields_nestsByType_capital :
    ∃ fields field, schemaFields Value.checkText petsSchema = .ok fields ∧
      StandsFor petsSchema fields (.text "owner", .mapping ownerSchema) field ∧
      field.type = .object ∧ ¬ NestsByType Value.checkText (.mapping ownerSchema) field := by
  obtain ⟨fields, field, converts, stands⟩ := exists_standsFor_pet
    (.text "owner", .mapping ownerSchema) List.mem_cons_self
  obtain ⟨required, converted⟩ := stands.converted converts
  have typed : typeName ownerSchema = .ok "Object" := rfl
  have isObject : typeOfName "Object" = .object := by decide +kernel
  have gives : ∃ inside ∈ (schemaFields Value.checkText ownerSchema).toOption,
      inside.isEmpty = false := by
    decide +kernel
  refine ⟨fields, field, converts, stands, ?_, ?_⟩
  · rw [converted.type_eq rfl typed, isObject]
  · rw [converted.nestsByType_iff, not_not, overlooked_iff typed, isObject]
    obtain ⟨inside, member, held⟩ := gives
    exact ⟨by simp, ownerSchema, .object, inside, eq_ok_of_mem member, by simpa using held⟩

end ApiCatalog.Spec
