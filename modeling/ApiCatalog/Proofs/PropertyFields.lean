import ApiCatalog.Proofs.TagCategories

/-!
What the properties of a schema are converted to, one field for each. The lemmas here say all that
conversion does with a property, so that no other proof has to look into it.
-/

set_option autoImplicit false

namespace ApiCatalog.Spec

/-- What the type of a schema is called: the text of its `type`, or of the first member of a list
that is not the text `null`. Without any it is called a string. -/
inductive HasTypeName (schema : Entries) : String → Prop
  | absent (unnamed : Entries.get? "type" schema = none) : HasTypeName schema "string"
  | named {type : Value} (found : Entries.get? "type" schema = some type)
      (single : ∀ types, type ≠ .list types) (writable : type.isWritable) :
      HasTypeName schema type.display
  | first {nulls others : List Value} {type : Value}
      (found : Entries.get? "type" schema = some (.list (nulls ++ type :: others)))
      (skipped : ∀ value ∈ nulls, value = .text "null") (other : type ≠ .text "null")
      (writable : type.isWritable) : HasTypeName schema type.display
  | nulls {types : List Value} (found : Entries.get? "type" schema = some (.list types))
      (skipped : ∀ value ∈ types, value = .text "null") : HasTypeName schema "string"

theorem isNullName_iff {value : Value} : isNullName value ↔ value = .text "null" := by
  unfold isNullName
  split <;> simp_all [Value.text]

theorem shown_eq_ok_iff {value : Value} {text : String} :
    shown value = .ok text ↔ value.isWritable ∧ value.display = text := by
  by_cases writable : value.isWritable <;> simp [shown, malformed, writable]

theorem typeName_eq_ok_iff {schema : Entries} {name : String} :
    typeName schema = .ok name ↔ HasTypeName schema name := by
  constructor
  · intro named
    unfold typeName at named
    split at named
    next absent =>
      cases named
      exact .absent absent
    next types found =>
      split at named
      next type others kept =>
        obtain ⟨writable, rfl⟩ := shown_eq_ok_iff.1 named
        obtain ⟨nulls, rest, split, skipped, other, -⟩ := List.filter_eq_cons_iff.1 kept
        refine .first (split ▸ found) (fun value member => ?_) ?_ writable
        · exact isNullName_iff.1 (by simpa using skipped value member)
        · exact fun null => by simp [isNullName_iff.2 null] at other
      next none =>
        cases named
        refine .nulls found fun value member => isNullName_iff.1 ?_
        simpa using List.filter_eq_nil_iff.1 none value member
    next type notList found =>
      obtain ⟨writable, rfl⟩ := shown_eq_ok_iff.1 named
      exact .named found notList writable
  · intro typed
    cases typed with
    | absent unnamed => rw [typeName, unnamed]
    | @named type found single writable =>
      rw [typeName, found]
      split
      next impossible => cases impossible
      next types isList => exact absurd (Option.some.inj isList) (single types)
      next isType =>
        cases isType
        exact shown_eq_ok_iff.2 ⟨writable, rfl⟩
    | @first nulls others type found skipped other writable =>
      have dropped : nulls.filter (!isNullName ·) = [] := by
        simpa [List.filter_eq_nil_iff, isNullName_iff] using skipped
      have kept : isNullName type = false := Bool.eq_false_iff.2 (mt isNullName_iff.1 other)
      simp [typeName, found, dropped, kept, shown_eq_ok_iff, writable]
    | @nulls types found skipped =>
      have dropped : types.filter (!isNullName ·) = [] := by
        simpa [List.filter_eq_nil_iff, isNullName_iff] using skipped
      simp [typeName, found, dropped]

def propertiesOf (schema : Entries) : Entries :=
  (mapping? (Entries.get? "properties" schema)).getD []

variable (asText : TextReader)

-- The fields inside of a property of the given type.
def insideFields (type : String) (property : Entries) : Converted (List Field) :=
  if type = "object" then schemaFields asText property
  else if type = "array" then itemFields asText property
  else .ok []

structure ConvertedProperty (required : List String) (entry : Scalar × Value) (field : Field) :
    Prop where
  name : field.name = entry.1.display
  optional : field.optional = !isRequired required entry.1
  isParameter : field.isParameter = false
  inside : (∃ property type inside, entry.2 = .mapping property ∧ typeName property = .ok type ∧
      field.type = typeOfName type ∧ insideFields asText type property = .ok inside ∧
      field.nested = blockOf inside) ∨
    mapping? (some entry.2) = none ∧ field.type = .string ∧ field.nested = none

variable {asText}

theorem exists_zip_of_mem {A B : Type} {R : A → B → Prop} {xs : List A} {ys : List B}
    (related : List.Forall₂ R xs ys) {y : B} (member : y ∈ ys) : ∃ x, (x, y) ∈ xs.zip ys := by
  induction related with
  | nil => cases member
  | @cons first second _ _ _ _ ih =>
    rcases List.mem_cons.1 member with rfl | later
    · exact ⟨first, List.mem_cons_self⟩
    · obtain ⟨x, found⟩ := ih later
      exact ⟨x, List.mem_cons_of_mem _ found⟩

theorem mapping?_eq_none {value : Option Value}
    (other : ∀ entries, value ≠ some (.mapping entries)) : mapping? value = none := by
  cases found : mapping? value with
  | none => rfl
  | some entries => exact absurd (mapping?_eq_some found) (other entries)

theorem schemaFields_eq (schema : Entries) :
    schemaFields asText schema =
      propertyFields asText (requiredNames schema) (propertiesOf schema) := by
  rw [schemaFields.eq_def]
  split
  next properties found => simp [propertiesOf, found, mapping?]
  next noProperties =>
    rw [propertiesOf, mapping?_eq_none noProperties, Option.getD_none, propertyFields]

theorem itemFields_eq (schema : Entries) :
    itemFields asText schema =
      match mapping? (Entries.get? "items" schema) with
      | some items => schemaFields asText items
      | none => .ok [] := by
  rw [itemFields.eq_def]
  split
  next items found => simp [found, mapping?]
  next noItems => rw [mapping?_eq_none noItems]

theorem blockOf_eq_none_iff {fields : List Field} : blockOf fields = none ↔ fields = [] := by
  cases fields <;> simp [blockOf]

theorem fields_of_blockOf {fields : List Field} {block : Schema}
    (isBlock : blockOf fields = some block) : block.fields = fields := by
  cases fields <;> cases isBlock
  rfl

theorem describedField_eq {field described : Field} {comment : Option Value}
    (checked : describedField asText field comment = .ok described) :
    ∃ text, described = { field with comment := text } := by
  obtain ⟨text, -, rfl⟩ := map_eq_ok.1 checked
  exact ⟨text, rfl⟩

theorem propertyFields_cons {required : List String} {entry : Scalar × Value} {rest : Entries}
    {fields : List Field} (converts : propertyFields asText required (entry :: rest) = .ok fields) :
    ∃ field later, fields = field :: later ∧ ConvertedProperty asText required entry field ∧
      propertyFields asText required rest = .ok later := by
  obtain ⟨name, value⟩ := entry
  by_cases isMapping : ∃ property, value = .mapping property
  · obtain ⟨property, rfl⟩ := isMapping
    rw [propertyFields] at converts
    obtain ⟨type, typed, converts⟩ := bind_eq_ok.1 converts
    obtain ⟨inside, nested, onward⟩ : ∃ inside,
        insideFields asText type property = .ok inside ∧ (do
          let shownName ← shown (.scalar name)
          let sample ← sampleOf (Entries.get? "example" property)
          let field ← describedField asText
            { name := shownName, type := typeOfName type
              optional := !isRequired required name, nested := blockOf inside, sample }
            (Entries.get? "description" property)
          return field :: (← propertyFields asText required rest)) = .ok fields := by
      split at converts
      next isObject =>
        obtain ⟨inside, nested, onward⟩ := bind_eq_ok.1 converts
        exact ⟨inside, by rw [insideFields, if_pos isObject, nested], onward⟩
      next noObject =>
        split at converts
        next isArray =>
          obtain ⟨inside, nested, onward⟩ := bind_eq_ok.1 converts
          exact ⟨inside, by rw [insideFields, if_neg noObject, if_pos isArray, nested], onward⟩
        next noArray =>
          exact ⟨[], by rw [insideFields, if_neg noObject, if_neg noArray], converts⟩
    obtain ⟨text, isShown, onward⟩ := bind_eq_ok.1 onward
    obtain ⟨sample, -, onward⟩ := bind_eq_ok.1 onward
    obtain ⟨field, described, onward⟩ := bind_eq_ok.1 onward
    obtain ⟨later, others, same⟩ := bind_eq_ok.1 onward
    cases same
    obtain ⟨comment, rfl⟩ := describedField_eq described
    refine ⟨_, later, rfl, ?_, others⟩
    exact ⟨shown_eq_display isShown, rfl, rfl,
      .inl ⟨property, type, inside, rfl, typed, rfl, nested, rfl⟩⟩
  · have noMapping : mapping? (some value) = none :=
      mapping?_eq_none fun property same => isMapping ⟨property, Option.some.inj same⟩
    rw [propertyFields.eq_3 _ _ _ _ _ (fun property same => isMapping ⟨property, same⟩)] at converts
    obtain ⟨text, isShown, onward⟩ := bind_eq_ok.1 converts
    obtain ⟨later, others, same⟩ := bind_eq_ok.1 onward
    cases same
    exact ⟨_, later, rfl, ⟨shown_eq_display isShown, rfl, rfl, .inr ⟨noMapping, rfl, rfl⟩⟩, others⟩

theorem propertyFields_forall {required : List String} {properties : Entries}
    {fields : List Field} (converts : propertyFields asText required properties = .ok fields) :
    List.Forall₂ (ConvertedProperty asText required) properties fields := by
  induction properties generalizing fields with
  | nil =>
    rw [propertyFields] at converts
    cases converts
    exact .nil
  | cons entry rest ih =>
    obtain ⟨field, later, rfl, converted, others⟩ := propertyFields_cons converts
    exact .cons converted (ih others)

end ApiCatalog.Spec
