import ApiCatalog.Proofs.FiledPaths
import ApiCatalog.Proofs.PropertyFields

/-!
What the request of an operation is made of: fields for its parameters and those of its path, and
then the fields of its JSON body. A parameter of the path counts only if the operation has none of
the same name in the same place.
-/

set_option autoImplicit false

namespace ApiCatalog.Spec

-- Whether two parameters both have a member, and the same one.
def sameMember (key : String) (a b : Entries) : Bool :=
  match Entries.get? key a, Entries.get? key b with
  | some x, some y => x.sameKey y
  | _, _ => false

def overrides (parameter other : Entries) : Bool :=
  sameMember "name" other parameter && sameMember "in" other parameter

-- Names that count as false are none.
def isRequestField (parameter : Entries) : Bool :=
  (Entries.get? "name" parameter).any Value.isTruthy && isFieldPlace (Entries.get? "in" parameter)

-- The parameters that become fields, first those of the path and then those of the operation.
def requestParameters (item operation : Entries) : List Entries :=
  let own := mappings (parametersOf operation)
  let inherited := (mappings (parametersOf item)).filter fun parameter =>
    !own.any (overrides · parameter)
  inherited.filter isRequestField ++ own.filter isRequestField

def isJson (mediaType : Scalar) : Bool :=
  "application/json".toList.isPrefixOf mediaType.display.toList

def mediaSchema? (entry : Scalar × Value) : Option Entries :=
  if isJson entry.1 then
    (mapping? (some entry.2)).bind fun media => mapping? (Entries.get? "schema" media)
  else none

-- The schema of the first JSON body that has one.
def jsonSchemaOf? (body : Entries) : Option Entries :=
  ((mapping? (Entries.get? "content" body)).getD []).findSome? mediaSchema?

def bodySchema? (operation : Entries) : Option Entries :=
  (mapping? (Entries.get? "requestBody" operation)).bind jsonSchemaOf?

variable (asText : TextReader)

def optionalFields : Option Entries → Converted (List Field)
  | some schema => schemaFields asText schema
  | none => .ok []

structure DescribesParameter (parameter : Entries) (field : Field) : Prop where
  name : ∃ name, Entries.get? "name" parameter = some name ∧ field.name = name.display
  isParameter : field.isParameter = true
  nested : field.nested = none
  converted : parameterField? asText parameter = .ok (some field)

/-- The request of an operation in a path: the fields of its parameters, then those of its body. -/
def Requests (item operation : Entries) (method : Method) : Prop :=
  ∃ parameters body : List Field,
    List.Forall₂ (DescribesParameter asText) (requestParameters item operation) parameters ∧
    optionalFields asText (bodySchema? operation) = .ok body ∧
    (∀ field ∈ body, field.isParameter = false) ∧
    (∀ block ∈ method.request, block.fields = parameters ++ body) ∧
    (method.request = none ↔ parameters = [] ∧ body = [])

variable {asText}

section Lists

variable {A B : Type} {items : List A}

theorem eq_filter_of_filterM {p : A → Except SpecFailure Bool} {q : A → Bool} {results : List A}
    (keeps_eq : ∀ a keeps, p a = .ok keeps → keeps = q a)
    (filtered : items.filterM p = .ok results) : results = items.filter q := by
  have steps (kept found : List A) (ends : List.filterAuxM p items kept = .ok found) :
      found = (items.filter q).reverse ++ kept := by
    clear filtered
    induction items generalizing kept with
    | nil =>
      cases ends
      rfl
    | cons item rest ih =>
      obtain ⟨keeps, tested, onward⟩ := bind_eq_ok.1 ends
      rw [ih _ onward, keeps_eq item keeps tested, List.filter_cons]
      cases q item <;> simp
  obtain ⟨found, ends, same⟩ := bind_eq_ok.1 filtered
  cases same
  simp [steps [] found ends]

end Lists

section Parameters

-- Name and place as they are compared, with the empty text for those that are missing.
def comparedBy (parameter : Entries) : Value × Value :=
  ((Entries.get? "name" parameter).getD (.text ""), (Entries.get? "in" parameter).getD (.text ""))

theorem parameterKey_eq {parameter : Entries} {key : Value × Value}
    (isKey : parameterKey parameter = .ok key) : key = comparedBy parameter := by
  have part {key : String} {value : Value} (found : parameterKey.part parameter key = .ok value) :
      value = (Entries.get? key parameter).getD (.text "") := by
    unfold parameterKey.part at found
    dsimp only at found
    split at found <;> cases found
    rfl
  obtain ⟨name, isName, onward⟩ := bind_eq_ok.1 isKey
  obtain ⟨place, isPlace, same⟩ := bind_eq_ok.1 onward
  cases same
  rw [part isName, part isPlace]
  rfl

theorem eq_of_sameKey_text {value : Value} {text : String} (same : value.sameKey (.text text)) :
    value = .text text := by
  cases value with
  | scalar s =>
    rw [Value.sameKey, Scalar.sameKey_text, beq_iff_eq] at same
    rw [same]
  | _ => cases same

theorem sameMember_eq {key : String} {parameter other : Entries} {value : Value}
    (found : Entries.get? key parameter = some value) (held : value ≠ .text "") :
    sameMember key parameter other =
      value.sameKey ((Entries.get? key other).getD (.text "")) := by
  rw [sameMember, found]
  cases Entries.get? key other with
  | some others => rfl
  | none =>
    symm
    rw [Option.getD_none, Bool.eq_false_iff]
    exact fun same => held (eq_of_sameKey_text same)

-- Of a parameter that can become a field neither name nor place is missing.
theorem isRequestField_cases {parameter : Entries} (isField : isRequestField parameter) :
    ∃ name place, Entries.get? "name" parameter = some name ∧ name.isTruthy ∧
      Entries.get? "in" parameter = some (.text place) ∧ place ∈ ["query", "path"] := by
  obtain ⟨named, placed⟩ := Bool.and_eq_true_iff.1 isField
  obtain ⟨name, isName, held⟩ : ∃ name, Entries.get? "name" parameter = some name ∧
      name.isTruthy := by
    cases found : Entries.get? "name" parameter with
    | none => simp [found] at named
    | some name => exact ⟨name, rfl, by simpa [found] using named⟩
  unfold isFieldPlace at placed
  split at placed
  next place isPlace => exact ⟨name, place, isName, held, isPlace, by simpa using placed⟩
  next => cases placed

theorem sameParameter_eq {parameter : Entries} (isField : isRequestField parameter)
    (other : Entries) :
    sameParameter (comparedBy parameter) (comparedBy other) = overrides other parameter := by
  obtain ⟨name, place, isName, held, isPlace, among⟩ := isRequestField_cases isField
  have named : name ≠ .text "" := by
    rintro rfl
    cases held
  have placed : Value.text place ≠ .text "" := by
    intro empty
    cases empty
    revert among
    decide
  rw [overrides, sameMember_eq isName named, sameMember_eq isPlace placed, sameParameter,
    comparedBy, comparedBy, isName, isPlace]
  rfl

theorem mergeParameters_eq {item operation : Entries} {parameters : List Entries}
    (merged : mergeParameters (parametersOf item) (parametersOf operation) = .ok parameters) :
    parameters.filter isRequestField = requestParameters item operation := by
  obtain ⟨overridden, keys, onward⟩ := bind_eq_ok.1 merged
  obtain ⟨inherited, filtered, same⟩ := bind_eq_ok.1 onward
  cases same
  have isOverridden : overridden = (mappings (parametersOf operation)).map comparedBy := by
    have each := (mapM_eq_ok.1 keys).imp fun _ _ => parameterKey_eq
    rw [← List.forall₂_eq_eq_eq, List.forall₂_map_right_iff]
    exact each.flip
  have isInherited := eq_filter_of_filterM (q := fun parameter =>
    !overridden.any (sameParameter (comparedBy parameter))) (fun parameter keeps tested => by
      obtain ⟨key, isKey, same⟩ := bind_eq_ok.1 tested
      cases same
      rw [parameterKey_eq isKey]) filtered
  rw [requestParameters, List.filter_append, isInherited, List.filter_filter, List.filter_filter]
  congr 1
  refine List.filter_congr fun parameter _ => ?_
  by_cases isField : isRequestField parameter
  · simp only [isOverridden, List.any_map, Function.comp_def, sameParameter_eq isField]
  · simp [isField]

theorem parameterField?_cases {parameter : Entries} {found : Option Field}
    (converts : parameterField? asText parameter = .ok found) :
    isRequestField parameter = false ∧ found = none ∨
      isRequestField parameter ∧
        ∃ field, found = some field ∧ DescribesParameter asText parameter field := by
  have original := converts
  unfold parameterField? at converts
  split at converts
  next noName =>
    cases converts
    exact .inl ⟨by simp [isRequestField, noName], rfl⟩
  next name isName =>
    have isField : isRequestField parameter =
        (name.isTruthy && isFieldPlace (Entries.get? "in" parameter)) := by
      rw [isRequestField, isName, Option.any_some]
    split at converts
    next heeded =>
      obtain ⟨text, isShown, converts⟩ := bind_eq_ok.1 converts
      obtain ⟨type, -, converts⟩ := bind_eq_ok.1 converts
      obtain ⟨sample, -, converts⟩ := bind_eq_ok.1 converts
      obtain ⟨field, described, same⟩ := bind_eq_ok.1 converts
      cases same
      obtain ⟨comment, rfl⟩ := describedField_eq described
      exact .inr ⟨isField.trans heeded, _, rfl,
        ⟨name, isName, shown_eq_display isShown⟩, rfl, rfl, original⟩
    next unheeded =>
      cases converts
      exact .inl ⟨by simpa [isField] using unheeded, rfl⟩

theorem parameterFields_describe {parameters : List Entries} {fields : List Field}
    (converts : parameterFields asText parameters = .ok fields) :
    List.Forall₂ (DescribesParameter asText) (parameters.filter isRequestField) fields := by
  obtain ⟨found, mapped, same⟩ := bind_eq_ok.1 converts
  cases same
  have each := mapM_eq_ok.1 mapped
  clear converts mapped
  induction each with
  | nil => exact .nil
  | cons converted _ ih =>
    rcases parameterField?_cases converted with ⟨other, rfl⟩ | ⟨isField, field, rfl, describes⟩
    · simpa [List.filter_cons, other] using ih
    · simpa [List.filter_cons, isField] using ⟨describes, ih⟩

end Parameters

section Body

theorem jsonSchemaIn?_eq {content : Entries} {found : Option Entries}
    (isFound : jsonSchemaIn? content = .ok found) : found = content.findSome? mediaSchema? := by
  induction content with
  | nil =>
    cases isFound
    rfl
  | cons entry rest ih =>
    obtain ⟨mediaType, media⟩ := entry
    rw [jsonSchemaIn?] at isFound
    obtain ⟨type, isShown, isFound⟩ := bind_eq_ok.1 isFound
    obtain rfl : type = mediaType.display := shown_eq_display isShown
    rw [List.findSome?_cons, mediaSchema?, isJson]
    generalize "application/json".toList.isPrefixOf mediaType.display.toList = json at isFound ⊢
    cases isBody : mapping? (some media) with
    | none =>
      rw [isBody] at isFound
      cases json <;> exact ih isFound
    | some body =>
      rw [isBody] at isFound
      cases isSchema : mapping? (Entries.get? "schema" body) with
      | none =>
        simp only [isSchema] at isFound
        simp only [Option.bind_some, isSchema, ite_self]
        exact ih isFound
      | some schema =>
        simp only [isSchema] at isFound
        cases json with
        | false => exact ih isFound
        | true =>
          cases isFound
          simp only [Option.bind_some, isSchema, if_true]

theorem contentFields_eq {body : Entries} {fields : List Field}
    (converts : contentFields asText body = .ok fields) :
    optionalFields asText (jsonSchemaOf? body) = .ok fields := by
  obtain ⟨found, isFound, converts⟩ := bind_eq_ok.1 converts
  have same : found = jsonSchemaOf? body := jsonSchemaIn?_eq isFound
  rw [← same]
  cases found <;> exact converts

theorem bodyFields_eq {operation : Entries} {fields : List Field}
    (converts : bodyFields asText (Entries.get? "requestBody" operation) = .ok fields) :
    optionalFields asText (bodySchema? operation) = .ok fields := by
  unfold bodyFields at converts
  unfold bodySchema?
  split at converts
  next body found =>
    rw [found]
    exact contentFields_eq converts
  next none =>
    rw [none]
    exact converts

theorem optionalFields_plain {schema : Option Entries} {fields : List Field}
    (converts : optionalFields asText schema = .ok fields) :
    ∀ field ∈ fields, field.isParameter = false := by
  cases schema with
  | none =>
    cases converts
    nofun
  | some schema =>
    rw [optionalFields, schemaFields_eq] at converts
    have each := propertyFields_forall converts
    intro field member
    obtain ⟨entry, together⟩ := exists_zip_of_mem each member
    exact (List.forall₂_zip each together).isParameter

end Body

/-- The request of each operation of a path is made of its parameters and its body. -/
theorem convertPath_requests {path : Scalar} {item : Entries} {api : Api} {tag : Option String}
    (converts : convertPath asText path item = .ok (api, tag)) :
    List.Forall₂ (fun operation method => Requests asText item operation.2 method)
      (operationsOf item) api.methods := by
  refine (convertPath_renders converts).1.methods.imp fun operation method related => ?_
  obtain ⟨parameters, fields, body, -, merged, isFields, isBody, -, -, request, -⟩ :=
    convertOperation_cases related.2
  have bodyIs := bodyFields_eq isBody
  refine ⟨fields, body, ?_, bodyIs, optionalFields_plain bodyIs, ?_, ?_⟩
  · rw [← mergeParameters_eq merged]
    exact parameterFields_describe isFields
  · rw [request]
    exact fun block isBlock => fields_of_blockOf isBlock
  · rw [request, blockOf_eq_none_iff, List.append_eq_nil_iff]

def plainParameter (name place : String) : Value :=
  .mapping [(.text "name", .text name), (.text "in", .text place)]

-- One parameter of the path is overridden, one has the same name in another place, and the others
-- are no fields.
def overriddenPath : Entries :=
  let schema : Value := .mapping [(.text "properties", .mapping [(.text "note", .mapping [])])]
  let json : Value := .mapping [(.text "application/json", .mapping [(.text "schema", schema)])]
  [(.text "parameters", .list [plainParameter "id" "query", plainParameter "id" "path", .int 7,
      plainParameter "key" "header", plainParameter "" "query"]),
    (.text "put", .mapping [
      (.text "parameters", .list [plainParameter "page" "query", plainParameter "id" "query"]),
      (.text "requestBody", .mapping [(.text "content", json)])])]

theorem convertPath_requests_overridden :
    ((operationsOf overriddenPath).map fun operation =>
      (requestParameters overriddenPath operation.2).map fun parameter =>
        ["name", "in"].filterMap fun key => (Entries.get? key parameter).map Value.display) =
      [[["id", "path"], ["page", "query"], ["id", "query"]]] ∧
    ∃ api tag, convertPath Value.checkText (.text "/p") overriddenPath = .ok (api, tag) ∧
      List.Forall₂ (fun operation method =>
        Requests Value.checkText overriddenPath operation.2 method)
        (operationsOf overriddenPath) api.methods := by
  have succeeds : (convertPath Value.checkText (.text "/p") overriddenPath).isOk := by
    decide +kernel
  obtain ⟨⟨api, tag⟩, converts⟩ := exists_of_isOk succeeds
  exact ⟨by decide +kernel, api, tag, converts, convertPath_requests converts⟩

end ApiCatalog.Spec
