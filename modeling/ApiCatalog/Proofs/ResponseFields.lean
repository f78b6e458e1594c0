import ApiCatalog.Proofs.RequestFields

/-!
Which response of an operation its fields are taken from. Of the codes that count, the first one
with a response decides, even if this response has no JSON schema and that of a later code does.
-/

set_option autoImplicit false

namespace ApiCatalog.Spec

def responseCodes : List String := ["200", "201", "default"]

def responsesOf (operation : Entries) : Entries :=
  (mapping? (Entries.get? "responses" operation)).getD []

-- The response under a code, which may be a number. Of several ones the last counts.
def responseUnder? (responses : Entries) (code : String) : Option Entries :=
  (responses.findRev? (·.1.display == code)).bind fun entry => mapping? (some entry.2)

-- The response that is heeded: that of the first code that has one.
def heededResponse? (responses : Entries) : Option Entries :=
  responseCodes.findSome? (responseUnder? responses)

/-- The JSON schema of the first code whose response has one. -/
def jsonResponse? (responses : Entries) : Option Entries :=
  responseCodes.findSome? fun code => (responseUnder? responses code).bind jsonSchemaOf?

variable (asText : TextReader)

/-- The response of a method has the fields of a schema, and there is none without fields. -/
def Responds (schema : Option Entries) (method : Method) : Prop :=
  ∃ fields, optionalFields asText schema = .ok fields ∧
    (∀ block ∈ method.response, block.fields = fields) ∧ (method.response = none ↔ fields = [])

variable {asText}

section Selection

variable {A B C : Type} {f : A → Option B} {g : B → Option C} {items : List A}

theorem findSome?_bind_of_some {b : B} {c : C} (first : items.findSome? f = some b)
    (found : g b = some c) : (items.findSome? fun item => (f item).bind g) = some c := by
  induction items with
  | nil => cases first
  | cons item rest ih =>
    rw [List.findSome?_cons] at first ⊢
    cases isFound : f item with
    | none =>
      rw [isFound] at first
      simpa using ih first
    | some b' =>
      rw [isFound] at first
      cases first
      simp [found]

theorem findSome?_bind_of_none (noFirst : items.findSome? f = none) :
    (items.findSome? fun item => (f item).bind g) = none := by
  rw [List.findSome?_eq_none_iff] at noFirst ⊢
  intro item member
  rw [noFirst item member, Option.bind_none]

end Selection

section Responses

variable {responses : Entries}

theorem byCode_eq {listed : List (String × Value)} (byCodes : byCode responses = .ok listed) :
    listed = responses.map fun entry => (entry.1.display, entry.2) := by
  have each := mapM_eq_ok.1 byCodes
  rw [← List.forall₂_eq_eq_eq, List.forall₂_map_right_iff]
  refine List.Forall₂.flip (each.imp fun entry pair shows => ?_)
  obtain ⟨code, isShown, same⟩ := bind_eq_ok.1 shows
  cases same
  rw [shown_eq_display isShown]
  rfl

theorem responseOf?_eq (responses : Entries) (code : String) :
    mapping? (responseOf? (responses.map fun entry => (entry.1.display, entry.2)) code) =
      responseUnder? responses code := by
  rw [responseOf?, responseUnder?, List.findRev?_eq_find?_reverse, ← List.map_reverse]
  generalize responses.reverse = reversed
  induction reversed with
  | nil => rfl
  | cons entry rest ih =>
    by_cases same : entry.1.display = code
    · simp [same]
    · have other : (code == entry.1.display) = false := by simpa using Ne.symm same
      simp only [List.map_cons, List.lookup_cons, other, ih]
      simp [same]

-- Both ways of selecting a schema give the same one, unless the heeded response has none.
theorem jsonResponse?_eq (hasSchema : ∀ response ∈ heededResponse? responses,
      jsonSchemaOf? response ≠ none) :
    jsonResponse? responses = (heededResponse? responses).bind jsonSchemaOf? := by
  cases heeded : heededResponse? responses with
  | none => exact findSome?_bind_of_none heeded
  | some response =>
    obtain ⟨schema, found⟩ := Option.ne_none_iff_exists'.1 (hasSchema response heeded)
    rw [Option.bind_some, found]
    exact findSome?_bind_of_some heeded found

end Responses

theorem responseFields_eq {responses : Option Value} {fields : List Field}
    (converts : responseFields asText responses = .ok fields) :
    optionalFields asText ((heededResponse? ((mapping? responses).getD [])).bind jsonSchemaOf?) =
      .ok fields := by
  obtain ⟨listed, byCodes, converts⟩ := bind_eq_ok.1 converts
  obtain rfl := byCode_eq byCodes
  simp only [responseOf?_eq] at converts
  split at converts
  next response found =>
    have heeded : heededResponse? ((mapping? responses).getD []) = some response := found
    rw [heeded]
    exact contentFields_eq converts
  next notFound =>
    have unheeded : heededResponse? ((mapping? responses).getD []) = none := notFound
    rw [unheeded]
    exact converts

theorem Responds.of_block {schema : Option Entries} {method : Method} {fields : List Field}
    (converts : optionalFields asText schema = .ok fields)
    (response : method.response = blockOf fields) :
    Responds asText schema method := by
  refine ⟨fields, converts, ?_, ?_⟩
  · rw [response]
    exact fun block isBlock => fields_of_blockOf isBlock
  · rw [response, blockOf_eq_none_iff]

/-- The response of an operation is that of the heeded code. It is the first JSON response exactly
if no heeded response without a JSON schema hides fields of that one. -/
theorem convertOperation_responds_iff {pathParameters : List Value} {verb : String}
    {operation : Entries} {method : Method}
    (converts : convertOperation asText pathParameters verb operation = .ok method) :
    Responds asText ((heededResponse? (responsesOf operation)).bind jsonSchemaOf?) method ∧
    (Responds asText (jsonResponse? (responsesOf operation)) method ↔
      ∀ response ∈ heededResponse? (responsesOf operation), jsonSchemaOf? response = none →
        optionalFields asText (jsonResponse? (responsesOf operation)) = .ok []) := by
  obtain ⟨-, -, -, fields, -, -, -, isResponse, -, -, response⟩ := convertOperation_cases converts
  have heededFields : optionalFields asText ((heededResponse? (responsesOf operation)).bind
      jsonSchemaOf?) = .ok fields := responseFields_eq isResponse
  have responds := Responds.of_block heededFields response
  refine ⟨responds, ?_, ?_⟩
  · rintro ⟨jsonFields, isJson, -, nothing⟩ heeded isHeeded noSchema
    -- Without a schema the heeded response has no fields, so the method has no response.
    rw [isHeeded, Option.bind_some, noSchema] at heededFields
    cases heededFields
    rw [isJson, nothing.1 response]
  · intro unhidden
    by_cases hasSchema : ∀ heeded ∈ heededResponse? (responsesOf operation),
        jsonSchemaOf? heeded ≠ none
    · rwa [jsonResponse?_eq hasSchema]
    · push Not at hasSchema
      obtain ⟨heeded, isHeeded, noSchema⟩ := hasSchema
      rw [isHeeded, Option.bind_some, noSchema] at heededFields
      cases heededFields
      exact .of_block (unhidden heeded isHeeded noSchema) response

def jsonBody (mediaType property : String) : Value :=
  let schema : Value := .mapping [(.text "properties", .mapping [(.text property, .mapping [])])]
  .mapping [(.text "content", .mapping [(.text "text/plain", .mapping []),
    (.text mediaType, .mapping [(.text "schema", schema)])])]

def responding (responses : Entries) : Entries := [(.text "responses", .mapping responses)]

-- What is under 200 is no response, 201 is a number, and other codes stand around them.
def numericCodes : Entries :=
  responding [(.text "default", jsonBody "application/json" "late"), (.text "200", .text "see 201"),
    (.int 404, jsonBody "application/json" "fault"),
    (.int 201, jsonBody "application/json; charset=utf-8" "id")]

theorem convertOperation_responds_numeric :
    (heededResponse? (responsesOf numericCodes)).isSome ∧
    ∃ method, convertOperation Value.checkText [] "get" numericCodes = .ok method ∧
      method.response.map (fun block => block.fields.map (·.name)) = some ["id"] ∧
      Responds Value.checkText (jsonResponse? (responsesOf numericCodes)) method := by
  have hasSchema : ∀ response ∈ heededResponse? (responsesOf numericCodes),
      (jsonSchemaOf? response).isSome := by decide +kernel
  have converted : ∃ method ∈ (convertOperation Value.checkText [] "get" numericCodes).toOption,
      method.response.map (fun block => block.fields.map (·.name)) = some ["id"] := by
    decide +kernel
  obtain ⟨method, member, named⟩ := converted
  have converts := eq_ok_of_mem member
  refine ⟨by decide +kernel, method, converts, named, ?_⟩
  apply (convertOperation_responds_iff converts).2.2
  intro response isHeeded noSchema
  simpa [noSchema] using hasSchema response isHeeded

-- A response without a body under 200, and a JSON response under 201.
def emptyFirst : Entries :=
  responding [(.text "200", .mapping [(.text "description", .text "done")]),
    (.text "201", jsonBody "application/json" "id")]

theorem convertOperation_responds_hidden :
    ∃ method, convertOperation Value.checkText [] "get" emptyFirst = .ok method ∧
      (jsonResponse? (responsesOf emptyFirst)).isSome ∧ method.response = none ∧
      ¬ Responds Value.checkText (jsonResponse? (responsesOf emptyFirst)) method := by
  have converted : ∃ method ∈ (convertOperation Value.checkText [] "get" emptyFirst).toOption,
      method.response.isNone := by decide +kernel
  have hasFields : ∃ fields ∈ (optionalFields Value.checkText
      (jsonResponse? (responsesOf emptyFirst))).toOption, fields.length = 1 := by decide +kernel
  obtain ⟨method, member, noResponse⟩ := converted
  obtain ⟨fields, isFields, one⟩ := hasFields
  rw [Option.isNone_iff_eq_none] at noResponse
  refine ⟨method, eq_ok_of_mem member, by decide +kernel, noResponse, ?_⟩
  rintro ⟨others, isOthers, -, nothing⟩
  cases (eq_ok_of_mem isFields).symm.trans isOthers
  simp [nothing.1 noResponse] at one

end ApiCatalog.Spec
