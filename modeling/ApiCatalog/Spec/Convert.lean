import ApiCatalog.Data.Display
import ApiCatalog.Document
import ApiCatalog.Spec.Decode
import ApiCatalog.Spec.Expand
import ApiCatalog.Text.Casing

set_option autoImplicit false

namespace ApiCatalog.Spec

abbrev Converted := Except SpecFailure

-- What reads a text that need not be one.
abbrev TextReader := Value → Checked String

variable (asText : TextReader)

def malformed {α : Type} (detail : String) : Converted α := .error (.reported (.malformed detail))

def accept {α : Type} (record : RecordKind) : Checked α → Converted α
  | .ok value => .ok value
  | .bad issues => .error (.reported (.rejected record issues))

def unwritable : String :=
  "Exceeds the limit (4300 digits) for integer string conversion; use " ++
    "sys.set_int_max_str_digits() to increase the limit"

def shown (value : Value) : Converted String :=
  if value.isWritable then .ok value.display else malformed unwritable

def mapping? : Option Value → Option Entries
  | some (.mapping entries) => some entries
  | _ => none

def listOrEmpty : Option Value → List Value
  | some (.list items) => items
  | _ => []

def optionalText (key : String) (value : Option Value) : Checked (Option String) :=
  (Key.orNull asText (value.getD .null)).within key

def typeOfName (name : String) : FieldType :=
  match Text.lower name with
  | "integer" | "number" => .number
  | "boolean" => .boolean
  | "array" => .array
  | "object" => .object
  | _ => .string

def isNullName : Value → Bool
  | .scalar (.text "null") => true
  | _ => false

-- The type of a schema; of several types the first one other than null.
def typeName (schema : Entries) : Converted String :=
  match Entries.get? "type" schema with
  | none => .ok "string"
  | some (.list types) =>
    match types.filter (!isNullName ·) with
    | first :: _ => shown first
    | [] => .ok "string"
  | some type => shown type

def sampleOf : Option Value → Converted (Option Literal)
  | some (.scalar (.bool b)) => .ok (some (.bool b))
  | some (.scalar (.float x)) => .ok (some (.number x))
  | some (.scalar (.text s)) => .ok (some (.text s))
  | some (.scalar (.int n)) =>
    match Binary64.ofInt? n with
    | some x => .ok (some (.number x))
    | none => .error (.crashed .hugeNumber)
  | _ => .ok none

def describedField (field : Field) (comment : Option Value) : Converted Field :=
  (accept .field (optionalText asText "comment" comment)).map fun comment => { field with comment }

def requiredNames (schema : Entries) : List String :=
  (listOrEmpty (Entries.get? "required" schema)).filterMap fun
    | .scalar (.text name) => some name
    | _ => none

def isRequired (names : List String) : Scalar → Bool
  | .text name => names.contains name
  | _ => false

def blockOf : List Field → Option Schema
  | [] => none
  | fields => some { fields }

-- The fields of the properties of a schema. Objects nest their own properties, arrays those of
-- their items.
mutual
def schemaFields (schema : Entries) : Converted (List Field) :=
  match found : Entries.get? "properties" schema with
  | some (.mapping properties) =>
    have : sizeOf properties < sizeOf schema := by
      have := Entries.sizeOf_lt_of_get? found
      simp only [Value.mapping.sizeOf_spec] at this
      omega
    propertyFields (requiredNames schema) properties
  | _ => .ok []
termination_by sizeOf schema

def propertyFields (required : List String) (properties : Entries) : Converted (List Field) :=
  match properties with
  | [] => .ok []
  | (name, .mapping property) :: rest => do
    let type ← typeName property
    let nested ←
      if type = "object" then schemaFields property
      else if type = "array" then itemFields property
      else pure []
    let shownName ← shown (.scalar name)
    let sample ← sampleOf (Entries.get? "example" property)
    let field ← describedField asText
      { name := shownName, type := typeOfName type
        optional := !isRequired required name, nested := blockOf nested, sample }
      (Entries.get? "description" property)
    return field :: (← propertyFields required rest)
  | (name, _) :: rest => do
    let shownName ← shown (.scalar name)
    let field : Field := { name := shownName, optional := !isRequired required name }
    return field :: (← propertyFields required rest)
termination_by sizeOf properties

def itemFields (schema : Entries) : Converted (List Field) :=
  match found : Entries.get? "items" schema with
  | some (.mapping items) =>
    have : sizeOf items < sizeOf schema := by
      have := Entries.sizeOf_lt_of_get? found
      simp only [Value.mapping.sizeOf_spec] at this
      omega
    schemaFields items
  | _ => .ok []
termination_by sizeOf schema
end

def jsonSchemaIn? : Entries → Converted (Option Entries)
  | [] => .ok none
  | (mediaType, media) :: rest => do
    let type ← shown (.scalar mediaType)
    match mapping? (some media) with
    | some media =>
      match mapping? (Entries.get? "schema" media) with
      | some schema =>
        if "application/json".toList.isPrefixOf type.toList then return some schema
        else jsonSchemaIn? rest
      | none => jsonSchemaIn? rest
    | none => jsonSchemaIn? rest

def jsonSchema? (content : Option Value) : Converted (Option Entries) :=
  jsonSchemaIn? ((mapping? content).getD [])

def contentFields (body : Entries) : Converted (List Field) := do
  match ← jsonSchema? (Entries.get? "content" body) with
  | some schema => schemaFields asText schema
  | none => return []

def byCode (responses : Entries) : Converted (List (String × Value)) :=
  responses.mapM fun (code, response) => do return (← shown (.scalar code), response)

def responseOf? (responses : List (String × Value)) (code : String) : Option Value :=
  responses.reverse.lookup code

-- The first of the codes whose response is a mapping decides.
def responseFields (responses : Option Value) : Converted (List Field) := do
  let responses ← byCode ((mapping? responses).getD [])
  match ["200", "201", "default"].findSome? fun code => mapping? (responseOf? responses code) with
  | some response => contentFields asText response
  | none => return []

def bodyFields (requestBody : Option Value) : Converted (List Field) :=
  match mapping? requestBody with
  | some body => contentFields asText body
  | none => .ok []

def parameterKey (parameter : Entries) : Converted (Value × Value) := do
  return (← part "name", ← part "in")
where
  part (key : String) : Converted Value :=
    let value := (Entries.get? key parameter).getD (.text "")
    if value.isKey then .ok value else malformed s!"unhashable type: '{value.unhashableType}'"

def sameParameter (a b : Value × Value) : Bool := a.1.sameKey b.1 && a.2.sameKey b.2

def mappings (items : List Value) : List Entries := items.filterMap fun item => mapping? (some item)

-- Parameters of a path hold for its operations, unless an operation has its own.
def mergeParameters (ofPath ofOperation : List Value) : Converted (List Entries) := do
  let own := mappings ofOperation
  let overridden ← own.mapM parameterKey
  let inherited ← (mappings ofPath).filterM fun parameter => do
    let key ← parameterKey parameter
    return !overridden.any (sameParameter key)
  return inherited ++ own

def isFieldPlace : Option Value → Bool
  | some (.scalar (.text place)) => place == "query" || place == "path"
  | _ => false

def parameterField? (parameter : Entries) : Converted (Option Field) :=
  match Entries.get? "name" parameter with
  | none => .ok none
  | some name =>
    if name.isTruthy && isFieldPlace (Entries.get? "in" parameter) then do
      let schema := (mapping? (Entries.get? "schema" parameter)).getD []
      let shownName ← shown name
      let type ← typeName schema
      let sample ← sampleOf ((Entries.get? "example" schema).or (Entries.get? "example" parameter))
      let field ← describedField asText
        { name := shownName, type := typeOfName type
          optional := !((Entries.get? "required" parameter).map Value.isTruthy).getD false
          sample, isParameter := true }
        (Entries.get? "description" parameter)
      return some field
    else .ok none

def parameterFields (parameters : List Entries) : Converted (List Field) := do
  return (← parameters.mapM (parameterField? asText)).filterMap id

def operationName (operation : Entries) : Option Value :=
  match Entries.get? "summary" operation with
  | some summary => if summary.isTruthy then some summary else Entries.get? "operationId" operation
  | none => Entries.get? "operationId" operation

def convertOperation (pathParameters : List Value) (verb : String) (operation : Entries) :
    Converted Method := do
  let parameters ←
    mergeParameters pathParameters (listOrEmpty (Entries.get? "parameters" operation))
  let fields ← parameterFields asText parameters
  let body ← bodyFields asText (Entries.get? "requestBody" operation)
  let response ← responseFields asText (Entries.get? "responses" operation)
  let method name description : Method :=
    { verb := Text.upper verb, name, description, request := blockOf (fields ++ body)
      response := blockOf response }
  accept .method (method <$> optionalText asText "name" (operationName operation)
    <*> optionalText asText "description" (Entries.get? "description" operation))

def verbs : List String := ["get", "post", "put", "delete", "patch", "head", "options"]

def operation? (key : Scalar) (value : Value) : Converted (Option (String × Entries)) :=
  match key with
  | .text verb =>
    if verbs.contains (Text.lower verb) then .ok ((mapping? (some value)).map (verb, ·))
    else .ok none
  | .bytes _ => .ok none
  | _ => malformed s!"'{key.className}' object has no attribute 'lower'"

def firstTag? (operation : Entries) : Converted (Option String) :=
  match Entries.get? "tags" operation with
  | some (.list (tag :: _)) => (shown tag).map some
  | _ => .ok none

-- The methods of a path and its tag: the first tag of its first operation with tags.
def convertOperations (pathParameters : List Value) (tag : Option String) :
    Entries → Converted (List Method × Option String)
  | [] => .ok ([], tag)
  | (key, value) :: rest => do
    match ← operation? key value with
    | none => convertOperations pathParameters tag rest
    | some (verb, operation) =>
      let tag ← if tag.isSome then pure tag else firstTag? operation
      let method ← convertOperation asText pathParameters verb operation
      let (methods, tag) ← convertOperations pathParameters tag rest
      return (method :: methods, tag)

def convertPath (path : Scalar) (item : Entries) : Converted (Api × Option String) := do
  let path ← shown (.scalar path)
  let parameters := listOrEmpty (Entries.get? "parameters" item)
  let (methods, tag) ← convertOperations asText parameters none item
  return ({ path, methods }, tag)

def convertPaths : Entries → Converted (List (Api × Option String))
  | [] => .ok []
  | (path, .mapping item) :: rest => do
    let (api, tag) ← convertPath asText path item
    let later ← convertPaths rest
    return if api.methods.isEmpty then later else (api, tag) :: later
  | _ :: rest => convertPaths rest

def categoryId (tag : String) : String :=
  "openapi-" ++ String.ofList ((Text.lower tag).toList.map fun c => if c = ' ' then '-' else c)

def sortedTags (apis : List (Api × Option String)) : List String :=
  ((apis.filterMap (·.2)).eraseDups).mergeSort (· ≤ ·)

def tagCategory (apis : List (Api × Option String)) (tag : String) : Category :=
  { id := categoryId tag, name := some tag
    apis := (apis.filter fun (_, t) => t == some tag).map (·.1) }

def rootCategory (apis : List (Api × Option String)) : Category :=
  { id := "openapi", name := some "OpenAPI"
    description := some "Imported from OpenAPI specification"
    apis := (apis.filter fun (_, t) => t.isNone).map (·.1)
    children := (sortedTags apis).map (tagCategory apis) }

def serverUrl? (spec : Entries) : Converted (Option String) :=
  match Entries.get? "servers" spec with
  | some (.list (.mapping server :: _)) =>
    match Entries.get? "url" server with
    | some url => if url.isTruthy then (shown url).map some else .ok none
    | none => .ok none
  | _ => .ok none

def convert (spec : Entries) : Converted Document := do
  let config := (← serverUrl? spec).map fun url => ({ baseUrls := [url] } : Config)
  match mapping? (Entries.get? "paths" spec) with
  | none => return { config }
  | some paths => return { config, categories := [rootCategory (← convertPaths asText paths)] }

def toDocument (spec : Entries) : Converted Document := do
  match ← inlined (.mapping spec) with
  | .mapping entries => convert asText entries
  | value => malformed s!"'{value.className}' object has no attribute 'get'"

def documentOfText (yaml : YamlReader) (hint : Hint) (content : String) : Converted Document := do
  toDocument asText (← decode yaml hint content)

end ApiCatalog.Spec
