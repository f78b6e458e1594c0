import ApiCatalog.Json.Read
import ApiCatalog.Externals

set_option autoImplicit false

namespace ApiCatalog

inductive RecordKind
  | method
  | field
  deriving DecidableEq

def RecordKind.title : RecordKind → String
  | method => "MethodBlock"
  | field => "SchemaField"

inductive SpecError
  | invalidJson (detail : String)
  | undecodable (jsonDetail : Option String) (yamlDetail : String)
  | notObject (typeName : String)
  | missingKey (reference key : String)
  | badIndex (reference segment : String)
  | notContainer (reference typeName : String)
  | malformed (detail : String)
  | rejected (record : RecordKind) (issues : List Issue)
  | status (code : Int) (url : String)
  | unreachable (url detail : String)
  | fileNotFound (path : String)
  | unreadable (path detail : String)
  | emptyFile (path : String)

def SpecError.message (explain : String → List Issue → String) : SpecError → String
  | invalidJson detail => s!"Invalid JSON: {detail}"
  | undecodable jsonDetail yamlDetail =>
    "Failed to decode OpenAPI spec as JSON or YAML" ++
      (match jsonDetail with
      | some detail => s!"\n  JSON error: {detail}"
      | none => "") ++ s!"\n  YAML error: {yamlDetail}"
  | notObject typeName => s!"OpenAPI spec must be a JSON/YAML object (got {typeName})"
  | missingKey reference key => s!"Cannot resolve $ref '{reference}': key '{key}' not found"
  | badIndex reference segment =>
    s!"Cannot resolve $ref '{reference}': invalid array index '{segment}'"
  | notContainer reference typeName =>
    s!"Cannot resolve $ref '{reference}': cannot navigate into {typeName}"
  | malformed detail => s!"Malformed OpenAPI spec: {detail}"
  | rejected record issues => s!"Malformed OpenAPI spec: {explain record.title issues}"
  | status code url => s!"HTTP {code} fetching OpenAPI spec from {url}"
  | unreachable url detail => s!"Failed to fetch OpenAPI spec from {url}: {detail}"
  | fileNotFound path => s!"OpenAPI file not found: {path}"
  | unreadable path detail => s!"Failed to read OpenAPI file {path}: {detail}"
  | emptyFile path => s!"OpenAPI file is empty: {path}"

abbrev SpecFailure := Failure SpecError

namespace Spec

inductive Hint
  | json
  | yaml
  | none
  deriving DecidableEq, Repr

def Hint.ofName : String → Hint
  | "json" => .json
  | "yaml" => .yaml
  | _ => .none

def Hint.ofFormat : String → Hint
  | "yml" => .yaml
  | name => .ofName name

def requireObject : Value → Except SpecFailure Entries
  | .mapping entries => .ok entries
  | .scalar .null => .error (.reported (.notObject "empty document"))
  | value => .error (.reported (.notObject value.typeName))

def decodeYaml (yaml : YamlReader) (jsonDetail : Option String) (content : String) :
    Except SpecFailure Entries :=
  match yaml content with
  | .ok value => requireObject value
  | .error (.malformed detail) => .error (.reported (.undecodable jsonDetail detail))
  | .error (.crashed crash) => .error (.crashed crash)

def decode (yaml : YamlReader) (hint : Hint) (content : String) : Except SpecFailure Entries :=
  if hint = .yaml then decodeYaml yaml none content
  else
    match Json.ofText content with
    | .ok value => requireObject value
    | .error (.longInteger _) => .error (.crashed .longInteger)
    | .error fault =>
      let detail := fault.message content.toList
      if hint = .json then .error (.reported (.invalidJson detail))
      else decodeYaml yaml (some detail) content

end Spec

end ApiCatalog
