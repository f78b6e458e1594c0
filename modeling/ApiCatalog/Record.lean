import ApiCatalog.Check

set_option autoImplicit false

namespace ApiCatalog

-- Simple kinds of values. A strict one takes nothing that would have to be converted.
inductive Plain
  | text
  | flag
  | number
  | count
  | strictText
  | strictFlag
  deriving DecidableEq, Repr

namespace Plain

def isExact : Plain → Scalar → Bool
  | .text, .text _ | .strictText, .text _ => true
  | .flag, .bool _ | .strictFlag, .bool _ => true
  | .number, .float _ => true
  | .count, .int _ => true
  | _, _ => false

end Plain

inductive RecordName
  | field
  | schema
  | configVariable
  | header
  | config
  | method
  | api
  | socketEvent
  | socket
  | streamEvent
  | eventStream
  | category
  | document
  | endpoint
  | categoryNode
  deriving DecidableEq, Repr

inductive Shape
  | plain (kind : Plain)
  | union (kinds : List Plain)
  | choice (names : List String)
  | optional (shape : Shape)
  | list (shape : Shape)
  | record (name : RecordName)
  deriving Repr

inductive Item
  | scalar (s : Scalar)
  | choice (name : String)
  | list (items : List Item)
  | record (name : RecordName) (members : List (String × Item))
  deriving Repr

namespace Item

abbrev null : Item := .scalar .null
abbrev flag (b : Bool) : Item := .scalar (.bool b)
abbrev text (s : String) : Item := .scalar (.text s)

def isNull : Item → Bool
  | scalar .null => true
  | _ => false

mutual
def scalars : Item → List Scalar
  | scalar s => [s]
  | choice _ => []
  | list items => scalarsOfItems items
  | record _ members => scalarsOfMembers members

def scalarsOfItems : List Item → List Scalar
  | [] => []
  | item :: rest => scalars item ++ scalarsOfItems rest

def scalarsOfMembers : List (String × Item) → List Scalar
  | [] => []
  | (_, item) :: rest => scalars item ++ scalarsOfMembers rest
end

end Item

/-- A member is declared with the words of its name. Without a default it has to be there. -/
structure Member where
  words : List String
  shape : Shape
  default : Option Item := none

def Member.name (m : Member) : String := "_".intercalate m.words

namespace RecordName

def text (words : List String) : Member := ⟨words, .plain .text, none⟩

def optionalText (words : List String) : Member := ⟨words, .optional (.plain .text), some .null⟩

def flag (words : List String) : Member := ⟨words, .plain .flag, some (.flag false)⟩

def optionalSchema (words : List String) : Member :=
  ⟨words, .optional (.record .schema), some .null⟩

def records (words : List String) (name : RecordName) : Member :=
  ⟨words, .list (.record name), some (.list [])⟩

def optionalRecords (words : List String) (name : RecordName) : Member :=
  ⟨words, .optional (.list (.record name)), some .null⟩

def texts (words : List String) : Member := ⟨words, .list (.plain .text), some (.list [])⟩

def optionalLiteral (words : List String) : Member :=
  ⟨words, .optional (.union [.strictFlag, .number, .strictText]), some .null⟩

def blocks : List Member :=
  [records ["apis"] .api, records ["ws", "apis"] .socket, records ["socketio", "apis"] .socket,
    records ["sse", "apis"] .eventStream]

def members : RecordName → List Member
  | field =>
    [text ["name"],
      ⟨["field", "type"], .choice ["string", "number", "boolean", "array", "object"],
        some (.choice "string")⟩,
      flag ["optional"], optionalSchema ["nested"], optionalLiteral ["mock"],
      optionalLiteral ["example"], optionalText ["comment"], flag ["is", "params"]]
  | schema => [records ["fields"] .field, flag ["optional"]]
  | configVariable =>
    [text ["name"], ⟨["var", "type"], .plain .text, some (.text "String")⟩,
      optionalText ["default", "value"]]
  | header => [text ["name"], optionalText ["default", "value"]]
  | config =>
    [texts ["base", "urls"], flag ["cors"], flag ["mock"],
      records ["variables"] .configVariable, records ["headers"] .header]
  | method =>
    [text ["method"], optionalText ["name"], optionalText ["description"],
      optionalSchema ["request"], optionalSchema ["response"]]
  | api => [text ["path"], records ["methods"] .method]
  | socketEvent => [text ["name"], optionalSchema ["request"], optionalSchema ["response"]]
  | socket =>
    [text ["url"], optionalText ["name"], optionalText ["description"], optionalSchema ["auth"],
      optionalSchema ["connect", "headers"], records ["events"] .socketEvent]
  | streamEvent => [text ["name"], records ["fields"] .field]
  | eventStream =>
    [text ["path"], optionalText ["name"], optionalText ["description"],
      optionalSchema ["request"], records ["events"] .streamEvent]
  | category =>
    [text ["id"], optionalText ["name"], optionalText ["desc"], optionalText ["prefix"]] ++
      blocks ++ [records ["children"] .category]
  | document =>
    [⟨["config"], .optional (.record .config), some .null⟩, texts ["imports"]] ++ blocks ++
      [records ["categories"] .category]
  | endpoint =>
    [text ["id"], ⟨["endpoint", "type"], .choice ["http", "websocket", "socketio", "sse"], none⟩,
      text ["path"], optionalText ["full", "url"], optionalText ["method"], optionalText ["name"],
      optionalText ["description"], optionalSchema ["request"], optionalSchema ["response"],
      optionalRecords ["events"] .socketEvent, optionalRecords ["sse", "events"] .streamEvent,
      optionalSchema ["auth"], optionalSchema ["connect", "headers"],
      optionalText ["category", "id"], optionalText ["category", "name"]]
  | categoryNode =>
    [text ["id"], optionalText ["name"], optionalText ["desc"],
      ⟨["endpoint", "count"], .plain .count, some (.scalar (.int 0))⟩,
      records ["children"] .categoryNode]

end RecordName

def Item.of (name : RecordName) (items : List Item) : Item :=
  .record name ((name.members.map Member.name).zip items)

-- How records are written: their members under outward or under plain names, and those that
-- hold nothing as null or not at all.
structure Spelling where
  isOutward : Bool
  keepsAbsent : Bool
  deriving DecidableEq, Repr

def Spelling.outward : Spelling := ⟨true, false⟩

/-- What writes records as data and reads them back, by what is declared of their members. It makes
the outward names out of the plain ones. -/
structure RecordLibrary where
  outward : String → String
  dump : Spelling → Item → Value
  check : Shape → Value → Checked Item

namespace RecordLibrary

def capitalized (word : String) : String :=
  match word.toList with
  | [] => ""
  | c :: rest => String.ofList (c.toUpper :: rest)

def camelCase : List String → String
  | [] => ""
  | first :: rest => first ++ String.join (rest.map capitalized)

end RecordLibrary

end ApiCatalog
