import ApiCatalog.Document
import ApiCatalog.Record

set_option autoImplicit false

namespace ApiCatalog

def FieldType.name : FieldType → String
  | string => "string"
  | number => "number"
  | boolean => "boolean"
  | array => "array"
  | object => "object"

def FieldType.ofName? : String → Option FieldType
  | "string" => some .string
  | "number" => some .number
  | "boolean" => some .boolean
  | "array" => some .array
  | "object" => some .object
  | _ => none

namespace Item

variable {α : Type}

def ofOption (object : α → Item) (a : Option α) : Item := (a.map object).getD .null

def ofList (object : α → Item) (items : List α) : Item := .list (items.map object)

def optionalText (s : Option String) : Item := ofOption Item.text s

def text? : Item → Option String
  | scalar (.text s) => some s
  | _ => none

def flag? : Item → Option Bool
  | scalar (.bool b) => some b
  | _ => none

def option? (read : Item → Option α) (item : Item) : Option (Option α) :=
  if item.isNull then some none else (read item).map some

def list? (read : Item → Option α) : Item → Option (List α)
  | list items => items.mapM read
  | _ => none

def optionalText? (item : Item) : Option (Option String) := item.option? text?

def fieldType? : Item → Option FieldType
  | choice name => FieldType.ofName? name
  | _ => none

end Item

def Literal.object : Literal → Item
  | bool b => .flag b
  | number x => .scalar (.float x)
  | text s => .text s

def Literal.ofObject? : Item → Option Literal
  | .scalar (.bool b) => some (.bool b)
  | .scalar (.float x) => some (.number x)
  | .scalar (.text s) => some (.text s)
  | _ => none

section Objects

mutual
def Field.object : Field → Item
  | ⟨name, type, optional, nested, mock, sample, comment, isParameter⟩ =>
    .of .field
      [.text name, .choice type.name, .flag optional, nestedObject nested,
        .ofOption Literal.object mock, .ofOption Literal.object sample, .optionalText comment,
        .flag isParameter]

def nestedObject : Option (FieldBlock Field) → Item
  | none => .null
  | some block => FieldBlock.object block

def FieldBlock.object : FieldBlock Field → Item
  | ⟨fields, optional⟩ => .of .schema [.list (fieldObjects fields), .flag optional]

def fieldObjects : List Field → List Item
  | [] => []
  | field :: rest => Field.object field :: fieldObjects rest
end

def Schema.object (schema : Schema) : Item := FieldBlock.object schema

def Variable.object (v : Variable) : Item :=
  .of .configVariable [.text v.name, .text v.type, .optionalText v.default]

def Header.object (h : Header) : Item := .of .header [.text h.name, .optionalText h.default]

def Config.object (c : Config) : Item :=
  .of .config
    [.ofList .text c.baseUrls, .flag c.cors, .flag c.mock, .ofList Variable.object c.vars,
      .ofList Header.object c.headers]

def Method.object (m : Method) : Item :=
  .of .method
    [.text m.verb, .optionalText m.name, .optionalText m.description,
      .ofOption Schema.object m.request, .ofOption Schema.object m.response]

def Api.object (a : Api) : Item := .of .api [.text a.path, .ofList Method.object a.methods]

def SocketEvent.object (e : SocketEvent) : Item :=
  .of .socketEvent
    [.text e.name, .ofOption Schema.object e.request, .ofOption Schema.object e.response]

def Socket.object (s : Socket) : Item :=
  .of .socket
    [.text s.url, .optionalText s.name, .optionalText s.description,
      .ofOption Schema.object s.auth, .ofOption Schema.object s.connectHeaders,
      .ofList SocketEvent.object s.events]

def StreamEvent.object (e : StreamEvent) : Item :=
  .of .streamEvent [.text e.name, .ofList Field.object e.fields]

def EventStream.object (s : EventStream) : Item :=
  .of .eventStream
    [.text s.path, .optionalText s.name, .optionalText s.description,
      .ofOption Schema.object s.request, .ofList StreamEvent.object s.events]

mutual
def Category.object : Category → Item
  | ⟨id, name, description, basePath, apis, sockets, eventSockets, streams, children⟩ =>
    .of .category
      [.text id, .optionalText name, .optionalText description, .optionalText basePath,
        .ofList Api.object apis, .ofList Socket.object sockets,
        .ofList Socket.object eventSockets, .ofList EventStream.object streams,
        .list (categoryObjects children)]

def categoryObjects : List Category → List Item
  | [] => []
  | category :: rest => Category.object category :: categoryObjects rest
end

def Document.object (d : Document) : Item :=
  .of .document
    [.ofOption Config.object d.config, .ofList .text d.imports, .ofList Api.object d.apis,
      .ofList Socket.object d.sockets, .ofList Socket.object d.eventSockets,
      .ofList EventStream.object d.streams, .list (categoryObjects d.categories)]

end Objects

section Reading

mutual
def Field.ofObject? : Item → Option Field
  | .record .field [(_, name), (_, type), (_, optional), (_, nested), (_, mock), (_, sample),
      (_, comment), (_, isParameter)] => do
    return ⟨← name.text?, ← type.fieldType?, ← optional.flag?, ← nestedOfObject? nested,
      ← mock.option? Literal.ofObject?, ← sample.option? Literal.ofObject?,
      ← comment.optionalText?, ← isParameter.flag?⟩
  | _ => none

def nestedOfObject? : Item → Option (Option Schema)
  | .scalar .null => some none
  | .record .schema [(_, .list fields), (_, optional)] => do
    return some ⟨← fieldsOfObjects? fields, ← optional.flag?⟩
  | _ => none

def fieldsOfObjects? : List Item → Option (List Field)
  | [] => some []
  | item :: rest => do return (← Field.ofObject? item) :: (← fieldsOfObjects? rest)
end

def Schema.ofObject? (item : Item) : Option Schema := (nestedOfObject? item).join

def Variable.ofObject? : Item → Option Variable
  | .record .configVariable [(_, name), (_, type), (_, default)] => do
    return ⟨← name.text?, ← type.text?, ← default.optionalText?⟩
  | _ => none

def Header.ofObject? : Item → Option Header
  | .record .header [(_, name), (_, default)] => do
    return ⟨← name.text?, ← default.optionalText?⟩
  | _ => none

def Config.ofObject? : Item → Option Config
  | .record .config [(_, baseUrls), (_, cors), (_, mock), (_, vars), (_, headers)] => do
    return ⟨← baseUrls.list? Item.text?, ← cors.flag?, ← mock.flag?,
      ← vars.list? Variable.ofObject?, ← headers.list? Header.ofObject?⟩
  | _ => none

def Method.ofObject? : Item → Option Method
  | .record .method [(_, verb), (_, name), (_, description), (_, request), (_, response)] => do
    return ⟨← verb.text?, ← name.optionalText?, ← description.optionalText?,
      ← request.option? Schema.ofObject?, ← response.option? Schema.ofObject?⟩
  | _ => none

def Api.ofObject? : Item → Option Api
  | .record .api [(_, path), (_, methods)] => do
    return ⟨← path.text?, ← methods.list? Method.ofObject?⟩
  | _ => none

def SocketEvent.ofObject? : Item → Option SocketEvent
  | .record .socketEvent [(_, name), (_, request), (_, response)] => do
    return ⟨← name.text?, ← request.option? Schema.ofObject?, ← response.option? Schema.ofObject?⟩
  | _ => none

def Socket.ofObject? : Item → Option Socket
  | .record .socket [(_, url), (_, name), (_, description), (_, auth), (_, connectHeaders),
      (_, events)] => do
    return ⟨← url.text?, ← name.optionalText?, ← description.optionalText?,
      ← auth.option? Schema.ofObject?, ← connectHeaders.option? Schema.ofObject?,
      ← events.list? SocketEvent.ofObject?⟩
  | _ => none

def StreamEvent.ofObject? : Item → Option StreamEvent
  | .record .streamEvent [(_, name), (_, fields)] => do
    return ⟨← name.text?, ← fields.list? Field.ofObject?⟩
  | _ => none

def EventStream.ofObject? : Item → Option EventStream
  | .record .eventStream [(_, path), (_, name), (_, description), (_, request), (_, events)] => do
    return ⟨← path.text?, ← name.optionalText?, ← description.optionalText?,
      ← request.option? Schema.ofObject?, ← events.list? StreamEvent.ofObject?⟩
  | _ => none

mutual
def Category.ofObject? : Item → Option Category
  | .record .category [(_, id), (_, name), (_, description), (_, basePath), (_, apis),
      (_, sockets), (_, eventSockets), (_, streams), (_, .list children)] => do
    return ⟨← id.text?, ← name.optionalText?, ← description.optionalText?,
      ← basePath.optionalText?, ← apis.list? Api.ofObject?, ← sockets.list? Socket.ofObject?,
      ← eventSockets.list? Socket.ofObject?, ← streams.list? EventStream.ofObject?,
      ← categoriesOfObjects? children⟩
  | _ => none

def categoriesOfObjects? : List Item → Option (List Category)
  | [] => some []
  | item :: rest => do return (← Category.ofObject? item) :: (← categoriesOfObjects? rest)
end

def Document.ofObject? : Item → Option Document
  | .record .document [(_, config), (_, imports), (_, apis), (_, sockets), (_, eventSockets),
      (_, streams), (_, .list categories)] => do
    return ⟨← config.option? Config.ofObject?, ← imports.list? Item.text?,
      ← apis.list? Api.ofObject?, ← sockets.list? Socket.ofObject?,
      ← eventSockets.list? Socket.ofObject?, ← streams.list? EventStream.ofObject?,
      ← categoriesOfObjects? categories⟩
  | _ => none

end Reading

end ApiCatalog
