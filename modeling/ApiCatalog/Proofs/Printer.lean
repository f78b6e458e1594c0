import ApiCatalog.Document.Reader
import ApiCatalog.Proofs.Pieces

/-!
How documents are written, and which documents the written form can express.
-/

set_option autoImplicit false

namespace ApiCatalog

section Pieces

def braced (inner : List Piece) : List Piece :=
  .mark .openBrace :: (inner ++ [.mark .closeBrace])

def parenthesized (p : Piece) : List Piece := [.mark .openParen, p, .mark .closeParen]

def docPieces (doc : Option String) : List Piece := doc.elim [] fun s => [.doc s]

def textEntry (key : String) (value : Option String) : List Piece :=
  value.elim [] fun s => [.word key, .quoted s]

def boolPiece (b : Bool) : Piece := .word (if b then "true" else "false")

-- A number has no written form.
def Literal.piece : Literal → Piece
  | bool b => boolPiece b
  | text s => .quoted s
  | number _ => .quoted ""

def FieldType.keyword : FieldType → String
  | string => "String"
  | number => "Number"
  | boolean => "Boolean"
  | array => "Array"
  | object => "Object"

def optionalPieces (optional : Bool) : List Piece := if optional then [.mark .question] else []

def parameterPieces (isParameter : Bool) : List Piece :=
  if isParameter then [.mark .atSign, .word "params"] else []

def notePieces (key : String) (value : Option Literal) : List Piece :=
  value.elim [] fun l => .mark .atSign :: .word key :: parenthesized l.piece

def commentPieces (comment : Option String) : List Piece := comment.elim [] fun s => [.comment s]

mutual
def Field.pieces : Field → List Piece
  | ⟨name, type, optional, nested, mock, sample, comment, isParameter⟩ =>
    .word name :: (shapePieces type nested ++ optionalPieces optional ++
      parameterPieces isParameter ++ notePieces "mock" mock ++ notePieces "example" sample ++
      commentPieces comment)

def shapePieces (type : FieldType) : Option (FieldBlock Field) → List Piece
  | none => [.word type.keyword]
  | some block => blockPieces block

def blockPieces : FieldBlock Field → List Piece
  | ⟨fields, _⟩ => braced (fieldPieces fields)

def fieldPieces : List Field → List Piece
  | [] => []
  | field :: rest => field.pieces ++ fieldPieces rest
end

def Schema.pieces (schema : Schema) : List Piece :=
  blockPieces schema ++ optionalPieces schema.optional

def payloadPieces (key : String) (payload : Option Schema) : List Piece :=
  payload.elim [] fun schema => .word key :: schema.pieces

def Variable.pieces (v : Variable) : List Piece :=
  [.word "variable", .quoted v.name, .quoted v.type] ++
    v.default.elim [] fun s => .word "default" :: parenthesized (.quoted s)

def Header.pieces (h : Header) : List Piece :=
  [.word "header", .quoted h.name] ++
    h.default.elim [] fun s => .mark .atSign :: .word "default" :: parenthesized (.quoted s)

def baseUrlPieces (urls : List String) : List Piece :=
  if urls.isEmpty then [] else [.word "baseUrl", .quoted (",".intercalate urls)]

def Config.pieces (c : Config) : List Piece :=
  .word "config" :: braced (baseUrlPieces c.baseUrls ++
    [.word "cors", boolPiece c.cors, .word "mock", boolPiece c.mock] ++
    c.vars.flatMap Variable.pieces ++ c.headers.flatMap Header.pieces)

def Method.pieces (m : Method) : List Piece :=
  docPieces m.description ++ .word m.verb :: braced (textEntry "name" m.name ++
    payloadPieces "request" m.request ++ payloadPieces "response" m.response)

def Api.pieces (a : Api) : List Piece :=
  .word "api" :: .quoted a.path :: braced (a.methods.flatMap Method.pieces)

def SocketEvent.pieces (e : SocketEvent) : List Piece :=
  .word "event" :: .quoted e.name :: braced (payloadPieces "request" e.request ++
    payloadPieces "response" e.response)

def SocketKind.keyword : SocketKind → String
  | plain => "ws"
  | eventBased => "socketio"

def Socket.pieces (kind : SocketKind) (s : Socket) : List Piece :=
  docPieces s.description ++ .word kind.keyword :: .quoted s.url :: braced
    (textEntry "name" s.name ++ payloadPieces "auth" s.auth ++
      payloadPieces "headers" s.connectHeaders ++ s.events.flatMap SocketEvent.pieces)

def StreamEvent.pieces (e : StreamEvent) : List Piece :=
  .word "event" :: .quoted e.name :: Schema.pieces ⟨e.fields, false⟩

def EventStream.pieces (s : EventStream) : List Piece :=
  docPieces s.description ++ .word "sse" :: .quoted s.path :: braced (textEntry "name" s.name ++
    payloadPieces "request" s.request ++ s.events.flatMap StreamEvent.pieces)

structure Services where
  apis : List Api
  sockets : List Socket
  eventSockets : List Socket
  streams : List EventStream

def Category.services (c : Category) : Services :=
  ⟨c.apis, c.sockets, c.eventSockets, c.streams⟩

def Document.services (d : Document) : Services :=
  ⟨d.apis, d.sockets, d.eventSockets, d.streams⟩

def Services.pieces (e : Services) : List Piece :=
  e.apis.flatMap Api.pieces ++ e.sockets.flatMap (Socket.pieces .plain) ++
    e.eventSockets.flatMap (Socket.pieces .eventBased) ++ e.streams.flatMap EventStream.pieces

def labelOfId (id : String) : String :=
  String.ofList (((id.toList.drop 4).reverse.dropWhile (· != '-')).drop 1).reverse

mutual
def Category.pieces : Category → List Piece
  | ⟨id, name, description, basePath, apis, sockets, eventSockets, streams, children⟩ =>
    .word "category" :: .quoted (labelOfId id) :: braced (textEntry "name" name ++
      textEntry "desc" description ++ textEntry "prefix" basePath ++
      (Services.mk apis sockets eventSockets streams).pieces ++ categoryPieces children)

def categoryPieces : List Category → List Piece
  | [] => []
  | category :: rest => category.pieces ++ categoryPieces rest
end

def importPieces (reference : String) : List Piece := [.word "import", .quoted reference]

def Document.pieces (d : Document) : List Piece :=
  d.config.elim [] Config.pieces ++ d.imports.flatMap importPieces ++ d.services.pieces ++
    categoryPieces d.categories

def Document.print (d : Document) : String := spell d.pieces

end Pieces

section Expressible

def Literal.Expressible : Literal → Prop
  | bool _ => True
  | text s => isQuotable s
  | number _ => False

/-- A field has a block if and only if it is an object, and then both are optional or neither. -/
inductive Field.Expressible : Field → Prop
  | intro {f : Field} (name : IsIdentifier f.name) (isObject : f.nested.isSome ↔ f.type = .object)
      (optional : ∀ block ∈ f.nested, block.optional = f.optional)
      (mock : ∀ l ∈ f.mock, l.Expressible) (sample : ∀ l ∈ f.sample, l.Expressible)
      (comment : ∀ s ∈ f.comment, isOneLine s)
      (fields : ∀ block ∈ f.nested, ∀ g ∈ block.fields, Expressible g) : Expressible f

def Schema.Expressible (schema : Schema) : Prop := ∀ f ∈ schema.fields, f.Expressible

structure Variable.Expressible (v : Variable) : Prop where
  name : isQuotable v.name
  type : isQuotable v.type
  isType : v.type ∉ ["default", "variable", "header"]
  default : ∀ s ∈ v.default, isQuotable s

structure Header.Expressible (h : Header) : Prop where
  name : isQuotable h.name
  default : ∀ s ∈ h.default, isQuotable s

structure Config.Expressible (c : Config) : Prop where
  url : ∀ url ∈ c.baseUrls, url ≠ "" ∧ Text.trimText url = url ∧ ',' ∉ url.toList
  urls : (∀ url ∈ c.baseUrls, '"' ∉ url.toList) ∨ ∀ url ∈ c.baseUrls, '\'' ∉ url.toList
  vars : ∀ v ∈ c.vars, v.Expressible
  headers : ∀ h ∈ c.headers, h.Expressible

structure Method.Expressible (m : Method) : Prop where
  verb : m.verb ∈ ["GET", "POST", "PUT", "DELETE", "PATCH"]
  name : ∀ s ∈ m.name, isQuotable s
  description : ∀ s ∈ m.description, IsDocText s
  request : ∀ schema ∈ m.request, schema.Expressible
  response : ∀ schema ∈ m.response, schema.Expressible

structure Api.Expressible (a : Api) : Prop where
  path : isQuotable a.path
  methods : ∀ m ∈ a.methods, m.Expressible

structure SocketEvent.Expressible (e : SocketEvent) : Prop where
  name : isQuotable e.name
  request : ∀ schema ∈ e.request, schema.Expressible
  response : ∀ schema ∈ e.response, schema.Expressible

structure Socket.Expressible (s : Socket) : Prop where
  url : isQuotable s.url
  name : ∀ text ∈ s.name, isQuotable text
  description : ∀ text ∈ s.description, IsDocText text
  auth : ∀ schema ∈ s.auth, schema.Expressible
  connectHeaders : ∀ schema ∈ s.connectHeaders, schema.Expressible
  events : ∀ e ∈ s.events, e.Expressible

structure StreamEvent.Expressible (e : StreamEvent) : Prop where
  name : isQuotable e.name
  fields : ∀ f ∈ e.fields, f.Expressible

structure EventStream.Expressible (s : EventStream) : Prop where
  path : isQuotable s.path
  name : ∀ text ∈ s.name, isQuotable text
  description : ∀ text ∈ s.description, IsDocText text
  request : ∀ schema ∈ s.request, schema.Expressible
  events : ∀ e ∈ s.events, e.Expressible

structure Services.Expressible (e : Services) : Prop where
  apis : ∀ a ∈ e.apis, a.Expressible
  sockets : ∀ s ∈ e.sockets, s.Expressible
  eventSockets : ∀ s ∈ e.eventSockets, s.Expressible
  streams : ∀ s ∈ e.streams, s.Expressible

/-- What a category holds, its children apart. -/
structure Category.Expressible (c : Category) : Prop where
  name : ∀ s ∈ c.name, isQuotable s
  description : ∀ s ∈ c.description, isQuotable s
  basePath : ∀ s ∈ c.basePath, isQuotable s
  services : c.services.Expressible

mutual
def Category.preorder : Category → List Category
  | c@⟨_, _, _, _, _, _, _, _, children⟩ => c :: preorders children

def preorders : List Category → List Category
  | [] => []
  | c :: rest => c.preorder ++ preorders rest
end

-- The ids of some categories count from a number on.
def Numbered (first : Nat) (categories : List Category) : Prop :=
  ∀ i c, categories[i]? = some c →
    ∃ label, isQuotable label ∧ c.id = s!"cat-{label}-{first + i}"

-- A reference that does not lose quotes of its own when those around it are taken off.
def IsBare (reference : String) : Prop :=
  (∀ c ∈ reference.toList.head?, isQuote c = false) ∧
    ∀ c ∈ reference.toList.getLast?, isQuote c = false

structure Document.Expressible (d : Document) : Prop where
  config : ∀ c ∈ d.config, c.Expressible
  imports : ∀ reference ∈ d.imports, isQuotable reference ∧ IsBare reference
  services : d.services.Expressible
  categories : ∀ c ∈ preorders d.categories, c.Expressible
  numbered : Numbered 1 (preorders d.categories)

end Expressible

end ApiCatalog
