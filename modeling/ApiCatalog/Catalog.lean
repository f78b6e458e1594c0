import ApiCatalog.Document.Records
import ApiCatalog.Text.Casing

set_option autoImplicit false

namespace ApiCatalog

inductive EndpointKind
  | http
  | websocket
  | socketio
  | sse
  deriving DecidableEq, Repr

def EndpointKind.name : EndpointKind → String
  | http => "http"
  | websocket => "websocket"
  | socketio => "socketio"
  | sse => "sse"

def EndpointKind.ofName? : String → Option EndpointKind
  | "http" => some .http
  | "websocket" => some .websocket
  | "socketio" => some .socketio
  | "sse" => some .sse
  | _ => none

def EndpointKind.label : EndpointKind → String
  | http => "api"
  | websocket => "ws"
  | socketio => "sio"
  | sse => "sse"

structure Endpoint where
  id : String := ""
  kind : EndpointKind
  path : String
  fullUrl : Option String := none
  method : Option String := none
  name : Option String := none
  description : Option String := none
  request : Option Schema := none
  response : Option Schema := none
  events : Option (List SocketEvent) := none
  streamEvents : Option (List StreamEvent) := none
  auth : Option Schema := none
  connectHeaders : Option Schema := none
  categoryId : Option String := none
  categoryName : Option String := none
  deriving BEq

def Document.baseUrls (d : Document) : List String := (d.config.map (·.baseUrls)).getD []

def Document.configVariables (d : Document) : List Variable := (d.config.map (·.vars)).getD []

def Document.headers (d : Document) : List Header := (d.config.map (·.headers)).getD []

namespace Endpoint

structure Place where
  base : Option String
  path : String := ""
  categoryId : Option String := none
  categoryName : Option String := none

def Place.fullUrl (place : Place) (path : String) : Option String := place.base.map (· ++ path)

def ofApi (place : Place) (api : Api) : List Endpoint :=
  let path := place.path ++ api.path
  api.methods.map fun m =>
    { kind := .http, path, fullUrl := place.fullUrl path, method := some m.verb, name := m.name
      description := m.description, request := m.request, response := m.response
      categoryId := place.categoryId, categoryName := place.categoryName }

def ofSocket (place : Place) (s : Socket) : Endpoint :=
  { kind := .websocket, path := s.url, fullUrl := some s.url, name := s.name
    description := s.description, events := some s.events
    categoryId := place.categoryId, categoryName := place.categoryName }

def ofEventSocket (place : Place) (s : Socket) : Endpoint :=
  { ofSocket place s with kind := .socketio, auth := s.auth, connectHeaders := s.connectHeaders }

def ofStream (place : Place) (s : EventStream) : Endpoint :=
  let path := place.path ++ s.path
  { kind := .sse, path, fullUrl := place.fullUrl path, method := some "SSE", name := s.name
    description := s.description, request := s.request, streamEvents := some s.events
    categoryId := place.categoryId, categoryName := place.categoryName }

def ofBlocks (place : Place) (apis : List Api) (sockets eventSockets : List Socket)
    (streams : List EventStream) : List Endpoint :=
  apis.flatMap (ofApi place) ++ sockets.map (ofSocket place) ++
    eventSockets.map (ofEventSocket place) ++ streams.map (ofStream place)

def Place.inside (place : Place) (c : Category) : Place :=
  { place with
    path := place.path ++ c.basePath.getD "", categoryId := some c.id, categoryName := c.name }

mutual
def ofCategory (place : Place) : Category → List Endpoint
  | ⟨id, name, description, basePath, apis, sockets, eventSockets, streams, children⟩ =>
    let inner := place.inside { id, name, description, basePath }
    ofBlocks inner apis sockets eventSockets streams ++ ofCategories inner children

def ofCategories (place : Place) : List Category → List Endpoint
  | [] => []
  | c :: rest => ofCategory place c ++ ofCategories place rest
end

def number (endpoints : List Endpoint) : List Endpoint :=
  endpoints.mapIdx fun i e => { e with id := s!"{e.kind.label}-{i + 1}" }

def trimSlashes (url : String) : String :=
  String.ofList (url.toList.reverse.dropWhile (· == '/')).reverse

end Endpoint

def Document.endpoints (d : Document) : List Endpoint :=
  let place : Endpoint.Place := { base := d.baseUrls.head?.map Endpoint.trimSlashes }
  Endpoint.number
    (Endpoint.ofBlocks place d.apis d.sockets d.eventSockets d.streams ++
      Endpoint.ofCategories place d.categories)

def Endpoint.find? (endpoints : List Endpoint) (method path : String) : Option Endpoint :=
  endpoints.find? fun e =>
    e.kind = .http && e.path == path && Text.upper (e.method.getD "") == Text.upper method

def Endpoint.object (e : Endpoint) : Item :=
  .of .endpoint
    [.text e.id, .choice e.kind.name, .text e.path, .optionalText e.fullUrl,
      .optionalText e.method, .optionalText e.name, .optionalText e.description,
      .ofOption Schema.object e.request, .ofOption Schema.object e.response,
      .ofOption (.ofList SocketEvent.object) e.events,
      .ofOption (.ofList StreamEvent.object) e.streamEvents, .ofOption Schema.object e.auth,
      .ofOption Schema.object e.connectHeaders, .optionalText e.categoryId,
      .optionalText e.categoryName]

structure CategoryNode where
  id : String
  name : Option String
  description : Option String
  endpointCount : Nat
  children : List CategoryNode
  deriving BEq

def endpointCount (apis : List Api) (sockets eventSockets : List Socket)
    (streams : List EventStream) : Nat :=
  (apis.flatMap (·.methods)).length + sockets.length + eventSockets.length + streams.length

mutual
def Category.node : Category → CategoryNode
  | ⟨id, name, description, _, apis, sockets, eventSockets, streams, children⟩ =>
    ⟨id, name, description, endpointCount apis sockets eventSockets streams, nodes children⟩

def nodes : List Category → List CategoryNode
  | [] => []
  | c :: rest => Category.node c :: nodes rest
end

def Document.categoryTree (d : Document) : List CategoryNode := nodes d.categories

mutual
def CategoryNode.object : CategoryNode → Item
  | ⟨id, name, description, count, children⟩ =>
    .of .categoryNode
      [.text id, .optionalText name, .optionalText description, .scalar (.int count),
        .list (nodeObjects children)]

def nodeObjects : List CategoryNode → List Item
  | [] => []
  | node :: rest => CategoryNode.object node :: nodeObjects rest
end

def Literal.toValue : Literal → Value
  | bool b => .bool b
  | number x => .float x
  | text s => .text s

def FieldType.mockValue (name : String) : FieldType → Value
  | string => .text ("mock_" ++ name)
  | number => .int 0
  | boolean => .bool false
  | array => .list []
  | object => .mapping []

mutual
def Field.mockPayload : Field → Value
  | ⟨name, type, _, nested, mock, _, _, _⟩ =>
    match mock with
    | some literal => literal.toValue
    | none => nestedPayload name type nested

def nestedPayload (name : String) (type : FieldType) : Option (FieldBlock Field) → Value
  | some block => .mapping (FieldBlock.mockPayload block)
  | none => type.mockValue name

def FieldBlock.mockPayload : FieldBlock Field → Entries
  | ⟨fields, _⟩ => Entries.ofPairs (mockPairs fields)

def mockPairs : List Field → List (Scalar × Value)
  | [] => []
  | field :: rest => (.text field.name, Field.mockPayload field) :: mockPairs rest
end

def mockPayload (schema : Option Schema) : Value :=
  .mapping ((schema.map FieldBlock.mockPayload).getD [])

end ApiCatalog
