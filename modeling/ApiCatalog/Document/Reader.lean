import ApiCatalog.Document.Reader.Api
import ApiCatalog.Document.Reader.Config
import ApiCatalog.Document.Reader.EventStream
import ApiCatalog.Document.Reader.Socket
import ApiCatalog.Token.Lexeme
import ApiCatalog.Files.Disk

/-!
A document is read one token at a time: each block keeps what has been read of it and a place,
and a step looks at one token and at the line of the one before it. A text is accepted if the
reader stands between the statements of the document when the tokens end.
-/

set_option autoImplicit false

namespace ApiCatalog

inductive SocketKind
  | plain
  | eventBased
  deriving DecidableEq

namespace DocumentReader

inductive Place
  | entries
  | importReference
  | categoryName
  | categoryOpening (name : String)
  | categoryLabel
  | categoryDescription
  | categoryBasePath
  | config (reader : ConfigReader)
  | api (reader : ApiReader)
  | socket (kind : SocketKind) (reader : SocketReader)
  | stream (reader : StreamReader)

end DocumentReader

/-- `enclosing` lists the open categories, innermost first. `doc` is the doc comment that waits for
the next statement, and `nextId` numbers the categories of the whole document. -/
structure DocumentReader where
  document : Document
  enclosing : List Category
  nextId : Nat
  doc : Option String
  place : DocumentReader.Place

namespace DocumentReader

def start : DocumentReader := ⟨{}, [], 1, none, .entries⟩

-- Goes on between the statements after one of them, which used up the doc comment.
def between (r : DocumentReader) : DocumentReader := { r with doc := none, place := .entries }

def enter (r : DocumentReader) (place : Place) : DocumentReader := { r with doc := none, place }

def modifyInnermost (r : DocumentReader) (f : Category → Category) : DocumentReader :=
  match r.enclosing with
  | [] => r
  | category :: outer => { r with enclosing := f category :: outer }

def addApi (r : DocumentReader) (api : Api) : DocumentReader :=
  match r.enclosing with
  | [] => { r with document := { r.document with apis := r.document.apis ++ [api] } }
  | _ => r.modifyInnermost fun c => { c with apis := c.apis ++ [api] }

def addSocket (r : DocumentReader) (kind : SocketKind) (socket : Socket) : DocumentReader :=
  match r.enclosing, kind with
  | [], .plain =>
    { r with document := { r.document with sockets := r.document.sockets ++ [socket] } }
  | [], .eventBased =>
    { r with document := { r.document with eventSockets := r.document.eventSockets ++ [socket] } }
  | _, .plain => r.modifyInnermost fun c => { c with sockets := c.sockets ++ [socket] }
  | _, .eventBased =>
    r.modifyInnermost fun c => { c with eventSockets := c.eventSockets ++ [socket] }

def addStream (r : DocumentReader) (stream : EventStream) : DocumentReader :=
  match r.enclosing with
  | [] => { r with document := { r.document with streams := r.document.streams ++ [stream] } }
  | _ => r.modifyInnermost fun c => { c with streams := c.streams ++ [stream] }

def addImport (r : DocumentReader) (reference : String) : DocumentReader :=
  { r with document := { r.document with imports := r.document.imports ++ [reference] } }

def openCategory (r : DocumentReader) (name : String) : DocumentReader :=
  { r with
    enclosing := { id := s!"cat-{name}-{r.nextId}" } :: r.enclosing
    nextId := r.nextId + 1 }

def closeCategory (r : DocumentReader) : DocumentReader :=
  match r.enclosing with
  | [] => r
  | [category] =>
    { r with
      document := { r.document with categories := r.document.categories ++ [category] }
      enclosing := [] }
  | category :: parent :: outer =>
    { r with enclosing := { parent with children := parent.children ++ [category] } :: outer }

def unquote (s : String) : String :=
  String.ofList ((s.toList.dropWhile isQuote).reverse.dropWhile isQuote).reverse

def endpointPlace? (doc : Option String) : String → Option Place
  | "api" => some (.api .start)
  | "ws" => some (.socket .plain (.start doc))
  | "socketio" => some (.socket .eventBased (.start doc))
  | "sse" => some (.stream (.start doc))
  | "category" => some .categoryName
  | _ => none

def documentPlace? (doc : Option String) : String → Option Place
  | "config" => some (.config .start)
  | "import" => some .importReference
  | keyword => endpointPlace? doc keyword

def categoryPlace? (doc : Option String) : String → Option Place
  | "name" => some .categoryLabel
  | "desc" => some .categoryDescription
  | "prefix" => some .categoryBasePath
  | keyword => endpointPlace? doc keyword

def place? (r : DocumentReader) (keyword : String) : Option Place :=
  if r.enclosing.isEmpty then documentPlace? r.doc keyword else categoryPlace? r.doc keyword

-- Unknown words and stray tokens between statements are skipped.
def entry (r : DocumentReader) (t : Token) : DocumentReader :=
  match t.kind with
  | .docComment => { r with doc := some t.literal, place := .entries }
  | .identifier =>
    match r.place? t.literal with
    | some place => r.enter place
    | none => { r with place := .entries }
  | .closeBrace =>
    if r.enclosing.isEmpty then { r with place := .entries } else r.closeCategory.between
  | _ => { r with place := .entries }

def step (lastLine : Nat) (r : DocumentReader) (t : Token) :
    Except UnexpectedToken DocumentReader :=
  match r.place with
  | .entries => .ok (r.entry t)
  | .importReference => .ok (r.addImport (unquote t.literal)).between
  | .categoryName => .ok (r.enter (.categoryOpening t.literal))
  | .categoryOpening name => t.require .openBrace (r.openCategory name).between
  | .categoryLabel =>
    if t.kind = .text then
      .ok (r.modifyInnermost fun c => { c with name := some t.literal }).between
    else .ok (r.entry t)
  | .categoryDescription =>
    if t.kind = .text then
      .ok (r.modifyInnermost fun c => { c with description := some t.literal }).between
    else .ok (r.entry t)
  | .categoryBasePath =>
    .ok (r.modifyInnermost fun c => { c with basePath := some t.literal }).between
  | .config reader =>
    (reader.step t).map fun
      | .reading reader => r.enter (.config reader)
      | .finished config => { r.between with document := { r.document with config := some config } }
  | .api reader =>
    (reader.step lastLine t).map fun
      | .reading reader => r.enter (.api reader)
      | .finished api => (r.addApi api).between
  | .socket kind reader =>
    (reader.step lastLine t).map fun
      | .reading reader => r.enter (.socket kind reader)
      | .finished socket => (r.addSocket kind socket).between
  | .stream reader =>
    (reader.step lastLine t).map fun
      | .reading reader => r.enter (.stream reader)
      | .finished stream => (r.addStream stream).between

def expectedAtEnd? (r : DocumentReader) : Option TokenKind :=
  match r.place with
  | .entries => if r.enclosing.isEmpty then none else some .closeBrace
  | .importReference => none
  | .categoryName | .categoryOpening _ => some .openBrace
  | .categoryLabel | .categoryDescription | .categoryBasePath => some .closeBrace
  | .config reader => some reader.expectedAtEnd
  | .api reader => some reader.expectedAtEnd
  | .socket _ reader => some reader.expectedAtEnd
  | .stream reader => some reader.expectedAtEnd

-- An import that still waits for its reference when the text ends has the empty one.
def finish (endLine : Nat) (r : DocumentReader) : Except UnexpectedToken Document :=
  match r.expectedAtEnd? with
  | some kind => .error ⟨kind, .endOfText, endLine⟩
  | none =>
    match r.place with
    | .importReference => .ok (r.addImport "").document
    | _ => .ok r.document

def run (lastLine : Nat) (r : DocumentReader) : List Token → Except UnexpectedToken DocumentReader
  | [] => .ok r
  | t :: rest => do run t.line (← r.step lastLine t) rest

end DocumentReader

def Document.ofTokens (stream : TokenStream) : Except UnexpectedToken Document := do
  (← DocumentReader.start.run 1 stream.tokens).finish stream.endLine

def Document.ofText (text : String) : Except UnexpectedToken Document :=
  Document.ofTokens (TokenStream.ofText text)

inductive DocumentError
  | unreadable (path : PathName) (e : ReadError)
  | malformed (e : UnexpectedToken)

def DocumentError.message : DocumentError → String
  | unreadable path e => s!"Failed to read {path.toText}: {e.message path}"
  | malformed e => e.message

def Document.ofFile (disk : Disk) (path : PathName) : Except (Failure DocumentError) Document :=
  match disk.readText path with
  | .error (.file .nullInName) => .error (.crashed .nullInPath)
  | .error (.file .strayInName) => .error (.crashed .strayInPath)
  | .error e => .error (.reported (.unreadable path e))
  | .ok text => (Document.ofText text).mapError fun e => .reported (.malformed e)

end ApiCatalog
