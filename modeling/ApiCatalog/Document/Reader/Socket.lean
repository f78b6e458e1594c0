import ApiCatalog.Document.Reader.Schema

set_option autoImplicit false

namespace ApiCatalog

namespace SocketEventReader

inductive Place
  | name
  | opening
  | entries
  | payload (slot : PayloadSlot) (reader : SchemaReader)

end SocketEventReader

structure SocketEventReader where
  event : SocketEvent
  place : SocketEventReader.Place

namespace SocketEventReader

def start : SocketEventReader := ⟨{ name := "" }, .name⟩

def setPayload (event : SocketEvent) (slot : PayloadSlot) (schema : Schema) : SocketEvent :=
  match slot with
  | .request => { event with request := some schema }
  | .response => { event with response := some schema }

def entry (event : SocketEvent) (t : Token) : Progress SocketEventReader SocketEvent :=
  if t.kind = .closeBrace then .finished event
  else
    .reading ⟨event, match PayloadSlot.ofKey? t.literal with
      | some slot => .payload slot .start
      | none => .entries⟩

def step (lastLine : Nat) (r : SocketEventReader) (t : Token) :
    Step SocketEventReader SocketEvent :=
  match r.place with
  | .name => .ok (.reading ⟨{ r.event with name := t.literal }, .opening⟩)
  | .opening => t.require .openBrace (.reading ⟨r.event, .entries⟩)
  | .entries => .ok (entry r.event t)
  | .payload slot reader =>
    (reader.step lastLine t).map fun
      | .reading reader => .reading ⟨r.event, .payload slot reader⟩
      | .finished schema => .reading ⟨setPayload r.event slot schema, .entries⟩
      | .passed schema => entry (setPayload r.event slot schema) t

def expectedAtEnd (r : SocketEventReader) : TokenKind :=
  match r.place with
  | .name | .opening => .openBrace
  | .entries => .closeBrace
  | .payload _ reader => reader.expectedAtEnd

end SocketEventReader

namespace SocketReader

inductive Slot
  | auth
  | headers
  deriving DecidableEq

inductive Place
  | url
  | opening
  | entries
  | label
  | handshake (slot : Slot) (reader : SchemaReader)
  | event (reader : SocketEventReader)

end SocketReader

structure SocketReader where
  socket : Socket
  doc : Option String
  place : SocketReader.Place

namespace SocketReader

def start (description : Option String) : SocketReader := ⟨{ url := "", description }, none, .url⟩

def setHandshake (socket : Socket) (slot : Slot) (schema : Schema) : Socket :=
  match slot with
  | .auth => { socket with auth := some schema }
  | .headers => { socket with connectHeaders := some schema }

def complete (socket : Socket) (doc : Option String) : Socket :=
  { socket with description := doc <|> socket.description }

def placeOfKey : String → Place
  | "name" => .label
  | "auth" => .handshake .auth .start
  | "headers" => .handshake .headers .start
  | "event" => .event .start
  | _ => .entries

def entry (socket : Socket) (doc : Option String) (t : Token) : Progress SocketReader Socket :=
  match t.kind with
  | .closeBrace => .finished (complete socket doc)
  | .docComment => .reading ⟨socket, some t.literal, .entries⟩
  | _ => .reading ⟨socket, doc, placeOfKey t.literal⟩

def step (lastLine : Nat) (r : SocketReader) (t : Token) : Step SocketReader Socket :=
  match r.place with
  | .url => .ok (.reading ⟨{ r.socket with url := t.literal }, r.doc, .opening⟩)
  | .opening => t.require .openBrace (.reading ⟨r.socket, r.doc, .entries⟩)
  | .entries => .ok (entry r.socket r.doc t)
  | .label =>
    if t.kind = .text then
      .ok (.reading ⟨{ r.socket with name := some t.literal }, r.doc, .entries⟩)
    else .ok (entry r.socket r.doc t)
  | .handshake slot reader =>
    (reader.step lastLine t).map fun
      | .reading reader => .reading ⟨r.socket, r.doc, .handshake slot reader⟩
      | .finished schema => .reading ⟨setHandshake r.socket slot schema, r.doc, .entries⟩
      | .passed schema => entry (setHandshake r.socket slot schema) r.doc t
  | .event reader =>
    (reader.step lastLine t).map fun
      | .reading reader => .reading ⟨r.socket, r.doc, .event reader⟩
      | .finished event =>
        .reading ⟨{ r.socket with events := r.socket.events ++ [event] }, none, .entries⟩

def expectedAtEnd (r : SocketReader) : TokenKind :=
  match r.place with
  | .url | .opening => .openBrace
  | .entries | .label => .closeBrace
  | .handshake _ reader => reader.expectedAtEnd
  | .event reader => reader.expectedAtEnd

end SocketReader

end ApiCatalog
