import ApiCatalog.Document.Reader.Schema

set_option autoImplicit false

namespace ApiCatalog

namespace StreamReader

inductive Place
  | path
  | opening
  | entries
  | label
  | request (reader : SchemaReader)
  | eventName
  | event (name : String) (reader : SchemaReader)

end StreamReader

-- `doc` is the last doc comment inside the block, unless an event followed it. Until the block
-- is complete, the description is the doc comment before it.
structure StreamReader where
  stream : EventStream
  doc : Option String
  place : StreamReader.Place

namespace StreamReader

def start (description : Option String) : StreamReader := ⟨{ path := "", description }, none, .path⟩

def complete (stream : EventStream) (doc : Option String) : EventStream :=
  { stream with description := doc <|> stream.description }

def addEvent (stream : EventStream) (name : String) (schema : Schema) : EventStream :=
  { stream with events := stream.events ++ [{ name, fields := schema.fields }] }

def placeOfKey : String → Place
  | "name" => .label
  | "request" => .request .start
  | "event" => .eventName
  | _ => .entries

def entry (stream : EventStream) (doc : Option String) (t : Token) :
    Progress StreamReader EventStream :=
  match t.kind with
  | .closeBrace => .finished (complete stream doc)
  | .docComment => .reading ⟨stream, some t.literal, .entries⟩
  | _ => .reading ⟨stream, doc, placeOfKey t.literal⟩

def step (lastLine : Nat) (r : StreamReader) (t : Token) : Step StreamReader EventStream :=
  match r.place with
  | .path => .ok (.reading ⟨{ r.stream with path := t.literal }, r.doc, .opening⟩)
  | .opening => t.require .openBrace (.reading ⟨r.stream, r.doc, .entries⟩)
  | .entries => .ok (entry r.stream r.doc t)
  | .label =>
    if t.kind = .text then
      .ok (.reading ⟨{ r.stream with name := some t.literal }, r.doc, .entries⟩)
    else .ok (entry r.stream r.doc t)
  | .request reader =>
    (reader.step lastLine t).map fun
      | .reading reader => .reading ⟨r.stream, r.doc, .request reader⟩
      | .finished schema =>
        .reading ⟨{ r.stream with request := some schema }, r.doc, .entries⟩
      | .passed schema => entry { r.stream with request := some schema } r.doc t
  | .eventName => .ok (.reading ⟨r.stream, r.doc, .event t.literal .start⟩)
  | .event name reader =>
    (reader.step lastLine t).map fun
      | .reading reader => .reading ⟨r.stream, r.doc, .event name reader⟩
      | .finished schema => .reading ⟨addEvent r.stream name schema, none, .entries⟩
      | .passed schema => entry (addEvent r.stream name schema) none t

def expectedAtEnd (r : StreamReader) : TokenKind :=
  match r.place with
  | .path | .opening | .eventName => .openBrace
  | .entries | .label => .closeBrace
  | .request reader => reader.expectedAtEnd
  | .event _ reader => reader.expectedAtEnd

end StreamReader

end ApiCatalog
