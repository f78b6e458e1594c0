import ApiCatalog.Document.Reader.Schema
import ApiCatalog.Text.Casing

set_option autoImplicit false

namespace ApiCatalog

namespace MethodReader

inductive Place
  | opening
  | entries
  | label
  | payload (slot : PayloadSlot) (reader : SchemaReader)

end MethodReader

structure MethodReader where
  method : Method
  place : MethodReader.Place

namespace MethodReader

def setPayload (method : Method) (slot : PayloadSlot) (schema : Schema) : Method :=
  match slot with
  | .request => { method with request := some schema }
  | .response => { method with response := some schema }

def entry (method : Method) (t : Token) : Progress MethodReader Method :=
  if t.kind = .closeBrace then .finished method
  else
    .reading ⟨method, match PayloadSlot.ofKey? t.literal with
      | some slot => .payload slot .start
      | none => if t.literal = "name" then .label else .entries⟩

def step (lastLine : Nat) (r : MethodReader) (t : Token) : Step MethodReader Method :=
  match r.place with
  | .opening => t.require .openBrace (.reading ⟨r.method, .entries⟩)
  | .entries => .ok (entry r.method t)
  | .label =>
    if t.kind = .text then .ok (.reading ⟨{ r.method with name := some t.literal }, .entries⟩)
    else .ok (entry r.method t)
  | .payload slot reader =>
    (reader.step lastLine t).map fun
      | .reading reader => .reading ⟨r.method, .payload slot reader⟩
      | .finished schema => .reading ⟨setPayload r.method slot schema, .entries⟩
      | .passed schema => entry (setPayload r.method slot schema) t

def expectedAtEnd (r : MethodReader) : TokenKind :=
  match r.place with
  | .opening => .openBrace
  | .payload _ reader => reader.expectedAtEnd
  | _ => .closeBrace

end MethodReader

namespace ApiReader

inductive Place
  | path
  | opening
  | entries
  | method (reader : MethodReader)

end ApiReader

-- `doc` is the doc comment that waits for the next method.
structure ApiReader where
  api : Api
  doc : Option String
  place : ApiReader.Place

namespace ApiReader

def start : ApiReader := ⟨{ path := "" }, none, .path⟩

def verbs : List String := ["get", "post", "put", "delete", "patch"]

def entry (api : Api) (doc : Option String) (t : Token) : Progress ApiReader Api :=
  match t.kind with
  | .closeBrace => .finished api
  | .docComment => .reading ⟨api, some t.literal, .entries⟩
  | _ =>
    if verbs.contains (Text.lower t.literal) then
      .reading ⟨api, doc, .method ⟨{ verb := Text.upper t.literal }, .opening⟩⟩
    else .reading ⟨api, doc, .entries⟩

def addMethod (api : Api) (doc : Option String) (method : Method) : Api :=
  { api with methods := api.methods ++ [{ method with description := doc }] }

def step (lastLine : Nat) (r : ApiReader) (t : Token) : Step ApiReader Api :=
  match r.place with
  | .path => .ok (.reading ⟨{ r.api with path := t.literal }, r.doc, .opening⟩)
  | .opening => t.require .openBrace (.reading ⟨r.api, r.doc, .entries⟩)
  | .entries => .ok (entry r.api r.doc t)
  | .method reader =>
    (reader.step lastLine t).map fun
      | .reading reader => .reading ⟨r.api, r.doc, .method reader⟩
      | .finished method => .reading ⟨addMethod r.api r.doc method, none, .entries⟩

def expectedAtEnd (r : ApiReader) : TokenKind :=
  match r.place with
  | .path | .opening => .openBrace
  | .entries => .closeBrace
  | .method reader => reader.expectedAtEnd

end ApiReader

end ApiCatalog
