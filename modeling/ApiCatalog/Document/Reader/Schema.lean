import ApiCatalog.Document
import ApiCatalog.Token
import ApiCatalog.Number.Literal

set_option autoImplicit false

namespace ApiCatalog

structure UnexpectedToken where
  expected : TokenKind
  got : TokenKind
  line : Nat
  deriving DecidableEq, Repr

def UnexpectedToken.message (e : UnexpectedToken) : String :=
  s!"Line {e.line}: expected {e.expected.name}, got {e.got.name}"

inductive Progress (Open Result : Type)
  | reading (state : Open)
  | finished (result : Result)

abbrev Step (Open Result : Type) := Except UnexpectedToken (Progress Open Result)

def Token.require {α : Type} (t : Token) (kind : TokenKind) (next : α) : Except UnexpectedToken α :=
  if t.kind = kind then .ok next else .error ⟨kind, t.kind, t.line⟩

inductive PayloadSlot
  | request
  | response
  deriving DecidableEq

def PayloadSlot.ofKey? : String → Option PayloadSlot
  | "request" => some .request
  | "response" => some .response
  | _ => none

namespace SchemaReader

inductive Slot
  | mock
  | sample
  deriving DecidableEq

inductive Place
  | opening
  | body (fields : List Field)
  | closed (fields : List Field)
  | type (fields : List Field) (name : String)
  | mark (fields : List Field) (field : Field)
  | tail (fields : List Field) (field : Field)
  | directive (fields : List Field) (field : Field)
  | valueOpening (fields : List Field) (field : Field) (slot : Slot)
  | value (fields : List Field) (field : Field) (slot : Slot)
  | valueClosing (fields : List Field) (field : Field) (slot : Slot) (literal : Literal)

end SchemaReader

/-- A schema being read. `outer` lists the enclosing blocks, innermost first: their fields so far,
and the name of the field whose block comes next. -/
structure SchemaReader where
  outer : List (List Field × String)
  place : SchemaReader.Place

namespace SchemaReader

-- A schema is complete with its last token, or only the next token shows that it was complete
-- before: a question mark may follow the closing brace.
inductive Outcome
  | reading (reader : SchemaReader)
  | finished (schema : Schema)
  | passed (schema : Schema)

def start : SchemaReader := ⟨[], .opening⟩

def typeOfKeyword : String → FieldType
  | "Number" => .number
  | "Boolean" => .boolean
  | "Array" => .array
  | _ => .string

def literalOfWord : String → Literal
  | "true" => .bool true
  | "false" => .bool false
  | word => .text word

def literal? (t : Token) : Option Literal :=
  match t.kind with
  | .text => some (.text t.literal)
  | .number => some (.number ((Number.read? t.literal).getD .zero))
  | .identifier => some (literalOfWord t.literal)
  | _ => none

def annotate (field : Field) (slot : Slot) (literal : Literal) : Field :=
  match slot with
  | .mock => { field with mock := some literal }
  | .sample => { field with sample := some literal }

def objectField (name : String) (block : Schema) : Field :=
  { name, type := .object, optional := block.optional, nested := some block }

-- Between the fields of a block everything but names and the closing brace is skipped.
def body (fields : List Field) (t : Token) : Place :=
  match t.kind with
  | .closeBrace => .closed fields
  | .identifier => .type fields t.literal
  | _ => .body fields

-- A comment belongs to a field if it starts on the line of the token before it.
def tail (lastLine : Nat) (fields : List Field) (field : Field) (t : Token) : Place :=
  if t.kind = .atSign then .directive fields field
  else if t.kind = .comment ∧ t.line = lastLine then
    .body (fields ++ [{ field with comment := some t.literal }])
  else body (fields ++ [field]) t

def mark (lastLine : Nat) (fields : List Field) (field : Field) (t : Token) : Place :=
  if t.kind = .question then .tail fields { field with optional := true }
  else tail lastLine fields field t

def type (lastLine : Nat) (fields : List Field) (name : String) (t : Token) : Place :=
  if t.kind = .identifier then .mark fields { name, type := typeOfKeyword t.literal }
  else mark lastLine fields { name } t

def directive (fields : List Field) (field : Field) (t : Token) : Place :=
  match t.literal with
  | "params" => .tail fields { field with isParameter := true }
  | "mock" => .valueOpening fields field .mock
  | "example" => .valueOpening fields field .sample
  | _ => .tail fields field

def value (fields : List Field) (field : Field) (slot : Slot) (t : Token) :
    Except UnexpectedToken Place :=
  match literal? t with
  | some literal => .ok (.valueClosing fields field slot literal)
  | none => t.require .closeParen (.tail fields (annotate field slot (.text "")))

def close (lastLine : Nat) (fields : List Field) (t : Token) :
    List (List Field × String) → Outcome
  | [] =>
    if t.kind = .question then .finished ⟨fields, true⟩ else .passed ⟨fields, false⟩
  | (before, name) :: outer =>
    if t.kind = .question then .reading ⟨outer, .tail before (objectField name ⟨fields, true⟩)⟩
    else .reading ⟨outer, tail lastLine before (objectField name ⟨fields, false⟩) t⟩

def step (lastLine : Nat) (r : SchemaReader) (t : Token) : Except UnexpectedToken Outcome :=
  let go (place : Place) : Outcome := .reading ⟨r.outer, place⟩
  match r.place with
  | .opening => t.require .openBrace (go (.body []))
  | .body fields => .ok (go (body fields t))
  | .closed fields => .ok (close lastLine fields t r.outer)
  | .type fields name =>
    if t.kind = .openBrace then .ok (.reading ⟨(fields, name) :: r.outer, .body []⟩)
    else .ok (go (type lastLine fields name t))
  | .mark fields field => .ok (go (mark lastLine fields field t))
  | .tail fields field => .ok (go (tail lastLine fields field t))
  | .directive fields field => .ok (go (directive fields field t))
  | .valueOpening fields field slot => t.require .openParen (go (.value fields field slot))
  | .value fields field slot => (value fields field slot t).map go
  | .valueClosing fields field slot literal =>
    t.require .closeParen (go (.tail fields (annotate field slot literal)))

def expectedAtEnd (r : SchemaReader) : TokenKind :=
  match r.place with
  | .opening => .openBrace
  | .valueOpening .. => .openParen
  | .value .. | .valueClosing .. => .closeParen
  | _ => .closeBrace

end SchemaReader

end ApiCatalog
