import ApiCatalog.Document.Reader
import ApiCatalog.Proofs.Results

/-!
Which blocks a reader has open, innermost first, and what one token does to them.
-/

set_option autoImplicit false

namespace ApiCatalog

inductive BlockKind
  | config
  | api
  | method
  | socket
  | socketEvent
  | stream
  | category
  | schema
  deriving DecidableEq, Repr

/-- What a token does to the open blocks at a place where an opening brace would open the block
`opens?`, if any, and where a closing brace closes no block if `keeps`. -/
inductive Turn (opens? : Option BlockKind) (keeps : Bool) (kind : TokenKind) :
    List BlockKind → List BlockKind → Prop
  | stay {blocks : List BlockKind} (opensNone : kind = .openBrace → opens? = none)
      (closesNone : kind = .closeBrace → keeps = true) : Turn opens? keeps kind blocks blocks
  | enter {block : BlockKind} {blocks : List BlockKind} (brace : kind = .openBrace)
      (opens : opens? = some block) : Turn opens? keeps kind blocks (block :: blocks)
  | leave {block : BlockKind} {blocks : List BlockKind} (brace : kind = .closeBrace)
      (closes : keeps = false) : Turn opens? keeps kind (block :: blocks) blocks

section Hosts

variable {opens? : Option BlockKind} {keeps : Bool} {kind : TokenKind}

theorem Turn.append {blocks blocks' : List BlockKind} (turn : Turn opens? keeps kind blocks blocks')
    (outer : List BlockKind) : Turn opens? keeps kind (blocks ++ outer) (blocks' ++ outer) := by
  cases turn with
  | stay opensNone closesNone => exact .stay opensNone closesNone
  | enter brace opens => exact .enter brace opens
  | leave brace closes => exact .leave brace closes

theorem Token.of_require {t : Token} {kind : TokenKind} {A : Type} {next result : A}
    (required : t.require kind next = .ok result) : t.kind = kind ∧ next = result := by
  unfold Token.require at required
  split at required
  · exact ⟨‹_›, Except.ok.inj required⟩
  · cases required

end Hosts

def Progress.openBlocks {Open Result : Type} (blocks : Open → List BlockKind) :
    Progress Open Result → List BlockKind
  | reading state => blocks state
  | finished _ => []

namespace SchemaReader

def openBlocks (r : SchemaReader) : List BlockKind :=
  match r.place with
  | .opening | .closed _ => List.replicate r.outer.length .schema
  | _ => .schema :: List.replicate r.outer.length .schema

def opens? (r : SchemaReader) : Option BlockKind :=
  match r.place with
  | .opening | .type .. => some .schema
  | _ => none

def keeps (r : SchemaReader) : Bool :=
  match r.place with
  | .directive .. => true
  | _ => false

def Outcome.Turns (r : SchemaReader) (kind : TokenKind) : Outcome → Prop
  | .reading s => Turn r.opens? r.keeps kind r.openBlocks s.openBlocks
  | .finished _ => Turn r.opens? r.keeps kind r.openBlocks []
  | .passed _ => r.openBlocks = [] ∧ r.opens? = none ∧ r.keeps = false

section Places

variable {opens? : Option BlockKind} {lastLine : Nat} {outer : List (List Field × String)}
  {t : Token}

def within (outer : List (List Field × String)) : List BlockKind :=
  .schema :: List.replicate outer.length .schema

theorem body_turn (opensNone : t.kind = .openBrace → opens? = none) (fields : List Field) :
    Turn opens? false t.kind (within outer) (openBlocks ⟨outer, body fields t⟩) := by
  unfold body
  split
  · exact .leave ‹_› rfl
  · exact .stay opensNone (by simp [*])
  · exact .stay opensNone (absurd · ‹_›)

theorem tail_turn (opensNone : t.kind = .openBrace → opens? = none) (fields : List Field)
    (field : Field) :
    Turn opens? false t.kind (within outer) (openBlocks ⟨outer, tail lastLine fields field t⟩) := by
  unfold tail
  split
  · exact .stay opensNone (by simp [*])
  · split
    · exact .stay opensNone (by simp [*])
    · exact body_turn opensNone _

theorem mark_turn (opensNone : t.kind = .openBrace → opens? = none) (fields : List Field)
    (field : Field) :
    Turn opens? false t.kind (within outer) (openBlocks ⟨outer, mark lastLine fields field t⟩) := by
  unfold mark
  split
  · exact .stay opensNone (by simp [*])
  · exact tail_turn opensNone _ _

theorem type_turn (opensNone : t.kind = .openBrace → opens? = none) (fields : List Field)
    (name : String) :
    Turn opens? false t.kind (within outer) (openBlocks ⟨outer, type lastLine fields name t⟩) := by
  unfold type
  split
  · exact .stay opensNone (by simp [*])
  · exact mark_turn opensNone _ _

theorem directive_turn (fields : List Field) (field : Field) :
    Turn none true t.kind (within outer) (openBlocks ⟨outer, directive fields field t⟩) := by
  unfold directive
  split <;> exact .stay (fun _ => rfl) fun _ => rfl

theorem value_turn {fields : List Field} {field : Field} {slot : Slot} {place : Place}
    (valued : value fields field slot t = .ok place) :
    Turn none false t.kind (within outer) (openBlocks ⟨outer, place⟩) := by
  unfold value at valued
  split at valued
  · rename_i found
    cases valued
    -- No literal is a closing brace.
    refine .stay (fun _ => rfl) fun brace => ?_
    simp [literal?, brace] at found
  · obtain ⟨isParen, rfl⟩ := Token.of_require valued
    exact .stay (fun _ => rfl) (by simp [isParen])

end Places

theorem close_turns (lastLine : Nat) (fields : List Field) (t : Token)
    (outer : List (List Field × String)) :
    (close lastLine fields t outer).Turns ⟨outer, .closed fields⟩ t.kind := by
  by_cases isQuestion : t.kind = .question
  · cases outer <;> simp only [close, isQuestion, if_true] <;> exact .stay nofun nofun
  · cases outer with
    | nil =>
      simp only [close, isQuestion, if_false]
      exact ⟨rfl, rfl, rfl⟩
    | cons enclosing outer =>
      simp only [close, isQuestion, if_false]
      exact tail_turn (fun _ => rfl) _ _

theorem step_turns {lastLine : Nat} {r : SchemaReader} {t : Token} {outcome : Outcome}
    (stepped : r.step lastLine t = .ok outcome) : outcome.Turns r t.kind := by
  obtain ⟨outer, place⟩ := r
  cases place with
  | opening =>
    obtain ⟨brace, rfl⟩ := Token.of_require stepped
    exact .enter brace rfl
  | body fields =>
    cases stepped
    exact body_turn (fun _ => rfl) fields
  | closed fields =>
    cases stepped
    exact close_turns lastLine fields t outer
  | type fields name =>
    simp only [step] at stepped
    split at stepped
    · rename_i brace
      cases stepped
      exact .enter brace rfl
    · rename_i noBrace
      cases stepped
      exact type_turn (absurd · noBrace) fields name
  | mark fields field =>
    cases stepped
    exact mark_turn (fun _ => rfl) fields field
  | tail fields field =>
    cases stepped
    exact tail_turn (fun _ => rfl) fields field
  | directive fields field =>
    cases stepped
    exact directive_turn fields field
  | valueOpening fields field slot =>
    obtain ⟨isParen, rfl⟩ := Token.of_require stepped
    exact .stay (by simp [isParen]) (by simp [isParen])
  | value fields field slot =>
    obtain ⟨place, valued, rfl⟩ := map_eq_ok.1 stepped
    exact value_turn valued
  | valueClosing fields field slot literal =>
    obtain ⟨isParen, rfl⟩ := Token.of_require stepped
    exact .stay (by simp [isParen]) (by simp [isParen])

-- Blocks around a schema stay open around those of the schema, and read a token that the schema
-- has left to them.
theorem host_turn {A : Type} {blocks : A → List BlockKind} {outer : List BlockKind}
    {reader : SchemaReader} {lastLine : Nat} {t : Token} {next : Outcome → A} {result : A}
    (stepped : (reader.step lastLine t).map next = .ok result)
    (reading : ∀ s, blocks (next (.reading s)) = s.openBlocks ++ outer)
    (finished : ∀ schema, blocks (next (.finished schema)) = outer)
    (passed : ∀ schema, Turn none false t.kind outer (blocks (next (.passed schema)))) :
    Turn reader.opens? reader.keeps t.kind (reader.openBlocks ++ outer) (blocks result) := by
  obtain ⟨outcome, read, rfl⟩ := map_eq_ok.1 stepped
  have turns := step_turns read
  cases outcome with
  | reading s => exact reading s ▸ turns.append outer
  | finished schema => exact finished schema ▸ turns.append outer
  | passed schema =>
    obtain ⟨closed, opensNone, closes⟩ := turns
    rw [closed, opensNone, closes]
    exact passed schema

end SchemaReader

theorem Progress.host_turn {Open Result A : Type} {inner : Open → List BlockKind}
    {blocks : A → List BlockKind} {opens? : Option BlockKind} {keeps : Bool} {kind : TokenKind}
    {before outer : List BlockKind} {step : Step Open Result} {next : Progress Open Result → A}
    {result : A} (stepped : step.map next = .ok result)
    (turns : ∀ p, step = .ok p → Turn opens? keeps kind before (p.openBlocks inner))
    (reading : ∀ s, blocks (next (.reading s)) = inner s ++ outer)
    (finished : ∀ x, blocks (next (.finished x)) = outer) :
    Turn opens? keeps kind (before ++ outer) (blocks result) := by
  obtain ⟨progress, read, rfl⟩ := map_eq_ok.1 stepped
  have turn := turns progress read
  cases progress with
  | reading s => exact reading s ▸ turn.append outer
  | finished x => exact finished x ▸ turn.append outer

namespace MethodReader

def openBlocks (r : MethodReader) : List BlockKind :=
  match r.place with
  | .opening => []
  | .entries | .label => [.method]
  | .payload _ reader => reader.openBlocks ++ [.method]

def opens? (r : MethodReader) : Option BlockKind :=
  match r.place with
  | .opening => some .method
  | .payload _ reader => reader.opens?
  | _ => none

def keeps (r : MethodReader) : Bool :=
  match r.place with
  | .payload _ reader => reader.keeps
  | _ => false

theorem entry_turn (method : Method) (t : Token) :
    Turn none false t.kind [.method] ((entry method t).openBlocks openBlocks) := by
  unfold entry
  split
  · exact .leave ‹_› rfl
  · rename_i noBrace
    cases PayloadSlot.ofKey? t.literal with
    | some slot => exact .stay (fun _ => rfl) (absurd · noBrace)
    | none => by_cases isName : t.literal = "name" <;>
        simp only [isName, if_true, if_false] <;> exact .stay (fun _ => rfl) (absurd · noBrace)

theorem step_turn {lastLine : Nat} {r : MethodReader} {t : Token} {p : Progress MethodReader Method}
    (stepped : r.step lastLine t = .ok p) :
    Turn r.opens? r.keeps t.kind r.openBlocks (p.openBlocks openBlocks) := by
  obtain ⟨method, place⟩ := r
  cases place with
  | opening =>
    obtain ⟨brace, rfl⟩ := Token.of_require stepped
    exact .enter brace rfl
  | entries =>
    cases stepped
    exact entry_turn method t
  | label =>
    simp only [step] at stepped
    split at stepped <;> cases stepped
    · exact .stay (fun _ => rfl) (by simp [*])
    · exact entry_turn method t
  | payload slot reader =>
    exact SchemaReader.host_turn stepped (fun _ => rfl) (fun _ => rfl) fun _ => entry_turn _ t

end MethodReader

namespace ApiReader

def openBlocks (r : ApiReader) : List BlockKind :=
  match r.place with
  | .path | .opening => []
  | .entries => [.api]
  | .method reader => reader.openBlocks ++ [.api]

def opens? (r : ApiReader) : Option BlockKind :=
  match r.place with
  | .opening => some .api
  | .method reader => reader.opens?
  | _ => none

def keeps (r : ApiReader) : Bool :=
  match r.place with
  | .path => true
  | .method reader => reader.keeps
  | _ => false

theorem entry_turn (api : Api) (doc : Option String) (t : Token) :
    Turn none false t.kind [.api] ((entry api doc t).openBlocks openBlocks) := by
  unfold entry
  split
  · exact .leave ‹_› rfl
  · exact .stay (fun _ => rfl) (by simp [*])
  · rename_i noBrace _
    split <;> exact .stay (fun _ => rfl) (absurd · noBrace)

theorem step_turn {lastLine : Nat} {r : ApiReader} {t : Token} {p : Progress ApiReader Api}
    (stepped : r.step lastLine t = .ok p) :
    Turn r.opens? r.keeps t.kind r.openBlocks (p.openBlocks openBlocks) := by
  obtain ⟨api, doc, place⟩ := r
  cases place with
  | path =>
    cases stepped
    exact .stay (fun _ => rfl) fun _ => rfl
  | opening =>
    obtain ⟨brace, rfl⟩ := Token.of_require stepped
    exact .enter brace rfl
  | entries =>
    cases stepped
    exact entry_turn api doc t
  | method reader =>
    exact Progress.host_turn stepped (fun _ => MethodReader.step_turn) (fun _ => rfl) fun _ => rfl

end ApiReader

namespace SocketEventReader

def openBlocks (r : SocketEventReader) : List BlockKind :=
  match r.place with
  | .name | .opening => []
  | .entries => [.socketEvent]
  | .payload _ reader => reader.openBlocks ++ [.socketEvent]

def opens? (r : SocketEventReader) : Option BlockKind :=
  match r.place with
  | .opening => some .socketEvent
  | .payload _ reader => reader.opens?
  | _ => none

def keeps (r : SocketEventReader) : Bool :=
  match r.place with
  | .name => true
  | .payload _ reader => reader.keeps
  | _ => false

theorem entry_turn (event : SocketEvent) (t : Token) :
    Turn none false t.kind [.socketEvent] ((entry event t).openBlocks openBlocks) := by
  unfold entry
  split
  · exact .leave ‹_› rfl
  · rename_i noBrace
    cases PayloadSlot.ofKey? t.literal <;> exact .stay (fun _ => rfl) (absurd · noBrace)

theorem step_turn {lastLine : Nat} {r : SocketEventReader} {t : Token}
    {p : Progress SocketEventReader SocketEvent} (stepped : r.step lastLine t = .ok p) :
    Turn r.opens? r.keeps t.kind r.openBlocks (p.openBlocks openBlocks) := by
  obtain ⟨event, place⟩ := r
  cases place with
  | name =>
    cases stepped
    exact .stay (fun _ => rfl) fun _ => rfl
  | opening =>
    obtain ⟨brace, rfl⟩ := Token.of_require stepped
    exact .enter brace rfl
  | entries =>
    cases stepped
    exact entry_turn event t
  | payload slot reader =>
    exact SchemaReader.host_turn stepped (fun _ => rfl) (fun _ => rfl) fun _ => entry_turn _ t

end SocketEventReader

namespace SocketReader

def openBlocks (r : SocketReader) : List BlockKind :=
  match r.place with
  | .url | .opening => []
  | .entries | .label => [.socket]
  | .handshake _ reader => reader.openBlocks ++ [.socket]
  | .event reader => reader.openBlocks ++ [.socket]

def opens? (r : SocketReader) : Option BlockKind :=
  match r.place with
  | .opening => some .socket
  | .handshake _ reader => reader.opens?
  | .event reader => reader.opens?
  | _ => none

def keeps (r : SocketReader) : Bool :=
  match r.place with
  | .url => true
  | .handshake _ reader => reader.keeps
  | .event reader => reader.keeps
  | _ => false

theorem openBlocks_placeOfKey (socket : Socket) (doc : Option String) (key : String) :
    openBlocks ⟨socket, doc, placeOfKey key⟩ = [.socket] := by
  unfold placeOfKey
  split <;> rfl

theorem entry_turn (socket : Socket) (doc : Option String) (t : Token) :
    Turn none false t.kind [.socket] ((entry socket doc t).openBlocks openBlocks) := by
  unfold entry
  split
  · exact .leave ‹_› rfl
  · exact .stay (fun _ => rfl) (by simp [*])
  · rename_i noBrace _
    simp only [Progress.openBlocks, openBlocks_placeOfKey]
    exact .stay (fun _ => rfl) (absurd · noBrace)

theorem step_turn {lastLine : Nat} {r : SocketReader} {t : Token} {p : Progress SocketReader Socket}
    (stepped : r.step lastLine t = .ok p) :
    Turn r.opens? r.keeps t.kind r.openBlocks (p.openBlocks openBlocks) := by
  obtain ⟨socket, doc, place⟩ := r
  cases place with
  | url =>
    cases stepped
    exact .stay (fun _ => rfl) fun _ => rfl
  | opening =>
    obtain ⟨brace, rfl⟩ := Token.of_require stepped
    exact .enter brace rfl
  | entries =>
    cases stepped
    exact entry_turn socket doc t
  | label =>
    simp only [step] at stepped
    split at stepped <;> cases stepped
    · exact .stay (fun _ => rfl) (by simp [*])
    · exact entry_turn socket doc t
  | handshake slot reader =>
    exact SchemaReader.host_turn stepped (fun _ => rfl) (fun _ => rfl) fun _ => entry_turn _ doc t
  | event reader =>
    exact Progress.host_turn stepped (fun _ => SocketEventReader.step_turn) (fun _ => rfl)
      fun _ => rfl

end SocketReader

namespace StreamReader

def openBlocks (r : StreamReader) : List BlockKind :=
  match r.place with
  | .path | .opening => []
  | .entries | .label | .eventName => [.stream]
  | .request reader => reader.openBlocks ++ [.stream]
  | .event _ reader => reader.openBlocks ++ [.stream]

def opens? (r : StreamReader) : Option BlockKind :=
  match r.place with
  | .opening => some .stream
  | .request reader => reader.opens?
  | .event _ reader => reader.opens?
  | _ => none

def keeps (r : StreamReader) : Bool :=
  match r.place with
  | .path | .eventName => true
  | .request reader => reader.keeps
  | .event _ reader => reader.keeps
  | _ => false

theorem openBlocks_placeOfKey (stream : EventStream) (doc : Option String) (key : String) :
    openBlocks ⟨stream, doc, placeOfKey key⟩ = [.stream] := by
  unfold placeOfKey
  split <;> rfl

theorem entry_turn (stream : EventStream) (doc : Option String) (t : Token) :
    Turn none false t.kind [.stream] ((entry stream doc t).openBlocks openBlocks) := by
  unfold entry
  split
  · exact .leave ‹_› rfl
  · exact .stay (fun _ => rfl) (by simp [*])
  · rename_i noBrace _
    simp only [Progress.openBlocks, openBlocks_placeOfKey]
    exact .stay (fun _ => rfl) (absurd · noBrace)

theorem step_turn {lastLine : Nat} {r : StreamReader} {t : Token}
    {p : Progress StreamReader EventStream} (stepped : r.step lastLine t = .ok p) :
    Turn r.opens? r.keeps t.kind r.openBlocks (p.openBlocks openBlocks) := by
  obtain ⟨stream, doc, place⟩ := r
  cases place with
  | path | eventName =>
    cases stepped
    exact .stay (fun _ => rfl) fun _ => rfl
  | opening =>
    obtain ⟨brace, rfl⟩ := Token.of_require stepped
    exact .enter brace rfl
  | entries =>
    cases stepped
    exact entry_turn stream doc t
  | label =>
    simp only [step] at stepped
    split at stepped <;> cases stepped
    · exact .stay (fun _ => rfl) (by simp [*])
    · exact entry_turn stream doc t
  | request reader =>
    exact SchemaReader.host_turn stepped (fun _ => rfl) (fun _ => rfl) fun _ => entry_turn _ doc t
  | event name reader =>
    exact SchemaReader.host_turn stepped (fun _ => rfl) (fun _ => rfl) fun _ => entry_turn _ none t

end StreamReader

namespace ConfigReader

def openBlocks (r : ConfigReader) : List BlockKind :=
  match r.place with
  | .opening => []
  | _ => [.config]

def opens? (r : ConfigReader) : Option BlockKind :=
  match r.place with
  | .opening => some .config
  | _ => none

def keeps (r : ConfigReader) : Bool :=
  match r.place with
  | .baseUrl | .cors | .mock | .variableName | .headerName => true
  | .variableValue _ .value | .headerValue _ .value => true
  | _ => false

theorem entry_turn (config : Config) (t : Token) :
    Turn none false t.kind [.config] ((entry config t).openBlocks openBlocks) := by
  unfold entry
  split
  · exact .leave ‹_› rfl
  · rename_i noBrace
    have blocks (place : Place) (opened : place ≠ .opening) :
        openBlocks ⟨config, place⟩ = [.config] := by
      cases place with
      | opening => exact absurd rfl opened
      | _ => rfl
    simp only [Progress.openBlocks]
    rw [blocks _ (by split <;> simp)]
    exact .stay (fun _ => rfl) (absurd · noBrace)

section Defaults

variable {t : Token} (proper : t.kind = .closeBrace → t.literal ≠ "default") (config : Config)

include proper

theorem variableDefault_turn (v : Variable) :
    Turn none false t.kind [.config] ((variableDefault config v t).openBlocks openBlocks) := by
  unfold variableDefault
  split
  · exact .stay (fun _ => rfl) fun brace => absurd ‹_› (proper brace)
  · exact entry_turn _ t

theorem headerDefault_turn (h : Header) :
    Turn none false t.kind [.config] ((headerDefault config h t).openBlocks openBlocks) := by
  unfold headerDefault
  split
  · exact .stay (fun _ => rfl) fun brace => absurd ‹_› (proper brace)
  · exact entry_turn _ t

theorem variableType_turn (name : String) :
    Turn none false t.kind [.config] ((variableType config name t).openBlocks openBlocks) := by
  unfold variableType
  split
  · exact variableDefault_turn proper config _
  · rename_i isType
    exact .stay (fun _ => rfl) fun brace => absurd (by simp [brace]) isType

end Defaults

theorem headerMark_turn (config : Config) (h : Header) (t : Token) :
    Turn none false t.kind [.config] ((headerMark config h t).openBlocks openBlocks) := by
  unfold headerMark
  split
  · exact .stay (fun _ => rfl) (by simp [*])
  · exact entry_turn _ t

theorem defaultValue_cases {place : DefaultPlace} {t : Token} {p : Progress DefaultPlace String}
    (valued : defaultValue place t = .ok p) :
    place = .value ∨ t.kind ≠ .openBrace ∧ t.kind ≠ .closeBrace := by
  cases place with
  | value => exact .inl rfl
  | opening | closing =>
    obtain ⟨isParen, -⟩ := Token.of_require valued
    exact .inr ⟨by simp [isParen], by simp [isParen]⟩

theorem step_turn {r : ConfigReader} {t : Token} {p : Progress ConfigReader Config}
    (proper : t.kind = .closeBrace → t.literal ≠ "default") (stepped : r.step t = .ok p) :
    Turn r.opens? r.keeps t.kind r.openBlocks (p.openBlocks openBlocks) := by
  obtain ⟨config, place⟩ := r
  cases place with
  | opening =>
    obtain ⟨brace, rfl⟩ := Token.of_require stepped
    exact .enter brace rfl
  | entries =>
    cases stepped
    exact entry_turn config t
  | baseUrl | cors | mock | variableName | headerName =>
    cases stepped
    exact .stay (fun _ => rfl) fun _ => rfl
  | variableType name =>
    cases stepped
    exact variableType_turn proper config name
  | variableDefault v =>
    cases stepped
    exact variableDefault_turn proper config v
  | headerMark h =>
    cases stepped
    exact headerMark_turn config h t
  | headerDefault h =>
    cases stepped
    exact headerDefault_turn proper config h
  | variableValue v place | headerValue h place =>
    obtain ⟨progress, valued, rfl⟩ := map_eq_ok.1 stepped
    rcases defaultValue_cases valued with rfl | ⟨-, noBrace⟩
    · cases progress <;> exact .stay (fun _ => rfl) fun _ => rfl
    · cases progress <;> exact .stay (fun _ => rfl) (absurd · noBrace)

end ConfigReader

namespace DocumentReader

def Place.openBlocks : Place → List BlockKind
  | .config reader => reader.openBlocks
  | .api reader => reader.openBlocks
  | .socket _ reader => reader.openBlocks
  | .stream reader => reader.openBlocks
  | _ => []

def openBlocks (r : DocumentReader) : List BlockKind :=
  r.place.openBlocks ++ List.replicate r.enclosing.length .category

def opens? (r : DocumentReader) : Option BlockKind :=
  match r.place with
  | .categoryOpening _ => some .category
  | .config reader => reader.opens?
  | .api reader => reader.opens?
  | .socket _ reader => reader.opens?
  | .stream reader => reader.opens?
  | _ => none

def keeps (r : DocumentReader) : Bool :=
  match r.place with
  | .entries | .categoryLabel | .categoryDescription => r.enclosing.isEmpty
  | .importReference | .categoryName | .categoryBasePath => true
  | .categoryOpening _ => false
  | .config reader => reader.keeps
  | .api reader => reader.keeps
  | .socket _ reader => reader.keeps
  | .stream reader => reader.keeps

section Enclosing

variable (r : DocumentReader)

@[simp]
theorem length_enclosing_modifyInnermost (f : Category → Category) :
    (r.modifyInnermost f).enclosing.length = r.enclosing.length := by
  unfold modifyInnermost
  split <;> simp [*]

@[simp]
theorem length_enclosing_addApi (api : Api) :
    (r.addApi api).enclosing.length = r.enclosing.length := by
  unfold addApi
  split <;> simp

@[simp]
theorem length_enclosing_addSocket (kind : SocketKind) (socket : Socket) :
    (r.addSocket kind socket).enclosing.length = r.enclosing.length := by
  unfold addSocket
  split <;> simp

@[simp]
theorem length_enclosing_addStream (stream : EventStream) :
    (r.addStream stream).enclosing.length = r.enclosing.length := by
  unfold addStream
  split <;> simp

@[simp]
theorem length_enclosing_closeCategory :
    r.closeCategory.enclosing.length = r.enclosing.length - 1 := by
  unfold closeCategory
  split <;> simp [*]

theorem openBlocks_between :
    r.between.openBlocks = List.replicate r.enclosing.length .category := rfl

end Enclosing

theorem endpointPlace?_openBlocks {doc : Option String} {keyword : String} {place : Place}
    (found : endpointPlace? doc keyword = some place) : place.openBlocks = [] := by
  unfold endpointPlace? at found
  split at found <;> cases found <;> rfl

theorem place?_openBlocks {r : DocumentReader} {keyword : String} {place : Place}
    (found : r.place? keyword = some place) : place.openBlocks = [] := by
  unfold place? at found
  split at found
  · unfold documentPlace? at found
    split at found
    case h_3 => exact endpointPlace?_openBlocks found
    all_goals cases found; rfl
  · unfold categoryPlace? at found
    split at found
    case h_4 => exact endpointPlace?_openBlocks found
    all_goals cases found; rfl

theorem entry_turn (r : DocumentReader) (t : Token) :
    Turn none r.enclosing.isEmpty t.kind (List.replicate r.enclosing.length .category)
      (r.entry t).openBlocks := by
  unfold entry
  split
  · exact .stay (fun _ => rfl) (by simp [*])
  · split
    · rename_i found
      simp only [openBlocks, enter, place?_openBlocks found, List.nil_append]
      exact .stay (fun _ => rfl) (by simp [*])
    · exact .stay (fun _ => rfl) (by simp [*])
  · rename_i brace
    split
    · exact .stay (fun _ => rfl) fun _ => ‹_›
    · rename_i inside
      have shorter : List.replicate r.enclosing.length BlockKind.category =
          .category :: r.closeCategory.between.openBlocks := by
        rw [openBlocks_between, length_enclosing_closeCategory, ← List.replicate_succ,
          Nat.sub_add_cancel (List.length_pos_iff.2 (by simpa using inside))]
      rw [shorter]
      exact .leave brace (by simpa using inside)
  · rename_i noBrace
    exact .stay (fun _ => rfl) (absurd · noBrace)

-- What one token does to the open blocks of a document. A closing brace that is spelled as such
-- is no keyword.
theorem step_turn {lastLine : Nat} {r s : DocumentReader} {t : Token}
    (proper : t.kind = .closeBrace → t.literal ≠ "default")
    (stepped : r.step lastLine t = .ok s) :
    Turn r.opens? r.keeps t.kind r.openBlocks s.openBlocks := by
  obtain ⟨document, enclosing, nextId, doc, place⟩ := r
  cases place with
  | entries =>
    cases stepped
    exact entry_turn _ t
  | importReference | categoryName =>
    cases stepped
    exact .stay (fun _ => rfl) fun _ => rfl
  | categoryOpening name =>
    obtain ⟨brace, rfl⟩ := Token.of_require stepped
    exact .enter brace rfl
  | categoryLabel | categoryDescription =>
    simp only [step] at stepped
    split at stepped <;> cases stepped
    · rw [openBlocks_between, length_enclosing_modifyInnermost]
      exact .stay (fun _ => rfl) (by simp [*])
    · exact entry_turn _ t
  | categoryBasePath =>
    cases stepped
    rw [openBlocks_between, length_enclosing_modifyInnermost]
    exact .stay (fun _ => rfl) fun _ => rfl
  | config reader =>
    exact Progress.host_turn stepped (fun _ => ConfigReader.step_turn proper) (fun _ => rfl)
      fun _ => rfl
  | api reader =>
    refine Progress.host_turn stepped (fun _ => ApiReader.step_turn) (fun _ => rfl) fun api => ?_
    rw [openBlocks_between, length_enclosing_addApi]
  | socket kind reader =>
    refine Progress.host_turn stepped (fun _ => SocketReader.step_turn) (fun _ => rfl)
      fun socket => ?_
    rw [openBlocks_between, length_enclosing_addSocket]
  | stream reader =>
    refine Progress.host_turn stepped (fun _ => StreamReader.step_turn) (fun _ => rfl)
      fun stream => ?_
    rw [openBlocks_between, length_enclosing_addStream]

end DocumentReader

end ApiCatalog
