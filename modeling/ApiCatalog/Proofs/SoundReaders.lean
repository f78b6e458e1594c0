import ApiCatalog.Proofs.OpenBlocks
import ApiCatalog.Proofs.WellFormed

/-!
Reading gives well-formed documents. Every reader keeps what it has read so far well formed, if the
tokens are such as a text can have.
-/

set_option autoImplicit false

namespace ApiCatalog

-- What readers rely on: names are not empty, and comments are as they are normalised.
structure Token.Proper (t : Token) : Prop where
  word : t.kind = .identifier → t.literal ≠ ""
  comment : t.kind = .comment → isOneLine t.literal
  doc : t.kind = .docComment → IsDocText t.literal

theorem Spells.proper {kind : TokenKind} {literal spelling rest : List Char}
    (spells : Spells kind literal spelling rest) (line : Nat) :
    (Token.mk kind (String.ofList literal) line).Proper where
  word := by
    rintro rfl
    have word := spells.isWord
    cases literal with
    | nil => cases word
    | cons c rest => simp
  comment := by
    rintro rfl
    exact spells.isOneLine
  doc := by
    rintro rfl
    exact spells.isDocText

theorem proper_of_mem {text : String} {t : Token} (found : t ∈ (TokenStream.ofText text).tokens) :
    t.Proper := by
  obtain ⟨spelling, rest, spells⟩ := spells_of_mem found
  simpa using spells.proper t.line

-- Of the doc comment that waits for what it describes.
def DocSound (doc : Option String) : Prop := ∀ s ∈ doc, IsDocText s

theorem DocSound.none : DocSound none := nofun

theorem DocSound.some {t : Token} (proper : t.Proper) (isDoc : t.kind = .docComment) :
    DocSound (some t.literal) := by
  rintro _ ⟨⟩
  exact proper.doc isDoc

def Progress.All {Open Result : Type} (sound : Open → Prop) (wellFormed : Result → Prop) :
    Progress Open Result → Prop
  | reading state => sound state
  | finished result => wellFormed result

namespace SchemaReader

def Place.Sound : Place → Prop
  | .opening => True
  | .body fields | .closed fields => ∀ f ∈ fields, f.WellFormed
  | .type fields name => (∀ f ∈ fields, f.WellFormed) ∧ name ≠ ""
  | .mark fields field => (∀ f ∈ fields, f.WellFormed) ∧ field.WellFormed ∧ field.nested = none
  | .tail fields field | .directive fields field | .valueOpening fields field _
  | .value fields field _ | .valueClosing fields field _ _ =>
    (∀ f ∈ fields, f.WellFormed) ∧ field.WellFormed

structure Sound (r : SchemaReader) : Prop where
  outer : ∀ level ∈ r.outer, (∀ f ∈ level.1, f.WellFormed) ∧ level.2 ≠ ""
  place : r.place.Sound

def Outcome.Sound : Outcome → Prop
  | .reading r => r.Sound
  | .finished schema | .passed schema => schema.WellFormed

theorem start_sound : start.Sound := ⟨nofun, trivial⟩

section Places

variable {t : Token} {fields : List Field} {field : Field} {lastLine : Nat}

theorem annotate_wellFormed (wellFormed : field.WellFormed) (slot : Slot) (literal : Literal) :
    (annotate field slot literal).WellFormed := by
  cases slot <;> exact wellFormed.update rfl rfl rfl (fun _ => rfl) wellFormed.comment

theorem typeOfKeyword_ne_object (keyword : String) : typeOfKeyword keyword ≠ .object := by
  unfold typeOfKeyword
  split <;> nofun

variable (proper : t.Proper) (each : ∀ f ∈ fields, f.WellFormed)

include proper each

theorem body_sound : (body fields t).Sound := by
  unfold body
  split
  · exact each
  next isWord => exact ⟨each, proper.word isWord⟩
  · exact each

theorem tail_sound (wellFormed : field.WellFormed) : (tail lastLine fields field t).Sound := by
  unfold tail
  split
  · exact ⟨each, wellFormed⟩
  · split
    next trails =>
      refine forall_mem_concat each (wellFormed.update rfl rfl rfl (fun _ => rfl) ?_)
      rintro _ ⟨⟩
      exact proper.comment trails.1
    next => exact body_sound proper (forall_mem_concat each wellFormed)

theorem mark_sound (wellFormed : field.WellFormed) (plain : field.nested = none) :
    (mark lastLine fields field t).Sound := by
  unfold mark
  split
  · exact ⟨each, wellFormed.update rfl rfl rfl (by simp [plain]) wellFormed.comment⟩
  · exact tail_sound proper each wellFormed

theorem type_sound {name : String} (named : name ≠ "") : (type lastLine fields name t).Sound := by
  unfold type
  split
  · exact ⟨each, Field.wellFormed_plain named (typeOfKeyword_ne_object _), rfl⟩
  · exact mark_sound proper each (Field.wellFormed_plain named nofun) rfl

omit proper in
theorem directive_sound (wellFormed : field.WellFormed) : (directive fields field t).Sound := by
  unfold directive
  split
  · exact ⟨each, wellFormed.update rfl rfl rfl (fun _ => rfl) wellFormed.comment⟩
  all_goals exact ⟨each, wellFormed⟩

omit proper in
theorem value_sound {slot : Slot} {place : Place} (wellFormed : field.WellFormed)
    (valued : value fields field slot t = .ok place) : place.Sound := by
  unfold value at valued
  split at valued
  · cases valued
    exact ⟨each, wellFormed⟩
  · obtain ⟨-, rfl⟩ := Token.of_require valued
    exact ⟨each, annotate_wellFormed wellFormed slot _⟩

theorem close_sound {outer : List (List Field × String)}
    (levels : ∀ level ∈ outer, (∀ f ∈ level.1, f.WellFormed) ∧ level.2 ≠ "") :
    (close lastLine fields t outer).Sound := by
  cases outer with
  | nil =>
    by_cases isQuestion : t.kind = .question <;> simp only [close, isQuestion, if_true, if_false]
    all_goals exact each
  | cons level outer =>
    obtain ⟨⟨before, named⟩, others⟩ := List.forall_mem_cons.1 levels
    have object (optional : Bool) : (objectField level.2 ⟨fields, optional⟩).WellFormed :=
      Field.wellFormed_object named each
    by_cases isQuestion : t.kind = .question
    · simp only [close, isQuestion, if_true]
      exact ⟨others, before, object true⟩
    · simp only [close, isQuestion, if_false]
      exact ⟨others, tail_sound proper before (object false)⟩

end Places

theorem step_sound {lastLine : Nat} {r : SchemaReader} {t : Token} {outcome : Outcome}
    (proper : t.Proper) (sound : r.Sound) (stepped : r.step lastLine t = .ok outcome) :
    outcome.Sound := by
  obtain ⟨outer, place⟩ := r
  obtain ⟨levels, held⟩ := sound
  cases place with
  | opening =>
    obtain ⟨-, rfl⟩ := Token.of_require stepped
    exact ⟨levels, nofun⟩
  | body fields =>
    cases stepped
    exact ⟨levels, body_sound proper held⟩
  | closed fields =>
    -- Whether the block is optional is only known now, and the field around it follows.
    cases stepped
    exact close_sound proper held levels
  | type fields name =>
    obtain ⟨each, named⟩ := held
    simp only [step] at stepped
    split at stepped <;> cases stepped
    · exact ⟨List.forall_mem_cons.2 ⟨⟨each, named⟩, levels⟩, nofun⟩
    · exact ⟨levels, type_sound proper each named⟩
  | mark fields field =>
    cases stepped
    exact ⟨levels, mark_sound proper held.1 held.2.1 held.2.2⟩
  | tail fields field =>
    cases stepped
    exact ⟨levels, tail_sound proper held.1 held.2⟩
  | directive fields field =>
    cases stepped
    exact ⟨levels, directive_sound held.1 held.2⟩
  | valueOpening fields field slot =>
    obtain ⟨-, rfl⟩ := Token.of_require stepped
    exact ⟨levels, held⟩
  | value fields field slot =>
    obtain ⟨place, valued, rfl⟩ := map_eq_ok.1 stepped
    exact ⟨levels, value_sound held.1 held.2 valued⟩
  | valueClosing fields field slot literal =>
    obtain ⟨-, rfl⟩ := Token.of_require stepped
    exact ⟨levels, held.1, annotate_wellFormed held.2 slot literal⟩

-- What a block around a schema has to show of each outcome.
theorem host_sound {A : Type} {P : A → Prop} {reader : SchemaReader} {lastLine : Nat} {t : Token}
    {next : Outcome → A} {result : A} (proper : t.Proper) (sound : reader.Sound)
    (stepped : (reader.step lastLine t).map next = .ok result)
    (reading : ∀ s : SchemaReader, s.Sound → P (next (.reading s)))
    (finished : ∀ schema : Schema, schema.WellFormed → P (next (.finished schema)))
    (passed : ∀ schema : Schema, schema.WellFormed → P (next (.passed schema))) : P result := by
  obtain ⟨outcome, read, rfl⟩ := map_eq_ok.1 stepped
  have held := step_sound proper sound read
  cases outcome with
  | reading s => exact reading s held
  | finished schema => exact finished schema held
  | passed schema => exact passed schema held

end SchemaReader

theorem Progress.host_sound {Open Result A : Type} {sound : Open → Prop}
    {wellFormed : Result → Prop} {P : A → Prop} {step : Step Open Result}
    {next : Progress Open Result → A} {result : A}
    (stepped : step.map next = .ok result) (steps : ∀ p, step = .ok p → p.All sound wellFormed)
    (reading : ∀ s, sound s → P (next (.reading s)))
    (finished : ∀ x, wellFormed x → P (next (.finished x))) : P result := by
  obtain ⟨progress, read, rfl⟩ := map_eq_ok.1 stepped
  have held := steps progress read
  cases progress with
  | reading s => exact reading s held
  | finished x => exact finished x held

namespace MethodReader

def Place.Sound : Place → Prop
  | .payload _ reader => reader.Sound
  | _ => True

structure Sound (r : MethodReader) : Prop where
  method : r.method.WellFormed
  place : r.place.Sound

theorem setPayload_wellFormed {method : Method} {schema : Schema}
    (wellFormed : method.WellFormed) (held : schema.WellFormed) (slot : PayloadSlot) :
    (setPayload method slot schema).WellFormed := by
  cases slot with
  | request => exact { wellFormed with request := by rintro _ ⟨⟩; exact held }
  | response => exact { wellFormed with response := by rintro _ ⟨⟩; exact held }

theorem entry_sound {method : Method} (wellFormed : method.WellFormed) (t : Token) :
    (entry method t).All Sound Method.WellFormed := by
  unfold entry
  split
  · exact wellFormed
  · refine ⟨wellFormed, ?_⟩
    cases PayloadSlot.ofKey? t.literal with
    | some slot => exact SchemaReader.start_sound
    | none => by_cases isName : t.literal = "name" <;> simp [isName, Place.Sound]

theorem step_sound {lastLine : Nat} {r : MethodReader} {t : Token}
    {p : Progress MethodReader Method} (proper : t.Proper) (sound : r.Sound)
    (stepped : r.step lastLine t = .ok p) :
    p.All Sound Method.WellFormed := by
  obtain ⟨method, place⟩ := r
  obtain ⟨wellFormed, held⟩ := sound
  cases place with
  | opening =>
    obtain ⟨-, rfl⟩ := Token.of_require stepped
    exact ⟨wellFormed, trivial⟩
  | entries =>
    cases stepped
    exact entry_sound wellFormed t
  | label =>
    simp only [step] at stepped
    split at stepped <;> cases stepped
    · exact ⟨{ wellFormed with }, trivial⟩
    · exact entry_sound wellFormed t
  | payload slot reader =>
    refine SchemaReader.host_sound proper held stepped (fun s inner => ⟨wellFormed, inner⟩) ?_ ?_
    · exact fun schema inner => ⟨setPayload_wellFormed wellFormed inner slot, trivial⟩
    · exact fun schema inner => entry_sound (setPayload_wellFormed wellFormed inner slot) t

end MethodReader

namespace ApiReader

def Place.Sound : Place → Prop
  | .method reader => reader.Sound
  | _ => True

structure Sound (r : ApiReader) : Prop where
  api : r.api.WellFormed
  doc : DocSound r.doc
  place : r.place.Sound

theorem start_sound : start.Sound := ⟨nofun, .none, trivial⟩

theorem entry_sound {api : Api} {doc : Option String} {t : Token} (proper : t.Proper)
    (wellFormed : api.WellFormed) (waits : DocSound doc) :
    (entry api doc t).All Sound Api.WellFormed := by
  unfold entry
  split
  · exact wellFormed
  next isDoc => exact ⟨wellFormed, .some proper isDoc, trivial⟩
  · split
    next isVerb =>
      -- The word is compared in small letters and kept in capital ones.
      have method : Method.WellFormed { verb := Text.upper t.literal } :=
        ⟨upper_mem_verbs isVerb, nofun, nofun, nofun⟩
      exact ⟨wellFormed, waits, method, trivial⟩
    next => exact ⟨wellFormed, waits, trivial⟩

theorem step_sound {lastLine : Nat} {r : ApiReader} {t : Token} {p : Progress ApiReader Api}
    (proper : t.Proper) (sound : r.Sound) (stepped : r.step lastLine t = .ok p) :
    p.All Sound Api.WellFormed := by
  obtain ⟨api, doc, place⟩ := r
  obtain ⟨wellFormed, waits, held⟩ := sound
  cases place with
  | path =>
    cases stepped
    exact ⟨wellFormed, waits, trivial⟩
  | opening =>
    obtain ⟨-, rfl⟩ := Token.of_require stepped
    exact ⟨wellFormed, waits, trivial⟩
  | entries =>
    cases stepped
    exact entry_sound proper wellFormed waits
  | method reader =>
    refine Progress.host_sound stepped (fun _ => MethodReader.step_sound proper held)
      (fun s inner => ⟨wellFormed, waits, inner⟩) fun method inner => ?_
    have described : Method.WellFormed { method with description := doc } :=
      { inner with description := waits }
    exact ⟨forall_mem_concat wellFormed described, .none, trivial⟩

end ApiReader

namespace SocketEventReader

def Place.Sound : Place → Prop
  | .payload _ reader => reader.Sound
  | _ => True

structure Sound (r : SocketEventReader) : Prop where
  event : r.event.WellFormed
  place : r.place.Sound

theorem start_sound : start.Sound := ⟨⟨nofun, nofun⟩, trivial⟩

theorem setPayload_wellFormed {event : SocketEvent} {schema : Schema}
    (wellFormed : event.WellFormed) (held : schema.WellFormed) (slot : PayloadSlot) :
    (setPayload event slot schema).WellFormed := by
  cases slot with
  | request => exact { wellFormed with request := by rintro _ ⟨⟩; exact held }
  | response => exact { wellFormed with response := by rintro _ ⟨⟩; exact held }

theorem entry_sound {event : SocketEvent} (wellFormed : event.WellFormed) (t : Token) :
    (entry event t).All Sound SocketEvent.WellFormed := by
  unfold entry
  split
  · exact wellFormed
  · refine ⟨wellFormed, ?_⟩
    cases PayloadSlot.ofKey? t.literal with
    | some slot => exact SchemaReader.start_sound
    | none => exact trivial

theorem step_sound {lastLine : Nat} {r : SocketEventReader} {t : Token}
    {p : Progress SocketEventReader SocketEvent} (proper : t.Proper) (sound : r.Sound)
    (stepped : r.step lastLine t = .ok p) : p.All Sound SocketEvent.WellFormed := by
  obtain ⟨event, place⟩ := r
  obtain ⟨wellFormed, held⟩ := sound
  cases place with
  | name =>
    cases stepped
    exact ⟨{ wellFormed with }, trivial⟩
  | opening =>
    obtain ⟨-, rfl⟩ := Token.of_require stepped
    exact ⟨wellFormed, trivial⟩
  | entries =>
    cases stepped
    exact entry_sound wellFormed t
  | payload slot reader =>
    refine SchemaReader.host_sound proper held stepped (fun s inner => ⟨wellFormed, inner⟩) ?_ ?_
    · exact fun schema inner => ⟨setPayload_wellFormed wellFormed inner slot, trivial⟩
    · exact fun schema inner => entry_sound (setPayload_wellFormed wellFormed inner slot) t

end SocketEventReader

namespace SocketReader

def Place.Sound : Place → Prop
  | .handshake _ reader => reader.Sound
  | .event reader => reader.Sound
  | _ => True

structure Sound (r : SocketReader) : Prop where
  socket : r.socket.WellFormed
  doc : DocSound r.doc
  place : r.place.Sound

theorem start_sound {doc : Option String} (waits : DocSound doc) : (start doc).Sound :=
  ⟨⟨waits, nofun, nofun, nofun⟩, .none, trivial⟩

theorem setHandshake_wellFormed {socket : Socket} {schema : Schema}
    (wellFormed : socket.WellFormed) (held : schema.WellFormed) (slot : Slot) :
    (setHandshake socket slot schema).WellFormed := by
  cases slot with
  | auth => exact { wellFormed with auth := by rintro _ ⟨⟩; exact held }
  | headers => exact { wellFormed with connectHeaders := by rintro _ ⟨⟩; exact held }

theorem complete_wellFormed {socket : Socket} {doc : Option String}
    (wellFormed : socket.WellFormed) (waits : DocSound doc) : (complete socket doc).WellFormed := by
  refine { wellFormed with description := ?_ }
  cases doc with
  | none => exact wellFormed.description
  | some s => exact waits

theorem placeOfKey_sound (key : String) : (placeOfKey key).Sound := by
  unfold placeOfKey
  split
  · exact trivial
  · exact SchemaReader.start_sound
  · exact SchemaReader.start_sound
  · exact SocketEventReader.start_sound
  · exact trivial

theorem entry_sound {socket : Socket} {doc : Option String} {t : Token} (proper : t.Proper)
    (wellFormed : socket.WellFormed) (waits : DocSound doc) :
    (entry socket doc t).All Sound Socket.WellFormed := by
  unfold entry
  split
  · exact complete_wellFormed wellFormed waits
  next isDoc => exact ⟨wellFormed, .some proper isDoc, trivial⟩
  · exact ⟨wellFormed, waits, placeOfKey_sound _⟩

theorem step_sound {lastLine : Nat} {r : SocketReader} {t : Token}
    {p : Progress SocketReader Socket} (proper : t.Proper) (sound : r.Sound)
    (stepped : r.step lastLine t = .ok p) :
    p.All Sound Socket.WellFormed := by
  obtain ⟨socket, doc, place⟩ := r
  obtain ⟨wellFormed, waits, held⟩ := sound
  cases place with
  | url =>
    cases stepped
    exact ⟨{ wellFormed with }, waits, trivial⟩
  | opening =>
    obtain ⟨-, rfl⟩ := Token.of_require stepped
    exact ⟨wellFormed, waits, trivial⟩
  | entries =>
    cases stepped
    exact entry_sound proper wellFormed waits
  | label =>
    simp only [step] at stepped
    split at stepped <;> cases stepped
    · exact ⟨{ wellFormed with }, waits, trivial⟩
    · exact entry_sound proper wellFormed waits
  | handshake slot reader =>
    refine SchemaReader.host_sound proper held stepped
      (fun s inner => ⟨wellFormed, waits, inner⟩) ?_ ?_
    · exact fun schema inner => ⟨setHandshake_wellFormed wellFormed inner slot, waits, trivial⟩
    · exact fun schema inner =>
        entry_sound proper (setHandshake_wellFormed wellFormed inner slot) waits
  | event reader =>
    refine Progress.host_sound stepped (fun _ => SocketEventReader.step_sound proper held)
      (fun s inner => ⟨wellFormed, waits, inner⟩) fun event inner => ?_
    exact ⟨{ wellFormed with events := forall_mem_concat wellFormed.events inner }, .none, trivial⟩

end SocketReader

namespace StreamReader

def Place.Sound : Place → Prop
  | .request reader => reader.Sound
  | .event _ reader => reader.Sound
  | _ => True

structure Sound (r : StreamReader) : Prop where
  stream : r.stream.WellFormed
  doc : DocSound r.doc
  place : r.place.Sound

theorem start_sound {doc : Option String} (waits : DocSound doc) : (start doc).Sound :=
  ⟨⟨waits, nofun, nofun⟩, .none, trivial⟩

theorem complete_wellFormed {stream : EventStream} {doc : Option String}
    (wellFormed : stream.WellFormed) (waits : DocSound doc) : (complete stream doc).WellFormed := by
  refine { wellFormed with description := ?_ }
  cases doc with
  | none => exact wellFormed.description
  | some s => exact waits

theorem placeOfKey_sound (key : String) : (placeOfKey key).Sound := by
  unfold placeOfKey
  split
  · exact trivial
  · exact SchemaReader.start_sound
  · exact trivial
  · exact trivial

theorem entry_sound {stream : EventStream} {doc : Option String} {t : Token} (proper : t.Proper)
    (wellFormed : stream.WellFormed) (waits : DocSound doc) :
    (entry stream doc t).All Sound EventStream.WellFormed := by
  unfold entry
  split
  · exact complete_wellFormed wellFormed waits
  next isDoc => exact ⟨wellFormed, .some proper isDoc, trivial⟩
  · exact ⟨wellFormed, waits, placeOfKey_sound _⟩

theorem step_sound {lastLine : Nat} {r : StreamReader} {t : Token}
    {p : Progress StreamReader EventStream} (proper : t.Proper) (sound : r.Sound)
    (stepped : r.step lastLine t = .ok p) : p.All Sound EventStream.WellFormed := by
  obtain ⟨stream, doc, place⟩ := r
  obtain ⟨wellFormed, waits, held⟩ := sound
  cases place with
  | path =>
    cases stepped
    exact ⟨{ wellFormed with }, waits, trivial⟩
  | opening =>
    obtain ⟨-, rfl⟩ := Token.of_require stepped
    exact ⟨wellFormed, waits, trivial⟩
  | entries =>
    cases stepped
    exact entry_sound proper wellFormed waits
  | label =>
    simp only [step] at stepped
    split at stepped <;> cases stepped
    · exact ⟨{ wellFormed with }, waits, trivial⟩
    · exact entry_sound proper wellFormed waits
  | request reader =>
    have requested {schema : Schema} (inner : schema.WellFormed) :
        EventStream.WellFormed { stream with request := some schema } :=
      { wellFormed with request := by rintro _ ⟨⟩; exact inner }
    refine SchemaReader.host_sound proper held stepped
      (fun s inner => ⟨wellFormed, waits, inner⟩) ?_ ?_
    · exact fun schema inner => ⟨requested inner, waits, trivial⟩
    · exact fun schema inner => entry_sound proper (requested inner) waits
  | eventName =>
    cases stepped
    exact ⟨wellFormed, waits, SchemaReader.start_sound⟩
  | event name reader =>
    have added {schema : Schema} (inner : schema.WellFormed) :
        (addEvent stream name schema).WellFormed :=
      { wellFormed with events := forall_mem_concat wellFormed.events inner }
    refine SchemaReader.host_sound proper held stepped
      (fun s inner => ⟨wellFormed, waits, inner⟩) ?_ ?_
    · exact fun schema inner => ⟨added inner, .none, trivial⟩
    · exact fun schema inner => entry_sound proper (added inner) .none

end StreamReader

namespace ConfigReader

def Sound (r : ConfigReader) : Prop := r.config.WellFormed

theorem entry_sound {config : Config} (wellFormed : config.WellFormed) (t : Token) :
    (entry config t).All Sound Config.WellFormed := by
  unfold entry
  split <;> exact wellFormed

theorem variableDefault_sound {config : Config} (wellFormed : config.WellFormed) (v : Variable)
    (t : Token) : (variableDefault config v t).All Sound Config.WellFormed := by
  unfold variableDefault
  split
  · exact wellFormed
  · exact entry_sound (show (addVariable config v).WellFormed from wellFormed) t

theorem step_sound {r : ConfigReader} {t : Token} {p : Progress ConfigReader Config}
    (sound : r.Sound) (stepped : r.step t = .ok p) : p.All Sound Config.WellFormed := by
  obtain ⟨config, place⟩ := r
  have added (h : Header) : (addHeader config h).WellFormed := sound
  cases place with
  | opening =>
    obtain ⟨-, rfl⟩ := Token.of_require stepped
    exact sound
  | entries =>
    cases stepped
    exact entry_sound sound t
  | baseUrl =>
    cases stepped
    exact splitUrls_isBaseUrl t.literal
  | cors | mock | variableName | headerName =>
    cases stepped
    exact sound
  | variableType name =>
    cases stepped
    unfold variableType
    split
    · exact variableDefault_sound sound _ t
    · exact sound
  | variableDefault v =>
    cases stepped
    exact variableDefault_sound sound v t
  | headerMark h =>
    cases stepped
    unfold headerMark
    split
    · exact sound
    · exact entry_sound (added h) t
  | headerDefault h =>
    cases stepped
    unfold headerDefault
    split
    · exact sound
    · exact entry_sound (added h) t
  | variableValue v place | headerValue h place =>
    obtain ⟨progress, -, rfl⟩ := map_eq_ok.1 stepped
    cases progress <;> exact sound

end ConfigReader

namespace DocumentReader

def Place.Sound : Place → Prop
  | .config reader => reader.Sound
  | .api reader => reader.Sound
  | .socket _ reader => reader.Sound
  | .stream reader => reader.Sound
  | _ => True

/-- The part of a document that has been read, and the categories that are still open, are well
formed. -/
structure Holds (r : DocumentReader) : Prop where
  document : r.document.WellFormed
  enclosing : ∀ c ∈ r.enclosing, c.WellFormed

structure Sound (r : DocumentReader) : Prop extends r.Holds where
  doc : DocSound r.doc
  place : r.place.Sound

theorem start_sound : start.Sound where
  document := ⟨nofun, nofun, ⟨nofun, nofun, nofun, nofun⟩, nofun⟩
  enclosing := nofun
  doc := .none
  place := trivial

section Statements

variable {r : DocumentReader}

theorem Holds.enter {place : Place} (holds : r.Holds) (sound : place.Sound) :
    (r.enter place).Sound :=
  ⟨⟨holds.document, holds.enclosing⟩, .none, sound⟩

theorem Holds.between (holds : r.Holds) : r.between.Sound := holds.enter trivial

theorem Holds.modifyInnermost {f : Category → Category} (holds : r.Holds)
    (modifies : ∀ c : Category, c.WellFormed → (f c).WellFormed) : (r.modifyInnermost f).Holds := by
  unfold DocumentReader.modifyInnermost
  split
  · exact holds
  next category outer enclosing =>
    obtain ⟨innermost, others⟩ := List.forall_mem_cons.1 (enclosing ▸ holds.enclosing)
    exact ⟨holds.document, List.forall_mem_cons.2 ⟨modifies category innermost, others⟩⟩

theorem Holds.addApi {api : Api} (holds : r.Holds) (held : api.WellFormed) :
    (r.addApi api).Holds := by
  have added {e : Services} (services : e.WellFormed) :
      Services.WellFormed { e with apis := e.apis ++ [api] } :=
    { services with apis := forall_mem_concat services.apis held }
  unfold DocumentReader.addApi
  split
  · exact ⟨{ holds.document with services := added holds.document.services }, holds.enclosing⟩
  · exact holds.modifyInnermost fun c ⟨services, children⟩ => ⟨added services, children⟩

theorem Holds.addSocket {socket : Socket} (holds : r.Holds) (kind : SocketKind)
    (held : socket.WellFormed) : (r.addSocket kind socket).Holds := by
  have plain {e : Services} (services : e.WellFormed) :
      Services.WellFormed { e with sockets := e.sockets ++ [socket] } :=
    { services with sockets := forall_mem_concat services.sockets held }
  have eventBased {e : Services} (services : e.WellFormed) :
      Services.WellFormed { e with eventSockets := e.eventSockets ++ [socket] } :=
    { services with eventSockets := forall_mem_concat services.eventSockets held }
  unfold DocumentReader.addSocket
  split
  · exact ⟨{ holds.document with services := plain holds.document.services }, holds.enclosing⟩
  · exact ⟨{ holds.document with services := eventBased holds.document.services }, holds.enclosing⟩
  · exact holds.modifyInnermost fun c ⟨services, children⟩ => ⟨plain services, children⟩
  · exact holds.modifyInnermost fun c ⟨services, children⟩ => ⟨eventBased services, children⟩

theorem Holds.addStream {stream : EventStream} (holds : r.Holds) (held : stream.WellFormed) :
    (r.addStream stream).Holds := by
  have added {e : Services} (services : e.WellFormed) :
      Services.WellFormed { e with streams := e.streams ++ [stream] } :=
    { services with streams := forall_mem_concat services.streams held }
  unfold DocumentReader.addStream
  split
  · exact ⟨{ holds.document with services := added holds.document.services }, holds.enclosing⟩
  · exact holds.modifyInnermost fun c ⟨services, children⟩ => ⟨added services, children⟩

theorem Holds.addImport {reference : String} (holds : r.Holds) (bare : IsBare reference) :
    (r.addImport reference).Holds :=
  ⟨{ holds.document with imports := forall_mem_concat holds.document.imports bare },
    holds.enclosing⟩

theorem Holds.openCategory (holds : r.Holds) (name : String) : (r.openCategory name).Holds :=
  ⟨holds.document,
    List.forall_mem_cons.2 ⟨⟨⟨nofun, nofun, nofun, nofun⟩, nofun⟩, holds.enclosing⟩⟩

theorem Holds.closeCategory (holds : r.Holds) : r.closeCategory.Holds := by
  obtain ⟨document, enclosing⟩ := holds
  unfold DocumentReader.closeCategory
  split
  · exact ⟨document, enclosing⟩
  next category only =>
    have innermost := enclosing category (by simp [only])
    exact ⟨{ document with categories := forall_mem_concat document.categories innermost }, nofun⟩
  next category parent outer nesting =>
    rw [nesting] at enclosing
    obtain ⟨innermost, ⟨services, children⟩, others⟩ :
        category.WellFormed ∧ parent.WellFormed ∧ ∀ c ∈ outer, c.WellFormed := by
      simpa using enclosing
    have closed : Category.WellFormed { parent with children := parent.children ++ [category] } :=
      ⟨services, forall_mem_concat children innermost⟩
    exact ⟨document, List.forall_mem_cons.2 ⟨closed, others⟩⟩

end Statements

theorem endpointPlace?_sound {doc : Option String} {keyword : String} {place : Place}
    (waits : DocSound doc) (found : endpointPlace? doc keyword = some place) : place.Sound := by
  unfold endpointPlace? at found
  split at found <;> cases found
  · exact ApiReader.start_sound
  · exact SocketReader.start_sound waits
  · exact SocketReader.start_sound waits
  · exact StreamReader.start_sound waits
  · exact trivial

theorem place?_sound {r : DocumentReader} {keyword : String} {place : Place}
    (waits : DocSound r.doc) (found : r.place? keyword = some place) : place.Sound := by
  unfold place? at found
  split at found
  · unfold documentPlace? at found
    split at found
    case h_1 =>
      cases found
      exact (nofun : Config.WellFormed {})
    case h_3 => exact endpointPlace?_sound waits found
    all_goals cases found; trivial
  · unfold categoryPlace? at found
    split at found
    case h_4 => exact endpointPlace?_sound waits found
    all_goals cases found; trivial

theorem entry_sound {r : DocumentReader} {t : Token} (proper : t.Proper) (holds : r.Holds)
    (waits : DocSound r.doc) : (r.entry t).Sound := by
  obtain ⟨document, enclosing⟩ := holds
  have skipped : Sound { r with place := .entries } := ⟨⟨document, enclosing⟩, waits, trivial⟩
  unfold entry
  split
  next isDoc => exact ⟨⟨document, enclosing⟩, .some proper isDoc, trivial⟩
  · split
    next found => exact Holds.enter ⟨document, enclosing⟩ (place?_sound waits found)
    · exact skipped
  · split
    · exact skipped
    · exact (Holds.closeCategory ⟨document, enclosing⟩).between
  · exact skipped

theorem step_sound {lastLine : Nat} {r s : DocumentReader} {t : Token} (proper : t.Proper)
    (sound : r.Sound) (stepped : r.step lastLine t = .ok s) : s.Sound := by
  obtain ⟨document, enclosing, nextId, doc, place⟩ := r
  obtain ⟨holds, waits, held⟩ := sound
  cases place with
  | entries =>
    cases stepped
    exact entry_sound proper holds waits
  | importReference =>
    cases stepped
    exact (holds.addImport (isBare_unquote t.literal)).between
  | categoryName =>
    cases stepped
    exact holds.enter trivial
  | categoryOpening name =>
    obtain ⟨-, rfl⟩ := Token.of_require stepped
    exact (holds.openCategory name).between
  | categoryLabel | categoryDescription =>
    simp only [step] at stepped
    split at stepped <;> cases stepped
    · refine Holds.between (holds.modifyInnermost ?_)
      rintro c ⟨services, children⟩
      exact ⟨services, children⟩
    · exact entry_sound proper holds waits
  | categoryBasePath =>
    cases stepped
    refine Holds.between (holds.modifyInnermost ?_)
    rintro c ⟨services, children⟩
    exact ⟨services, children⟩
  | config reader =>
    refine Progress.host_sound stepped (fun _ => ConfigReader.step_sound held)
      (fun s inner => holds.enter inner) fun config inner => ?_
    exact ⟨⟨{ holds.document with config := by rintro _ ⟨⟩; exact inner }, holds.enclosing⟩,
      .none, trivial⟩
  | api reader =>
    exact Progress.host_sound stepped (fun _ => ApiReader.step_sound proper held)
      (fun s inner => holds.enter inner) fun api inner => (holds.addApi inner).between
  | socket kind reader =>
    exact Progress.host_sound stepped (fun _ => SocketReader.step_sound proper held)
      (fun s inner => holds.enter inner) fun socket inner => (holds.addSocket kind inner).between
  | stream reader =>
    exact Progress.host_sound stepped (fun _ => StreamReader.step_sound proper held)
      (fun s inner => holds.enter inner) fun stream inner => (holds.addStream inner).between

theorem run_sound {lastLine : Nat} {r s : DocumentReader} {tokens : List Token}
    (proper : ∀ t ∈ tokens, t.Proper) (sound : r.Sound) (ran : r.run lastLine tokens = .ok s) :
    s.Sound := by
  induction tokens generalizing lastLine r with
  | nil =>
    cases ran
    exact sound
  | cons t rest ih =>
    -- One step keeps the reader sound, whatever line the last token was on.
    obtain ⟨first, others⟩ := List.forall_mem_cons.1 proper
    obtain ⟨next, stepped, ran⟩ := bind_eq_ok.1 ran
    exact ih others (step_sound first sound stepped) ran

theorem finish_wellFormed {endLine : Nat} {r : DocumentReader} {d : Document} (holds : r.Holds)
    (finished : r.finish endLine = .ok d) : d.WellFormed := by
  unfold finish at finished
  split at finished
  · cases finished
  · split at finished <;> cases finished
    -- An import at the very end has the empty reference, which has no ends to be quotes.
    · exact (holds.addImport (show IsBare "" from ⟨nofun, nofun⟩)).document
    · exact holds.document

end DocumentReader

theorem Document.ofText_wellFormed {text : String} {d : Document}
    (parsed : Document.ofText text = .ok d) : d.WellFormed := by
  obtain ⟨r, ran, finished⟩ := bind_eq_ok.1 parsed
  have sound := DocumentReader.run_sound (fun _ => proper_of_mem) DocumentReader.start_sound ran
  exact DocumentReader.finish_wellFormed sound.toHolds finished

def untidyText : String :=
  "\x7d import '\"a\"' config \x7b baseUrl \" http://a ,, http://b \" \x7d\n" ++
    "category c \x7b api /p \x7b /** one\n * two */ pOsT \x7b request \x7b\n" ++
    "x \x7b y Number? //  last \n \x7d? // x\n \x7d \x7d \x7d \x7d import"

theorem Document.ofText_wellFormed_untidy :
    ∃ d, Document.ofText untidyText = .ok d ∧ d.imports = ["a", ""] ∧
      d.config.map (·.baseUrls) = some ["http://a", "http://b"] ∧
      d.categories.flatMap (·.apis.flatMap (·.methods.map (·.verb))) = ["POST"] ∧
      d.WellFormed := by
  let view (d : Document) := (d.imports, d.config.map (·.baseUrls),
    d.categories.flatMap (·.apis.flatMap (·.methods.map (·.verb))))
  have read : (Document.ofText untidyText).map view =
      .ok (["a", ""], some ["http://a", "http://b"], ["POST"]) := by decide +kernel
  obtain ⟨d, parsed, same⟩ := map_eq_ok.1 read
  simp only [view, Prod.mk.injEq] at same
  exact ⟨d, parsed, same.1, same.2.1, same.2.2, Document.ofText_wellFormed parsed⟩

end ApiCatalog
