import ApiCatalog.Proofs.Readings

/-!
Reading schemas. Only the token after a field or a block shows that it is complete, so each
statement says what must not come next.
-/

set_option autoImplicit false

namespace ApiCatalog

def EndsBlock : List Piece → Prop := Next fun p => p.kind ≠ .question

def EndsField : List Piece → Prop := Next fun p => p.kind ∉ [.question, .atSign, .comment]

theorem EndsField.endsBlock {rest : List Piece} (ends : EndsField rest) : EndsBlock rest := by
  cases rest with
  | nil => exact ends
  | cons p _ => exact fun isQuestion => ends (by simp [isQuestion])

theorem boolPiece_scannable (b : Bool) : (boolPiece b).Scannable := by
  cases b <;> decide

namespace Literal.Expressible

variable {l : Literal}

theorem scannable (expressible : l.Expressible) : l.piece.Scannable := by
  cases l with
  | bool b => exact boolPiece_scannable b
  | text s => exact expressible
  | number x => exact expressible.elim

theorem literal? (expressible : l.Expressible) (line : Nat) :
    SchemaReader.literal? (l.piece.token line) = some l := by
  cases l with
  | bool b =>
    cases b <;> simp [SchemaReader.literal?, SchemaReader.literalOfWord, piece, boolPiece]
  | text s => rfl
  | number x => exact expressible.elim

end Literal.Expressible

def SchemaReader.Slot.key : SchemaReader.Slot → String
  | .mock => "mock"
  | .sample => "example"

namespace Field

def declared (f : Field) : Field :=
  { name := f.name, type := f.type, optional := f.optional, nested := f.nested }

def declaration (f : Field) : List Piece :=
  .word f.name :: (shapePieces f.type f.nested ++ optionalPieces f.optional)

def notes (f : Field) : List Piece :=
  parameterPieces f.isParameter ++ notePieces "mock" f.mock ++ notePieces "example" f.sample

theorem with_comment (f : Field) {comment : Option String} (noted : f.comment = comment) :
    { f with comment } = f := by
  cases f
  cases noted
  rfl

theorem pieces_eq (f : Field) :
    f.pieces = f.declaration ++ f.notes ++ commentPieces f.comment := by
  cases f
  simp [Field.pieces, declaration, notes]

end Field

theorem fieldPieces_eq (fields : List Field) :
    fieldPieces fields = fields.flatMap Field.pieces := by
  induction fields with
  | nil => rfl
  | cons f rest ih => rw [fieldPieces, ih, List.flatMap_cons]

theorem blockPieces_eq (block : FieldBlock Field) :
    blockPieces block = braced (block.fields.flatMap Field.pieces) := by
  cases block
  rw [blockPieces, fieldPieces_eq]

section Level

def EndsLevel (ps : List Piece) : Prop := ∀ p ∈ ps.getLast?, p.height = 0

theorem EndsLevel.append {ps qs : List Piece} (first : EndsLevel ps) (second : EndsLevel qs) :
    EndsLevel (ps ++ qs) := by
  intro p isLast
  rw [List.getLast?_append] at isLast
  cases last : qs.getLast? with
  | none => exact first p (by simpa [last] using isLast)
  | some q => exact second p (by simpa [last] using isLast)

theorem EndsLevel.last_eq {ps : List Piece} (level : EndsLevel ps) (held : ps ≠ []) (spot : Spot) :
    (spot.after ps).last = (spot.after ps).line := by
  obtain rfl | ⟨front, p, rfl⟩ := ps.eq_nil_or_concat
  · exact absurd rfl held
  · have flat : p.height = 0 := level p (by simp)
    simp [Spot.after_append, Spot.after, flat]

theorem shapePieces_level (name : String) (type : FieldType)
    (nested : Option (FieldBlock Field)) :
    EndsLevel (.word name :: shapePieces type nested) := by
  cases nested with
  | none =>
    have flat : (Piece.word type.keyword).height = 0 := by cases type <;> decide
    simpa [EndsLevel, shapePieces] using flat
  | some block =>
    have flat : (Piece.mark .closeBrace).height = 0 := by decide
    simpa [EndsLevel, shapePieces, blockPieces_eq, braced, List.getLast?_cons] using flat

theorem notePieces_level (key : String) (value : Option Literal) :
    EndsLevel (notePieces key value) := by
  cases value with
  | none => simp [EndsLevel, notePieces]
  | some l =>
    have flat : (Piece.mark .closeParen).height = 0 := by decide
    simpa [EndsLevel, notePieces, parenthesized] using flat

theorem Field.level (f : Field) : EndsLevel (f.declaration ++ f.notes) := by
  have optional : EndsLevel (optionalPieces f.optional) := by
    cases f.optional <;> simp only [EndsLevel] <;> decide
  have parameter : EndsLevel (parameterPieces f.isParameter) := by
    cases f.isParameter <;> simp only [EndsLevel] <;> decide
  have declaration : EndsLevel f.declaration := (shapePieces_level _ _ _).append optional
  exact declaration.append ((parameter.append (notePieces_level _ f.mock)).append
    (notePieces_level _ f.sample))

end Level

theorem notePieces_endsBlock (key : String) (value : Option Literal) {rest : List Piece}
    (ends : EndsBlock rest) : EndsBlock (notePieces key value ++ rest) := by
  cases value with
  | none => exact ends
  | some l => simp [EndsBlock, Next, notePieces]

theorem Field.notes_endsBlock (f : Field) (rest : List Piece) (ends : EndsBlock rest) :
    EndsBlock (f.notes ++ rest) := by
  have annotated :=
    notePieces_endsBlock "mock" f.mock (notePieces_endsBlock "example" f.sample ends)
  rw [notes, List.append_assoc, List.append_assoc]
  cases f.isParameter with
  | false => exact annotated
  | true => simp [EndsBlock, Next, parameterPieces]

theorem Field.pieces_endsField (f : Field) (rest : List Piece) : EndsField (f.pieces ++ rest) := by
  rw [pieces_eq]
  simp [declaration, EndsField, Next]

/-- Schemas are read inside of other blocks, which step as the reader of the schema does, and go on
after the schema. -/
structure Hosts (host : SchemaReader → DocumentReader) (after : Schema → DocumentReader) :
    Prop where
  step : ∀ last reader t, (host reader).step last t = reader.step last t >>= fun
    | .reading reader => .ok (host reader)
    | .finished schema => .ok (after schema)
    | .passed schema => (after schema).step last t

namespace Hosts

open SchemaReader (Place)

variable {host : SchemaReader → DocumentReader} {after : Schema → DocumentReader}
  {outer : List (List Field × String)} {fields : List Field}

theorem steps (hosts : Hosts host after) {reader reader' : SchemaReader} {p : Piece}
    (reads : ∀ last line, reader.step last (p.token line) = .ok (.reading reader')) :
    Steps (host reader) p (host reader') := by
  intro last line
  rw [hosts.step, reads]
  rfl

theorem reads (hosts : Hosts host after) {reader reader' : SchemaReader} {p : Piece}
    (scannable : p.Scannable)
    (reads : ∀ last line, reader.step last (p.token line) = .ok (.reading reader')) :
    Reads Anything (host reader) [p] (host reader') :=
  .step scannable (hosts.steps reads)

theorem settles (hosts : Hosts host after) {reader reader' : SchemaReader} {first : Piece → Prop}
    (alike : ∀ p, first p → ∀ last line,
      reader.step last (p.token line) = reader'.step last (p.token line)) :
    Reads (Next first) (host reader) [] (host reader') :=
  .settle fun p isFirst last line => by rw [hosts.step, hosts.step, alike p isFirst]

theorem reads_name (hosts : Hosts host after) {name : String} (identifier : IsIdentifier name) :
    Reads Anything (host ⟨outer, .body fields⟩) [.word name] (host ⟨outer, .type fields name⟩) :=
  hosts.reads (isWord_of_isIdentifier identifier) fun _ _ => rfl

theorem reads_keyword (hosts : Hosts host after) {type : FieldType} (isPlain : type ≠ .object)
    (name : String) :
    Reads Anything (host ⟨outer, .type fields name⟩) [.word type.keyword]
      (host ⟨outer, .mark fields { name, type }⟩) := by
  have sameType : SchemaReader.typeOfKeyword type.keyword = type := by
    cases type with
    | object => exact absurd rfl isPlain
    | _ => simp [FieldType.keyword, SchemaReader.typeOfKeyword]
  have scannable : isWord type.keyword.toList := by cases type <;> decide
  refine hosts.reads scannable fun last line => ?_
  simp [SchemaReader.step, SchemaReader.type, sameType]

theorem reads_mark (hosts : Hosts host after) (field : Field) (optional : Bool) :
    Reads EndsBlock (host ⟨outer, .mark fields { field with optional := false }⟩)
      (optionalPieces optional) (host ⟨outer, .tail fields { field with optional }⟩) := by
  cases optional with
  | true => exact (hosts.reads (Piece.scannable_mark .question) fun _ _ => rfl).anyway
  | false =>
    -- Nothing is read: the next piece is looked at and left to what may follow a type.
    refine hosts.settles fun p isNext last line => ?_
    simp [SchemaReader.step, SchemaReader.mark, isNext]

theorem reads_closed (hosts : Hosts host after) (inner : List Field) (name : String)
    (optional : Bool) :
    Reads EndsBlock (host ⟨(fields, name) :: outer, .closed inner⟩) (optionalPieces optional)
      (host ⟨outer, .tail fields (SchemaReader.objectField name ⟨inner, optional⟩)⟩) := by
  cases optional with
  | true => exact (hosts.reads (Piece.scannable_mark .question) fun _ _ => rfl).anyway
  | false =>
    refine hosts.settles fun p isNext last line => ?_
    simp [SchemaReader.step, SchemaReader.close, isNext]

theorem reads_last (hosts : Hosts host after) (inner : List Field) (optional : Bool) :
    Reads EndsBlock (host ⟨[], .closed inner⟩) (optionalPieces optional)
      (after ⟨inner, optional⟩) := by
  cases optional with
  | true =>
    exact (Reads.step (Piece.scannable_mark .question) fun _ _ => hosts.step _ _ _).anyway
  | false =>
    -- The schema is complete one piece late, so its host has to read that piece again.
    refine Reads.settle fun p isNext last line => ?_
    have passed : SchemaReader.step last ⟨[], .closed inner⟩ (p.token line) =
        .ok (.passed ⟨inner, false⟩) := by
      simp [SchemaReader.step, SchemaReader.close, isNext]
    rw [hosts.step, passed]
    rfl

theorem reads_atSign (hosts : Hosts host after) (field : Field) :
    Reads Anything (host ⟨outer, .tail fields field⟩) [.mark .atSign]
      (host ⟨outer, .directive fields field⟩) :=
  hosts.reads (Piece.scannable_mark .atSign) fun _ _ => rfl

theorem reads_parameter (hosts : Hosts host after) (field : Field) (isParameter : Bool) :
    Reads Anything (host ⟨outer, .tail fields { field with isParameter := false }⟩)
      (parameterPieces isParameter) (host ⟨outer, .tail fields { field with isParameter }⟩) := by
  cases isParameter with
  | false => exact .nothing _
  | true =>
    refine (hosts.reads_atSign _).andThen (hosts.reads (by decide) fun last line => ?_)
    simp [SchemaReader.step, SchemaReader.directive]

theorem reads_value (hosts : Hosts host after) (field : Field) (slot : SchemaReader.Slot)
    {l : Literal} (expressible : l.Expressible) :
    Reads Anything (host ⟨outer, .valueOpening fields field slot⟩) (parenthesized l.piece)
      (host ⟨outer, .tail fields (SchemaReader.annotate field slot l)⟩) := by
  have valued (last line : Nat) :
      SchemaReader.step last ⟨outer, .value fields field slot⟩ (l.piece.token line) =
        .ok (.reading ⟨outer, .valueClosing fields field slot l⟩) := by
    simp only [SchemaReader.step, SchemaReader.value, expressible.literal?]
    rfl
  exact .parenthesized expressible.scannable (hosts.steps fun _ _ => rfl) (hosts.steps valued)
    (hosts.steps fun _ _ => rfl)

theorem reads_note (hosts : Hosts host after) (outer : List (List Field × String))
    (fields : List Field) (field : Field) (slot : SchemaReader.Slot)
    {value : Option Literal} (expressible : ∀ l ∈ value, l.Expressible) :
    Reads Anything (host ⟨outer, .tail fields field⟩) (notePieces slot.key value)
      (host ⟨outer, .tail fields (value.elim field (SchemaReader.annotate field slot))⟩) := by
  cases value with
  | none => exact .nothing _
  | some l =>
    have keyed : Reads Anything (host ⟨outer, .directive fields field⟩) [.word slot.key]
        (host ⟨outer, .valueOpening fields field slot⟩) := by
      refine hosts.reads (by cases slot <;> decide) fun last line => ?_
      cases slot <;> simp [SchemaReader.step, SchemaReader.directive, SchemaReader.Slot.key]
    exact (hosts.reads_atSign field).andThen
      (keyed.andThen (hosts.reads_value field slot (expressible l rfl)))

theorem reads_notes (hosts : Hosts host after) {f : Field} (mocks : ∀ l ∈ f.mock, l.Expressible)
    (samples : ∀ l ∈ f.sample, l.Expressible) :
    Reads Anything (host ⟨outer, .tail fields f.declared⟩) f.notes
      (host ⟨outer, .tail fields { f with comment := none }⟩) := by
  have all := ((hosts.reads_parameter f.declared f.isParameter).andThen
    (hosts.reads_note outer fields _ .mock mocks)).andThen
      (hosts.reads_note outer fields _ .sample samples)
  obtain ⟨name, type, optional, nested, mock, sample, comment, isParameter⟩ := f
  cases mock <;> cases sample <;> exact all

theorem reads_fields (hosts : Hosts host after) {reader : SchemaReader} {inner : List Field}
    (opened : ∀ last line, reader.step last ((Piece.mark .openBrace).token line) =
      .ok (.reading ⟨outer, .body []⟩))
    (each : ∀ f ∈ inner, ∀ fields, Reads EndsField (host ⟨outer, .body fields⟩) f.pieces
      (host ⟨outer, .body (fields ++ [f])⟩)) :
    Reads Anything (host reader) (braced (inner.flatMap Field.pieces))
      (host ⟨outer, .closed inner⟩) := by
  have inside : Reads EndsField (host ⟨outer, .body []⟩) (inner.flatMap Field.pieces)
      (host ⟨outer, .body inner⟩) :=
    .flatMap (fun fields => host ⟨outer, .body fields⟩) (fun f rest _ => f.pieces_endsField rest)
      fun fields f found => each f found fields
  exact .braced (hosts.steps opened) inside (hosts.steps fun _ _ => rfl)
    fun _ => by simp [EndsField, Next]

theorem reads_declaration (hosts : Hosts host after) {f : Field} (expressible : f.Expressible)
    (inner : ∀ block ∈ f.nested, ∀ g ∈ block.fields, ∀ outer fields,
      Reads EndsField (host ⟨outer, .body fields⟩) g.pieces (host ⟨outer, .body (fields ++ [g])⟩)) :
    Reads EndsBlock (host ⟨outer, .body fields⟩) f.declaration
      (host ⟨outer, .tail fields f.declared⟩) := by
  obtain ⟨identifier, isObject, optional, -, -, -, -⟩ := expressible
  refine (hosts.reads_name identifier).andThen ?_
  obtain ⟨name, type, isOptional, nested, mock, sample, comment, isParameter⟩ := f
  cases nested with
  | none =>
    have isPlain : type ≠ .object := by simpa using isObject
    exact (hosts.reads_keyword isPlain name).andThen (hosts.reads_mark { name, type } isOptional)
  | some block =>
    obtain ⟨inside, isOptional'⟩ := block
    have sameOption : isOptional' = isOptional := optional _ rfl
    have isObject' : type = .object := by simpa using isObject
    subst sameOption isObject'
    rw [shapePieces, blockPieces_eq]
    exact (hosts.reads_fields (fun _ _ => rfl) fun g found => inner _ rfl g found _).andThen
      (hosts.reads_closed inside name isOptional')

theorem read_comment (hosts : Hosts host after) (outer : List (List Field × String))
    (fields : List Field) (field : Field) (s : String) {spot : Spot}
    (level : spot.last = spot.line) (rest : List Piece) :
    (host ⟨outer, .tail fields field⟩).read spot (.comment s :: rest) =
      (host ⟨outer, .body (fields ++ [{ field with comment := some s }])⟩).read
        (spot.after [.comment s]) rest := by
  have reads : SchemaReader.step spot.last ⟨outer, .tail fields field⟩
      ((Piece.comment s).token spot.line) =
        .ok (.reading ⟨outer, .body (fields ++ [{ field with comment := some s }])⟩) := by
    simp [SchemaReader.step, SchemaReader.tail, level]
  rw [DocumentReader.read_cons, hosts.step, reads]
  rfl

theorem reads_tail (hosts : Hosts host after) (outer : List (List Field × String))
    (fields : List Field) (field : Field) :
    Reads EndsField (host ⟨outer, .tail fields field⟩) []
      (host ⟨outer, .body (fields ++ [field])⟩) := by
  refine hosts.settles fun p ends last line => ?_
  simp only [List.mem_cons, List.not_mem_nil, or_false, not_or] at ends
  simp [SchemaReader.step, SchemaReader.tail, ends]

end Hosts

namespace Field.Expressible

variable {host : SchemaReader → DocumentReader} {after : Schema → DocumentReader} {f : Field}

theorem reads (expressible : f.Expressible) (hosts : Hosts host after) :
    ∀ outer fields, Reads EndsField (host ⟨outer, .body fields⟩) f.pieces
      (host ⟨outer, .body (fields ++ [f])⟩) := by
  induction expressible with
  | @intro f identifier isObject optional mock sample comment inner ih =>
    intro outer fields
    have declared : Reads EndsBlock (host ⟨outer, .body fields⟩) f.declaration
        (host ⟨outer, .tail fields f.declared⟩) :=
      hosts.reads_declaration ⟨identifier, isObject, optional, mock, sample, comment, inner⟩ ih
    have front : Reads EndsBlock (host ⟨outer, .body fields⟩) (f.declaration ++ f.notes)
        (host ⟨outer, .tail fields { f with comment := none }⟩) :=
      declared.append (hosts.reads_notes mock sample).anyway f.notes_endsBlock
    rw [pieces_eq]
    cases noted : f.comment with
    | none =>
      have settled := hosts.reads_tail outer fields { f with comment := none }
      rw [f.with_comment noted] at settled front
      exact front.append settled fun _ ends => ends.endsBlock
    | some s =>
      -- A comment is read as the field's only on the line of the token before it.
      have isComment : commentPieces (some s) = [.comment s] := rfl
      have goesOn (rest : List Piece) : EndsBlock (.comment s :: rest) := by
        simp [EndsBlock, Next]
      refine ⟨List.forall_mem_append.2 ⟨front.scannable, ?_⟩, fun spot rest _ => ?_⟩
      · simpa [isComment, Piece.Scannable] using comment s noted
      · have level := f.level.last_eq (by simp [declaration]) spot
        have ended := hosts.read_comment outer fields { f with comment := none } s level rest
        rw [f.with_comment noted] at ended
        rw [isComment, List.append_assoc, List.singleton_append, front.read _ _ (goesOn rest),
          ended, Spot.after_append spot (f.declaration ++ f.notes)]

end Field.Expressible

theorem Schema.Expressible.reads {host : SchemaReader → DocumentReader}
    {after : Schema → DocumentReader} (hosts : Hosts host after) {schema : Schema}
    (expressible : schema.Expressible) :
    Reads EndsBlock (host .start) schema.pieces (after schema) := by
  have block : Reads Anything (host .start) (braced (schema.fields.flatMap Field.pieces))
      (host ⟨[], .closed schema.fields⟩) :=
    hosts.reads_fields (fun _ _ => rfl) fun f found => (expressible f found).reads hosts []
  rw [Schema.pieces, blockPieces_eq]
  exact block.andThen (hosts.reads_last schema.fields schema.optional)

end ApiCatalog
