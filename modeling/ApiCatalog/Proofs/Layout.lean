import ApiCatalog.Document.Reader
import ApiCatalog.Proofs.Results

/-!
What the lines of a text mean to its document: nothing, but for whether a comment is on the line of
the token before it.
-/

set_option autoImplicit false

namespace ApiCatalog

def Token.content (t : Token) : TokenKind × String := (t.kind, t.literal)

-- A comment that starts on the line of the token before it.
def trails (previous t : Token) : Bool := t.kind = .comment && t.line = previous.line

/-- The same tokens on lines of their own, with the same comments trailing. -/
structure LaidOutAlike (tokens tokens' : List Token) : Prop where
  content : tokens.map Token.content = tokens'.map Token.content
  trailing : tokens.zipWith trails tokens.tail = tokens'.zipWith trails tokens'.tail

def UnexpectedToken.kinds (e : UnexpectedToken) : TokenKind × TokenKind := (e.expected, e.got)

section Results

variable {E F A B : Type}

theorem mapError_map (result : Except E A) (f : A → B) (g : E → F) :
    (result.map f).mapError g = (result.mapError g).map f := by
  cases result <;> rfl

theorem mapError_bind (first : Except E A) (next : A → Except E B) (g : E → F) :
    (first >>= next).mapError g = first.mapError g >>= fun a => (next a).mapError g := by
  cases first <;> rfl

theorem eq_ok_of_mapError_eq {first second : Except E A} {g : E → F} {a : A}
    (same : first.mapError g = second.mapError g) (succeeds : first = .ok a) : second = .ok a := by
  subst succeeds
  cases second <;> simp_all [mapError_ok, mapError_error]

theorem mapError_eq_cases {first second : Except E A} {g : E → F}
    (same : first.mapError g = second.mapError g) :
    (∃ a, first = .ok a ∧ second = .ok a) ∨
      ∃ e e', first = .error e ∧ second = .error e' ∧ g e = g e' := by
  cases first <;> cases second <;> simp_all [mapError_ok, mapError_error]

end Results

section Steps

-- One token in two texts: `last` and `last'` are the lines of the tokens before it.
variable {kind : TokenKind} {literal : String} {line line' last last' : Nat}

theorem Token.require_alike {A : Type} (required : TokenKind) (next : A) :
    ((Token.mk kind literal line).require required next).mapError UnexpectedToken.kinds =
      ((Token.mk kind literal line').require required next).mapError UnexpectedToken.kinds := by
  unfold Token.require
  split <;> rfl

namespace SchemaReader

theorem value_alike (line line' : Nat) (fields : List Field) (field : Field) (slot : Slot) :
    (value fields field slot ⟨kind, literal, line⟩).mapError UnexpectedToken.kinds =
      (value fields field slot ⟨kind, literal, line'⟩).mapError UnexpectedToken.kinds := by
  have same : literal? ⟨kind, literal, line⟩ = literal? ⟨kind, literal, line'⟩ := rfl
  simp only [value, same]
  split
  · rfl
  · exact Token.require_alike _ _

variable (trailing : kind = .comment → (line = last ↔ line' = last'))

include trailing

-- Lines are looked at here only: a trailing comment describes the field before it.
theorem tail_alike (fields : List Field) (field : Field) :
    tail last fields field ⟨kind, literal, line⟩ =
      tail last' fields field ⟨kind, literal, line'⟩ := by
  have same : kind = .comment ∧ line = last ↔ kind = .comment ∧ line' = last' :=
    and_congr_right trailing
  simp only [tail, body, same]

theorem mark_alike (fields : List Field) (field : Field) :
    mark last fields field ⟨kind, literal, line⟩ =
      mark last' fields field ⟨kind, literal, line'⟩ := by
  simp only [mark, tail_alike trailing]

theorem type_alike (fields : List Field) (name : String) :
    type last fields name ⟨kind, literal, line⟩ =
      type last' fields name ⟨kind, literal, line'⟩ := by
  simp only [type, mark_alike trailing]

theorem close_alike (fields : List Field) (outer : List (List Field × String)) :
    close last fields ⟨kind, literal, line⟩ outer =
      close last' fields ⟨kind, literal, line'⟩ outer := by
  cases outer with
  | nil => rfl
  | cons enclosing outer => simp only [close, tail_alike trailing]

theorem step_alike (r : SchemaReader) :
    (r.step last ⟨kind, literal, line⟩).mapError UnexpectedToken.kinds =
      (r.step last' ⟨kind, literal, line'⟩).mapError UnexpectedToken.kinds := by
  obtain ⟨outer, place⟩ := r
  cases place with
  | opening | valueOpening | valueClosing => exact Token.require_alike _ _
  | body fields | directive fields field => rfl
  | closed fields => simp only [step, close_alike trailing]
  | type fields name => simp only [step, type_alike trailing]
  | mark fields field => simp only [step, mark_alike trailing]
  | tail fields field => simp only [step, tail_alike trailing]
  | value fields field slot => simp only [step, mapError_map, value_alike line line']

end SchemaReader

variable (trailing : kind = .comment → (line = last ↔ line' = last'))

include trailing

theorem MethodReader.step_alike (r : MethodReader) :
    (r.step last ⟨kind, literal, line⟩).mapError UnexpectedToken.kinds =
      (r.step last' ⟨kind, literal, line'⟩).mapError UnexpectedToken.kinds := by
  obtain ⟨method, place⟩ := r
  cases place with
  | opening => exact Token.require_alike _ _
  | entries | label => rfl
  | payload slot reader =>
    simp only [step, mapError_map, SchemaReader.step_alike trailing]
    rfl

theorem ApiReader.step_alike (r : ApiReader) :
    (r.step last ⟨kind, literal, line⟩).mapError UnexpectedToken.kinds =
      (r.step last' ⟨kind, literal, line'⟩).mapError UnexpectedToken.kinds := by
  obtain ⟨api, doc, place⟩ := r
  cases place with
  | opening => exact Token.require_alike _ _
  | path | entries => rfl
  | method reader => simp only [step, mapError_map, MethodReader.step_alike trailing]

theorem SocketEventReader.step_alike (r : SocketEventReader) :
    (r.step last ⟨kind, literal, line⟩).mapError UnexpectedToken.kinds =
      (r.step last' ⟨kind, literal, line'⟩).mapError UnexpectedToken.kinds := by
  obtain ⟨event, place⟩ := r
  cases place with
  | opening => exact Token.require_alike _ _
  | name | entries => rfl
  | payload slot reader =>
    simp only [step, mapError_map, SchemaReader.step_alike trailing]
    rfl

theorem SocketReader.step_alike (r : SocketReader) :
    (r.step last ⟨kind, literal, line⟩).mapError UnexpectedToken.kinds =
      (r.step last' ⟨kind, literal, line'⟩).mapError UnexpectedToken.kinds := by
  obtain ⟨socket, doc, place⟩ := r
  cases place with
  | opening => exact Token.require_alike _ _
  | url | entries | label => rfl
  | handshake slot reader =>
    simp only [step, mapError_map, SchemaReader.step_alike trailing]
    rfl
  | event reader => simp only [step, mapError_map, SocketEventReader.step_alike trailing]

theorem StreamReader.step_alike (r : StreamReader) :
    (r.step last ⟨kind, literal, line⟩).mapError UnexpectedToken.kinds =
      (r.step last' ⟨kind, literal, line'⟩).mapError UnexpectedToken.kinds := by
  obtain ⟨stream, doc, place⟩ := r
  cases place with
  | opening => exact Token.require_alike _ _
  | path | entries | label | eventName => rfl
  | request reader | event name reader =>
    simp only [step, mapError_map, SchemaReader.step_alike trailing]
    rfl

omit trailing in
theorem ConfigReader.step_alike (line line' : Nat) (r : ConfigReader) :
    (r.step ⟨kind, literal, line⟩).mapError UnexpectedToken.kinds =
      (r.step ⟨kind, literal, line'⟩).mapError UnexpectedToken.kinds := by
  have valued (place : DefaultPlace) :
      (defaultValue place ⟨kind, literal, line⟩).mapError UnexpectedToken.kinds =
        (defaultValue place ⟨kind, literal, line'⟩).mapError UnexpectedToken.kinds := by
    cases place with
    | opening | closing => exact Token.require_alike _ _
    | value => rfl
  obtain ⟨config, place⟩ := r
  cases place with
  | opening => exact Token.require_alike _ _
  | variableValue v place | headerValue h place => simp only [step, mapError_map, valued]
  | _ => rfl

theorem DocumentReader.step_alike (r : DocumentReader) :
    (r.step last ⟨kind, literal, line⟩).mapError UnexpectedToken.kinds =
      (r.step last' ⟨kind, literal, line'⟩).mapError UnexpectedToken.kinds := by
  obtain ⟨document, enclosing, nextId, doc, place⟩ := r
  cases place with
  | categoryOpening name => exact Token.require_alike _ _
  | config reader => simp only [step, mapError_map, ConfigReader.step_alike line line']
  | api reader => simp only [step, mapError_map, ApiReader.step_alike trailing]
  | socket kind reader => simp only [step, mapError_map, SocketReader.step_alike trailing]
  | stream reader => simp only [step, mapError_map, StreamReader.step_alike trailing]
  | _ => rfl

end Steps

theorem DocumentReader.run_alike (previous previous' : Token) {tokens tokens' : List Token}
    (alike : tokens.map Token.content = tokens'.map Token.content)
    (trailing : (previous :: tokens).zipWith trails tokens =
      (previous' :: tokens').zipWith trails tokens') (r : DocumentReader) :
    (r.run previous.line tokens).mapError UnexpectedToken.kinds =
      (r.run previous'.line tokens').mapError UnexpectedToken.kinds := by
  -- Each token is the previous one of the next, so both lists and both tokens before them move on.
  induction tokens generalizing tokens' previous previous' r with
  | nil =>
    obtain rfl : tokens' = [] := by simpa using alike.symm
    rfl
  | cons t rest ih =>
    cases tokens' with
    | nil => cases alike
    | cons t' rest' =>
      obtain ⟨kind, literal, line⟩ := t
      obtain ⟨kind', literal', line'⟩ := t'
      simp only [List.map_cons, List.cons.injEq, Token.content, Prod.mk.injEq] at alike
      obtain ⟨⟨rfl, rfl⟩, others⟩ := alike
      simp only [List.zipWith_cons_cons, List.cons.injEq] at trailing
      obtain ⟨first, later⟩ := trailing
      have sameLine : kind = .comment → (line = previous.line ↔ line' = previous'.line) := by
        intro isComment
        simpa [trails, isComment] using first
      simp only [run, mapError_bind, step_alike sameLine r, ih _ _ others later]

theorem DocumentReader.finish_alike (line line' : Nat) (r : DocumentReader) :
    (r.finish line).mapError UnexpectedToken.kinds =
      (r.finish line').mapError UnexpectedToken.kinds := by
  unfold finish
  split <;> rfl

theorem Document.ofTokens_alike {s t : TokenStream} (alike : LaidOutAlike s.tokens t.tokens) :
    (Document.ofTokens s).mapError UnexpectedToken.kinds =
      (Document.ofTokens t).mapError UnexpectedToken.kinds := by
  obtain ⟨tokens, endLine⟩ := s
  obtain ⟨tokens', endLine'⟩ := t
  obtain ⟨content, trailing⟩ := alike
  have read : (DocumentReader.start.run 1 tokens).mapError UnexpectedToken.kinds =
      (DocumentReader.start.run 1 tokens').mapError UnexpectedToken.kinds := by
    cases tokens with
    | nil =>
      obtain rfl : tokens' = [] := by simpa using content.symm
      rfl
    | cons t rest =>
      cases tokens' with
      | nil => cases content
      | cons t' rest' =>
        simp only [List.map_cons, List.cons.injEq] at content
        obtain ⟨same, others⟩ := content
        -- No token is before the first one, and at the start of a document none is asked for.
        have entered : DocumentReader.start.entry t = DocumentReader.start.entry t' := by
          obtain ⟨kind, literal, line⟩ := t
          obtain ⟨kind', literal', line'⟩ := t'
          cases same
          rfl
        have further :=
          DocumentReader.run_alike t t' others trailing (DocumentReader.start.entry t')
        calc ((DocumentReader.start.entry t).run t.line rest).mapError UnexpectedToken.kinds
          _ = ((DocumentReader.start.entry t').run t.line rest).mapError UnexpectedToken.kinds := by
            rw [entered]
          _ = _ := further
  simp only [Document.ofTokens, mapError_bind, read, DocumentReader.finish_alike endLine endLine']

/-- A text can be laid out anew, with its tokens in the same order and the same comments
trailing. -/
theorem Document.ofText_alike {text text' : String}
    (alike : LaidOutAlike (TokenStream.ofText text).tokens (TokenStream.ofText text').tokens) :
    (∃ d, Document.ofText text = .ok d ∧ Document.ofText text' = .ok d) ∨
      ∃ e e', Document.ofText text = .error e ∧ Document.ofText text' = .error e' ∧
        e.expected = e'.expected ∧ e.got = e'.got := by
  rcases mapError_eq_cases (Document.ofTokens_alike alike) with
    same | ⟨e, e', failed, failed', same⟩
  · exact .inl same
  · exact .inr ⟨e, e', failed, failed', Prod.mk.inj same⟩

def flatText : String :=
  "api /a \x7b get \x7b request \x7b id Number // key\n x \x7d // end\n \x7d \x7d"

def tallText : String :=
  "api\n/a\n\x7b\nget\x7brequest\x7b\n\n  id\n  Number // key\n  x\n\x7d // end\n \x7d\n\x7d\n"

theorem Document.ofText_alike_tall :
    LaidOutAlike (TokenStream.ofText flatText).tokens (TokenStream.ofText tallText).tokens ∧
      ∃ d, Document.ofText flatText = .ok d ∧ Document.ofText tallText = .ok d := by
  have alike :
      LaidOutAlike (TokenStream.ofText flatText).tokens (TokenStream.ofText tallText).tokens :=
    ⟨by decide +kernel, by decide +kernel⟩
  refine ⟨alike, ?_⟩
  rcases Document.ofText_alike alike with read | ⟨e, e', failed, -⟩
  · exact read
  · obtain ⟨d, parsed⟩ := exists_of_isOk (show (Document.ofText flatText).isOk by decide +kernel)
    cases parsed.symm.trans failed

end ApiCatalog
