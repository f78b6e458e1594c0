import ApiCatalog.Proofs.BlockNesting

/-!
Where reading fails: at a token that stands where a brace or a parenthesis is required, and for no
other reason than the tokens up to it.
-/

set_option autoImplicit false

namespace ApiCatalog

def TokenStream.terminated (s : TokenStream) : List Token := s.tokens ++ [s.terminator]

def TokenKind.delimiters : List TokenKind := [.openBrace, .closeBrace, .openParen, .closeParen]

structure UnexpectedToken.Names (e : UnexpectedToken) (t : Token) : Prop where
  got : e.got = t.kind
  line : e.line = t.line
  expected : e.expected ∈ TokenKind.delimiters
  differs : e.got ≠ e.expected

theorem Token.require_error {A : Type} {t : Token} {kind : TokenKind} {next : A}
    {e : UnexpectedToken} (failed : t.require kind next = .error e)
    (required : kind ∈ TokenKind.delimiters) : e.Names t := by
  unfold Token.require at failed
  split at failed
  · cases failed
  · rename_i other
    cases failed
    exact ⟨rfl, rfl, required, other⟩

section Steps

variable {lastLine : Nat} {t : Token} {e : UnexpectedToken}

theorem SchemaReader.step_error {r : SchemaReader} (failed : r.step lastLine t = .error e) :
    e.Names t := by
  obtain ⟨outer, place⟩ := r
  cases place with
  | opening | valueOpening | valueClosing => exact Token.require_error failed (by decide)
  | value fields field slot =>
    have refused := map_eq_error.1 failed
    unfold value at refused
    split at refused
    · cases refused
    · exact Token.require_error refused (by decide)
  | type fields name =>
    simp only [step] at failed
    split at failed <;> cases failed
  | _ => cases failed

theorem MethodReader.step_error {r : MethodReader} (failed : r.step lastLine t = .error e) :
    e.Names t := by
  obtain ⟨method, place⟩ := r
  cases place with
  | opening => exact Token.require_error failed (by decide)
  | entries => cases failed
  | label =>
    simp only [step] at failed
    split at failed <;> cases failed
  | payload slot reader => exact SchemaReader.step_error (map_eq_error.1 failed)

theorem ApiReader.step_error {r : ApiReader} (failed : r.step lastLine t = .error e) :
    e.Names t := by
  obtain ⟨api, doc, place⟩ := r
  cases place with
  | opening => exact Token.require_error failed (by decide)
  | path | entries => cases failed
  | method reader => exact MethodReader.step_error (map_eq_error.1 failed)

theorem SocketEventReader.step_error {r : SocketEventReader}
    (failed : r.step lastLine t = .error e) : e.Names t := by
  obtain ⟨event, place⟩ := r
  cases place with
  | opening => exact Token.require_error failed (by decide)
  | name | entries => cases failed
  | payload slot reader => exact SchemaReader.step_error (map_eq_error.1 failed)

theorem SocketReader.step_error {r : SocketReader} (failed : r.step lastLine t = .error e) :
    e.Names t := by
  obtain ⟨socket, doc, place⟩ := r
  cases place with
  | opening => exact Token.require_error failed (by decide)
  | url | entries => cases failed
  | label =>
    simp only [step] at failed
    split at failed <;> cases failed
  | handshake slot reader => exact SchemaReader.step_error (map_eq_error.1 failed)
  | event reader => exact SocketEventReader.step_error (map_eq_error.1 failed)

theorem StreamReader.step_error {r : StreamReader} (failed : r.step lastLine t = .error e) :
    e.Names t := by
  obtain ⟨stream, doc, place⟩ := r
  cases place with
  | opening => exact Token.require_error failed (by decide)
  | path | entries | eventName => cases failed
  | label =>
    simp only [step] at failed
    split at failed <;> cases failed
  | request reader | event name reader => exact SchemaReader.step_error (map_eq_error.1 failed)

theorem ConfigReader.step_error {r : ConfigReader} (failed : r.step t = .error e) : e.Names t := by
  have valued (place : DefaultPlace) (refused : defaultValue place t = .error e) : e.Names t := by
    cases place with
    | opening | closing => exact Token.require_error refused (by decide)
    | value => cases refused
  obtain ⟨config, place⟩ := r
  cases place with
  | opening => exact Token.require_error failed (by decide)
  | variableValue v place | headerValue h place => exact valued place (map_eq_error.1 failed)
  | _ => cases failed

theorem DocumentReader.step_error {r : DocumentReader} (failed : r.step lastLine t = .error e) :
    e.Names t := by
  obtain ⟨document, enclosing, nextId, doc, place⟩ := r
  cases place with
  | categoryOpening name => exact Token.require_error failed (by decide)
  | categoryLabel | categoryDescription =>
    simp only [step] at failed
    split at failed <;> cases failed
  | config reader => exact ConfigReader.step_error (map_eq_error.1 failed)
  | api reader => exact ApiReader.step_error (map_eq_error.1 failed)
  | socket kind reader => exact SocketReader.step_error (map_eq_error.1 failed)
  | stream reader => exact StreamReader.step_error (map_eq_error.1 failed)
  | _ => cases failed

end Steps

section Ends

theorem SchemaReader.expectedAtEnd_delimiter (r : SchemaReader) :
    r.expectedAtEnd ∈ TokenKind.delimiters := by
  unfold expectedAtEnd
  split <;> decide

theorem MethodReader.expectedAtEnd_delimiter (r : MethodReader) :
    r.expectedAtEnd ∈ TokenKind.delimiters := by
  obtain ⟨method, place⟩ := r
  cases place with
  | payload slot reader => exact reader.expectedAtEnd_delimiter
  | _ => simp [expectedAtEnd, TokenKind.delimiters]

theorem ApiReader.expectedAtEnd_delimiter (r : ApiReader) :
    r.expectedAtEnd ∈ TokenKind.delimiters := by
  obtain ⟨api, doc, place⟩ := r
  cases place with
  | method reader => exact reader.expectedAtEnd_delimiter
  | _ => simp [expectedAtEnd, TokenKind.delimiters]

theorem SocketEventReader.expectedAtEnd_delimiter (r : SocketEventReader) :
    r.expectedAtEnd ∈ TokenKind.delimiters := by
  obtain ⟨event, place⟩ := r
  cases place with
  | payload slot reader => exact reader.expectedAtEnd_delimiter
  | _ => simp [expectedAtEnd, TokenKind.delimiters]

theorem SocketReader.expectedAtEnd_delimiter (r : SocketReader) :
    r.expectedAtEnd ∈ TokenKind.delimiters := by
  obtain ⟨socket, doc, place⟩ := r
  cases place with
  | handshake slot reader => exact reader.expectedAtEnd_delimiter
  | event reader => exact reader.expectedAtEnd_delimiter
  | _ => simp [expectedAtEnd, TokenKind.delimiters]

theorem StreamReader.expectedAtEnd_delimiter (r : StreamReader) :
    r.expectedAtEnd ∈ TokenKind.delimiters := by
  obtain ⟨stream, doc, place⟩ := r
  cases place with
  | request reader | event name reader => exact reader.expectedAtEnd_delimiter
  | _ => simp [expectedAtEnd, TokenKind.delimiters]

theorem ConfigReader.expectedAtEnd_delimiter (r : ConfigReader) :
    r.expectedAtEnd ∈ TokenKind.delimiters := by
  have valued (place : DefaultPlace) : place.expectedAtEnd ∈ TokenKind.delimiters := by
    cases place <;> simp [DefaultPlace.expectedAtEnd, TokenKind.delimiters]
  obtain ⟨config, place⟩ := r
  cases place with
  | variableValue v place | headerValue h place => exact valued place
  | _ => simp [expectedAtEnd, TokenKind.delimiters]

theorem DocumentReader.expectedAtEnd?_delimiter {r : DocumentReader} {kind : TokenKind}
    (missing : r.expectedAtEnd? = some kind) : kind ∈ TokenKind.delimiters := by
  obtain ⟨document, enclosing, nextId, doc, place⟩ := r
  cases place with
  | entries =>
    simp only [expectedAtEnd?] at missing
    split at missing <;> cases missing
    decide
  | importReference => cases missing
  | config reader | api reader | socket kind reader | stream reader =>
    cases missing
    exact reader.expectedAtEnd_delimiter
  | _ =>
    cases missing
    decide

theorem DocumentReader.finish_error {r : DocumentReader} {endLine : Nat} {e : UnexpectedToken}
    (failed : r.finish endLine = .error e) : e.Names ⟨.endOfText, "", endLine⟩ := by
  unfold finish at failed
  split at failed
  · rename_i kind missing
    cases failed
    have required := expectedAtEnd?_delimiter missing
    refine ⟨rfl, rfl, required, fun same => ?_⟩
    obtain rfl : TokenKind.endOfText = kind := same
    exact absurd required (by decide)
  · split at failed <;> cases failed

end Ends

namespace DocumentReader

variable {line : Nat} {r : DocumentReader} {e : UnexpectedToken}

theorem run_error {tokens : List Token} (failed : r.run line tokens = .error e) :
    ∃ before t after, tokens = before ++ t :: after ∧ e.Names t ∧
      r.run line (before ++ [t]) = .error e := by
  induction tokens generalizing line r with
  | nil => cases failed
  | cons t rest ih =>
    rcases bind_eq_error.1 failed with stopped | ⟨s, stepped, later⟩
    · exact ⟨[], t, rest, rfl, step_error stopped, bind_eq_error.2 (.inl stopped)⟩
    · obtain ⟨before, u, after, rfl, named, read⟩ := ih later
      exact ⟨t :: before, u, after, rfl, named, bind_eq_error.2 (.inr ⟨s, stepped, read⟩)⟩

theorem run_error_append {xs : List Token} (failed : r.run line xs = .error e) (ys : List Token) :
    r.run line (xs ++ ys) = .error e := by
  induction xs generalizing line r with
  | nil => cases failed
  | cons t rest ih =>
    rcases bind_eq_error.1 failed with stopped | ⟨s, stepped, later⟩
    · exact bind_eq_error.2 (.inl stopped)
    · exact bind_eq_error.2 (.inr ⟨s, stepped, ih later⟩)

end DocumentReader

/-- The end of a text is found only once, past all tokens. -/
def TokenStream.EndsOnce (s : TokenStream) : Prop := ∀ t ∈ s.tokens, t.kind ≠ .endOfText

section Terminated

variable {s : TokenStream} {before : List Token} {t : Token}

theorem TokenStream.EndsOnce.eq_of_end (once : s.EndsOnce) (ended : t.kind = .endOfText)
    (starts : before ++ [t] <+: s.terminated) : s = ⟨before, t.line⟩ := by
  rcases List.prefix_concat_iff.1 starts with whole | within
  · obtain ⟨rfl, same⟩ := List.append_inj' whole rfl
    obtain rfl := List.singleton_inj.1 same
    rfl
  · exact absurd ended (once t (within.subset (by simp)))

theorem TokenStream.prefix_tokens (goesOn : t.kind ≠ .endOfText)
    (starts : before ++ [t] <+: s.terminated) : before ++ [t] <+: s.tokens := by
  rcases List.prefix_concat_iff.1 starts with whole | within
  · obtain ⟨-, same⟩ := List.append_inj' whole rfl
    obtain rfl := List.singleton_inj.1 same
    exact absurd rfl goesOn
  · exact within

end Terminated

theorem Document.ofTokens_error {s : TokenStream} {e : UnexpectedToken} (once : s.EndsOnce)
    (failed : Document.ofTokens s = .error e) :
    ∃ before t after, s.terminated = before ++ t :: after ∧ e.Names t ∧
      ∀ other : TokenStream, other.EndsOnce → before ++ [t] <+: other.terminated →
        Document.ofTokens other = .error e := by
  rcases bind_eq_error.1 failed with stopped | ⟨r, read, unfinished⟩
  -- A token is refused. It is not the end, so that it is a token of the other stream as well.
  · obtain ⟨before, t, after, split, named, upTo⟩ := DocumentReader.run_error stopped
    refine ⟨before, t, after ++ [s.terminator], by simp [TokenStream.terminated, split], named, ?_⟩
    intro other _ starts
    have goesOn : t.kind ≠ .endOfText := once t (by simp [split])
    obtain ⟨rest, same⟩ := TokenStream.prefix_tokens goesOn starts
    apply bind_eq_error.2
    left
    rw [← same]
    exact DocumentReader.run_error_append upTo rest
  -- All tokens are read and something is missing. A stream that starts like this one with its end
  -- is the same stream.
  · refine ⟨s.tokens, s.terminator, [], rfl, DocumentReader.finish_error unfinished, ?_⟩
    intro other once' starts
    rw [once'.eq_of_end rfl starts]
    exact failed

theorem TokenStream.ofText_endsOnce (text : String) : (TokenStream.ofText text).EndsOnce := by
  intro t found
  obtain ⟨spelling, rest, spells⟩ := spells_of_mem found
  exact spells.kind_ne_endOfText

/-- An error is about one token of the text: the first that cannot stand where it stands, whatever
comes after it. -/
theorem Document.ofText_error_located {text : String} {e : UnexpectedToken}
    (failed : Document.ofText text = .error e) :
    e.got ≠ e.expected ∧ e.expected ∈ TokenKind.delimiters ∧
      ∃ i t, (TokenStream.ofText text).terminated[i]? = some t ∧ e.got = t.kind ∧ e.line = t.line ∧
        ∀ other, (TokenStream.ofText other).terminated.take (i + 1) =
            (TokenStream.ofText text).terminated.take (i + 1) →
          Document.ofText other = .error e := by
  obtain ⟨before, t, after, split, named, stable⟩ :=
    Document.ofTokens_error (TokenStream.ofText_endsOnce text) failed
  refine ⟨named.differs, named.expected, before.length, t, by simp [split], named.got, named.line,
    ?_⟩
  intro other same
  apply stable _ (TokenStream.ofText_endsOnce other)
  have upTo : (TokenStream.ofText other).terminated.take (before.length + 1) = before ++ [t] := by
    rw [same, split, List.append_cons]
    exact List.take_left' (by simp)
  rw [← upTo]
  exact List.take_prefix _ _

def unbracedText : String := "config \x7b \x7d\n\napi /x \x7b\n get (\n\x7d"

theorem Document.ofText_error_located_unbraced :
    ∃ e, Document.ofText unbracedText = .error e ∧ e.line = 4 ∧
      ∃ i t, (TokenStream.ofText unbracedText).terminated[i]? = some t ∧ e.got = t.kind ∧
        ∀ other, (TokenStream.ofText other).terminated.take (i + 1) =
            (TokenStream.ofText unbracedText).terminated.take (i + 1) →
          Document.ofText other = .error e := by
  -- The fault is the parenthesis on line 4, not the brace that is missing at the end.
  have stops : (Document.ofText unbracedText).map (fun _ => ()) =
      .error ⟨.openBrace, .openParen, 4⟩ := by decide +kernel
  have failed := map_eq_error.1 stops
  obtain ⟨-, -, i, t, found, got, -, stable⟩ := Document.ofText_error_located failed
  exact ⟨_, failed, rfl, i, t, found, got, stable⟩

end ApiCatalog
