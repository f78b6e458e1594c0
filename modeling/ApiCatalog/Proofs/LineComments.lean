import ApiCatalog.Proofs.CommentPlaces
import ApiCatalog.Proofs.Layout

/-!
Line comments between the entries of a document. Outside of schemas a comment is passed over, but
for those whose text is a word that the block around them looks for: documents and categories tell
comments from words, the other blocks do not.
-/

set_option autoImplicit false

namespace ApiCatalog

-- The reader passes over a comment: what comes next is then read as it would have been.
def Skips {Open R : Type} (step : Nat → Open → Token → Except UnexpectedToken R) (goOn : Open → R)
    (r : Open) (word : String) (next : Token) : Prop :=
  ∃ s, (∀ last line, step last r ⟨.comment, word, line⟩ = .ok (goOn s)) ∧
    ∀ last last', step last s next = step last' r next

-- The reader takes a comment for the word it consists of.
def Confuses {Open R : Type} (step : Nat → Open → Token → Except UnexpectedToken R) (r : Open)
    (word : String) : Prop :=
  ∀ last line, step last r ⟨.comment, word, line⟩ = step last r ⟨.identifier, word, line⟩

namespace SchemaReader

def complete (r : SchemaReader) (next : Token) : Bool :=
  match r.outer, r.place with
  | [], .closed _ => next.kind != .question
  | _, _ => false

theorem passed_of_complete {r : SchemaReader} {next : Token} (complete : r.complete next) :
    next.kind ≠ .question ∧
      ∃ schema, ∀ last (t : Token), t.kind ≠ .question → r.step last t = .ok (.passed schema) := by
  unfold SchemaReader.complete at complete
  obtain ⟨outer, place⟩ := r
  split at complete
  · rename_i fields isOuter isPlace
    simp only at isOuter isPlace
    subst isOuter isPlace
    refine ⟨by simpa using complete, ⟨fields, false⟩, fun last t other => ?_⟩
    simp [step, close, other]
  · cases complete

end SchemaReader

theorem PayloadSlot.ofKey?_eq_none {word : String} (noRequest : word ≠ "request")
    (noResponse : word ≠ "response") : PayloadSlot.ofKey? word = none := by
  unfold ofKey?
  split <;> simp_all

namespace MethodReader

def keys : List String := ["name", "request", "response"]

def betweenEntries (r : MethodReader) (next : Token) : Bool :=
  match r.place with
  | .opening => false
  | .entries => true
  | .label => next.kind != .text
  | .payload _ reader => reader.complete next

variable {r : MethodReader} {next : Token} {word : String}

theorem entry_comment (unheeded : word ∉ keys) (method : Method) (line : Nat) :
    entry method ⟨.comment, word, line⟩ = .reading ⟨method, .entries⟩ := by
  simp only [keys, List.mem_cons, List.not_mem_nil, or_false, not_or] at unheeded
  obtain ⟨noName, noRequest, noResponse⟩ := unheeded
  simp [entry, PayloadSlot.ofKey?_eq_none noRequest noResponse, noName]

theorem skips (between : r.betweenEntries next) (unheeded : word ∉ keys) :
    Skips MethodReader.step .reading r word next := by
  obtain ⟨method, place⟩ := r
  cases place with
  | opening => cases between
  | entries =>
    refine ⟨⟨method, .entries⟩, fun last line => ?_, fun last last' => rfl⟩
    exact congrArg Except.ok (entry_comment unheeded method line)
  | label =>
    have noText : next.kind ≠ .text := by simpa [betweenEntries] using between
    refine ⟨⟨method, .entries⟩, fun last line => ?_, fun last last' => ?_⟩
    · exact congrArg Except.ok (entry_comment unheeded method line)
    · simp [step, noText]
  | payload slot reader =>
    obtain ⟨noQuestion, schema, passed⟩ := SchemaReader.passed_of_complete between
    refine ⟨⟨setPayload method slot schema, .entries⟩, fun last line => ?_, fun last last' => ?_⟩
    · simp [step, passed, Except.map, entry_comment unheeded]
    · simp [step, passed, noQuestion, Except.map]

theorem confuses (between : r.betweenEntries next) (word : String) :
    Confuses MethodReader.step r word := by
  intro last line
  obtain ⟨method, place⟩ := r
  cases place with
  | opening => cases between
  | entries | label => rfl
  | payload slot reader =>
    obtain ⟨-, schema, passed⟩ := SchemaReader.passed_of_complete between
    simp only [step, passed last ⟨.comment, word, line⟩ (by simp),
      passed last ⟨.identifier, word, line⟩ (by simp)]
    rfl

end MethodReader

namespace ApiReader

def betweenEntries (r : ApiReader) (next : Token) : Bool :=
  match r.place with
  | .path | .opening => false
  | .entries => true
  | .method reader => reader.betweenEntries next

def heeds (r : ApiReader) (word : String) : Bool :=
  match r.place with
  | .method _ => MethodReader.keys.contains word
  | _ => verbs.contains (Text.lower word)

variable {r : ApiReader} {next : Token} {word : String}

theorem skips (between : r.betweenEntries next) (unheeded : r.heeds word = false) :
    Skips ApiReader.step .reading r word next := by
  obtain ⟨api, doc, place⟩ := r
  cases place with
  | path | opening => cases between
  | entries =>
    refine ⟨⟨api, doc, .entries⟩, fun last line => ?_, fun last last' => rfl⟩
    have noVerb : Text.lower word ∉ verbs := by simpa [heeds] using unheeded
    simp [step, entry, noVerb]
  | method reader =>
    have noKey : word ∉ MethodReader.keys := by simpa [heeds] using unheeded
    obtain ⟨s, passed, same⟩ := MethodReader.skips between noKey
    refine ⟨⟨api, doc, .method s⟩, fun last line => ?_, fun last last' => ?_⟩
    · simp [step, passed, Except.map]
    · simp only [step, same last last']

theorem confuses (between : r.betweenEntries next) (word : String) :
    Confuses ApiReader.step r word := by
  intro last line
  obtain ⟨api, doc, place⟩ := r
  cases place with
  | path | opening => cases between
  | entries => rfl
  | method reader => simp only [step, MethodReader.confuses between word last line]

end ApiReader

namespace SocketEventReader

def keys : List String := ["request", "response"]

def betweenEntries (r : SocketEventReader) (next : Token) : Bool :=
  match r.place with
  | .name | .opening => false
  | .entries => true
  | .payload _ reader => reader.complete next

variable {r : SocketEventReader} {next : Token} {word : String}

theorem entry_comment (unheeded : word ∉ keys) (event : SocketEvent) (line : Nat) :
    entry event ⟨.comment, word, line⟩ = .reading ⟨event, .entries⟩ := by
  simp only [keys, List.mem_cons, List.not_mem_nil, or_false, not_or] at unheeded
  simp [entry, PayloadSlot.ofKey?_eq_none unheeded.1 unheeded.2]

theorem skips (between : r.betweenEntries next) (unheeded : word ∉ keys) :
    Skips SocketEventReader.step .reading r word next := by
  obtain ⟨event, place⟩ := r
  cases place with
  | name | opening => cases between
  | entries =>
    refine ⟨⟨event, .entries⟩, fun last line => ?_, fun last last' => rfl⟩
    exact congrArg Except.ok (entry_comment unheeded event line)
  | payload slot reader =>
    obtain ⟨noQuestion, schema, passed⟩ := SchemaReader.passed_of_complete between
    refine ⟨⟨setPayload event slot schema, .entries⟩, fun last line => ?_, fun last last' => ?_⟩
    · simp [step, passed, Except.map, entry_comment unheeded]
    · simp [step, passed, noQuestion, Except.map]

theorem confuses (between : r.betweenEntries next) (word : String) :
    Confuses SocketEventReader.step r word := by
  intro last line
  obtain ⟨event, place⟩ := r
  cases place with
  | name | opening => cases between
  | entries => rfl
  | payload slot reader =>
    obtain ⟨-, schema, passed⟩ := SchemaReader.passed_of_complete between
    simp only [step, passed last ⟨.comment, word, line⟩ (by simp),
      passed last ⟨.identifier, word, line⟩ (by simp)]
    rfl

end SocketEventReader

namespace SocketReader

def keys : List String := ["name", "auth", "headers", "event"]

def betweenEntries (r : SocketReader) (next : Token) : Bool :=
  match r.place with
  | .url | .opening => false
  | .entries => true
  | .label => next.kind != .text
  | .handshake _ reader => reader.complete next
  | .event reader => reader.betweenEntries next

def heeds (r : SocketReader) (word : String) : Bool :=
  match r.place with
  | .event _ => SocketEventReader.keys.contains word
  | _ => keys.contains word

variable {r : SocketReader} {next : Token} {word : String}

theorem entry_comment (unheeded : word ∉ keys) (socket : Socket) (doc : Option String)
    (line : Nat) : entry socket doc ⟨.comment, word, line⟩ = .reading ⟨socket, doc, .entries⟩ := by
  simp only [keys, List.mem_cons, List.not_mem_nil, or_false, not_or] at unheeded
  simp only [entry, placeOfKey]
  split <;> simp_all

theorem skips (between : r.betweenEntries next) (unheeded : r.heeds word = false) :
    Skips SocketReader.step .reading r word next := by
  obtain ⟨socket, doc, place⟩ := r
  cases place with
  | url | opening => cases between
  | entries =>
    have noKey : word ∉ keys := by simpa [heeds] using unheeded
    refine ⟨⟨socket, doc, .entries⟩, fun last line => ?_, fun last last' => rfl⟩
    exact congrArg Except.ok (entry_comment noKey socket doc line)
  | label =>
    have noKey : word ∉ keys := by simpa [heeds] using unheeded
    have noText : next.kind ≠ .text := by simpa [betweenEntries] using between
    refine ⟨⟨socket, doc, .entries⟩, fun last line => ?_, fun last last' => ?_⟩
    · exact congrArg Except.ok (entry_comment noKey socket doc line)
    · simp [step, noText]
  | handshake slot reader =>
    have noKey : word ∉ keys := by simpa [heeds] using unheeded
    obtain ⟨noQuestion, schema, passed⟩ := SchemaReader.passed_of_complete between
    refine ⟨⟨setHandshake socket slot schema, doc, .entries⟩, fun last line => ?_,
      fun last last' => ?_⟩
    · simp [step, passed, Except.map, entry_comment noKey]
    · simp [step, passed, noQuestion, Except.map]
  | event reader =>
    have noKey : word ∉ SocketEventReader.keys := by simpa [heeds] using unheeded
    obtain ⟨s, passed, same⟩ := SocketEventReader.skips between noKey
    refine ⟨⟨socket, doc, .event s⟩, fun last line => ?_, fun last last' => ?_⟩
    · simp [step, passed, Except.map]
    · simp only [step, same last last']

theorem confuses (between : r.betweenEntries next) (word : String) :
    Confuses SocketReader.step r word := by
  intro last line
  obtain ⟨socket, doc, place⟩ := r
  cases place with
  | url | opening => cases between
  | entries | label => rfl
  | handshake slot reader =>
    obtain ⟨-, schema, passed⟩ := SchemaReader.passed_of_complete between
    simp only [step, passed last ⟨.comment, word, line⟩ (by simp),
      passed last ⟨.identifier, word, line⟩ (by simp)]
    rfl
  | event reader => simp only [step, SocketEventReader.confuses between word last line]

end SocketReader

namespace StreamReader

def keys : List String := ["name", "request", "event"]

def betweenEntries (r : StreamReader) (next : Token) : Bool :=
  match r.place with
  | .path | .opening | .eventName => false
  | .entries => true
  | .label => next.kind != .text
  | .request reader => reader.complete next
  | .event _ reader => reader.complete next

variable {r : StreamReader} {next : Token} {word : String}

theorem entry_comment (unheeded : word ∉ keys) (stream : EventStream) (doc : Option String)
    (line : Nat) : entry stream doc ⟨.comment, word, line⟩ = .reading ⟨stream, doc, .entries⟩ := by
  simp only [keys, List.mem_cons, List.not_mem_nil, or_false, not_or] at unheeded
  simp only [entry, placeOfKey]
  split <;> simp_all

theorem skips (between : r.betweenEntries next) (unheeded : word ∉ keys) :
    Skips StreamReader.step .reading r word next := by
  obtain ⟨stream, doc, place⟩ := r
  cases place with
  | path | opening | eventName => cases between
  | entries =>
    refine ⟨⟨stream, doc, .entries⟩, fun last line => ?_, fun last last' => rfl⟩
    exact congrArg Except.ok (entry_comment unheeded stream doc line)
  | label =>
    have noText : next.kind ≠ .text := by simpa [betweenEntries] using between
    refine ⟨⟨stream, doc, .entries⟩, fun last line => ?_, fun last last' => ?_⟩
    · exact congrArg Except.ok (entry_comment unheeded stream doc line)
    · simp [step, noText]
  | request reader =>
    obtain ⟨noQuestion, schema, passed⟩ := SchemaReader.passed_of_complete between
    refine ⟨⟨{ stream with request := some schema }, doc, .entries⟩, fun last line => ?_,
      fun last last' => ?_⟩
    · simp [step, passed, Except.map, entry_comment unheeded]
    · simp [step, passed, noQuestion, Except.map]
  | event name reader =>
    obtain ⟨noQuestion, schema, passed⟩ := SchemaReader.passed_of_complete between
    refine ⟨⟨addEvent stream name schema, none, .entries⟩, fun last line => ?_,
      fun last last' => ?_⟩
    · simp [step, passed, Except.map, entry_comment unheeded]
    · simp [step, passed, noQuestion, Except.map]

theorem confuses (between : r.betweenEntries next) (word : String) :
    Confuses StreamReader.step r word := by
  intro last line
  obtain ⟨stream, doc, place⟩ := r
  cases place with
  | path | opening | eventName => cases between
  | entries | label => rfl
  | request reader | event name reader =>
    obtain ⟨-, schema, passed⟩ := SchemaReader.passed_of_complete between
    simp only [step, passed last ⟨.comment, word, line⟩ (by simp),
      passed last ⟨.identifier, word, line⟩ (by simp)]
    rfl

end StreamReader

namespace ConfigReader

def keys : List String := ["baseUrl", "cors", "mock", "variable", "header"]

def betweenEntries (r : ConfigReader) (next : Token) : Bool :=
  match r.place with
  | .entries => true
  | .variableType _ =>
    next.literal != "default" &&
      (["variable", "header"].contains next.literal || next.kind = .closeBrace)
  | .variableDefault _ | .headerDefault _ => next.literal != "default"
  | .headerMark _ => next.kind != .atSign
  | _ => false

def heeds (r : ConfigReader) (word : String) : Bool :=
  match r.place with
  -- After the name of a variable every comment counts, as its type.
  | .variableType _ => true
  | .variableDefault _ | .headerDefault _ => word = "default" || keys.contains word
  | _ => keys.contains word

variable {r : ConfigReader} {next : Token} {word : String}

theorem entry_comment (unheeded : word ∉ keys) (config : Config) (line : Nat) :
    entry config ⟨.comment, word, line⟩ = .reading ⟨config, .entries⟩ := by
  simp only [keys, List.mem_cons, List.not_mem_nil, or_false, not_or] at unheeded
  simp only [entry, reduceCtorEq, if_false]
  split <;> simp_all

theorem skips (between : r.betweenEntries next) (unheeded : r.heeds word = false) :
    Skips (fun _ => ConfigReader.step) .reading r word next := by
  obtain ⟨config, place⟩ := r
  cases place with
  | entries =>
    have noKey : word ∉ keys := by simpa [heeds] using unheeded
    refine ⟨⟨config, .entries⟩, fun last line => ?_, fun last last' => rfl⟩
    exact congrArg Except.ok (entry_comment noKey config line)
  | variableType name => cases unheeded
  | variableDefault v =>
    have other : next.literal ≠ "default" := by simpa [betweenEntries] using between
    obtain ⟨noDefault, noKey⟩ : word ≠ "default" ∧ word ∉ keys := by simpa [heeds] using unheeded
    refine ⟨⟨addVariable config v, .entries⟩, fun last line => ?_, fun last last' => ?_⟩
    · simp [step, variableDefault, noDefault, entry_comment noKey]
    · simp [step, variableDefault, other]
  | headerMark h =>
    have other : next.kind ≠ .atSign := by simpa [betweenEntries] using between
    have noKey : word ∉ keys := by simpa [heeds] using unheeded
    refine ⟨⟨addHeader config h, .entries⟩, fun last line => ?_, fun last last' => ?_⟩
    · simp [step, headerMark, entry_comment noKey]
    · simp [step, headerMark, other]
  | headerDefault h =>
    have other : next.literal ≠ "default" := by simpa [betweenEntries] using between
    obtain ⟨noDefault, noKey⟩ : word ≠ "default" ∧ word ∉ keys := by simpa [heeds] using unheeded
    refine ⟨⟨addHeader config h, .entries⟩, fun last line => ?_, fun last last' => ?_⟩
    · simp [step, headerDefault, noDefault, entry_comment noKey]
    · simp [step, headerDefault, other]
  | _ => cases between

theorem confuses (between : r.betweenEntries next) (word : String) :
    Confuses (fun _ => ConfigReader.step) r word := by
  intro last line
  obtain ⟨config, place⟩ := r
  cases place with
  | entries | variableType | variableDefault | headerMark | headerDefault => rfl
  | _ => cases between

end ConfigReader

namespace DocumentReader

def betweenEntries (r : DocumentReader) (next : Token) : Bool :=
  match r.place with
  | .entries => true
  | .categoryLabel | .categoryDescription => next.kind != .text
  | .importReference | .categoryName | .categoryOpening _ | .categoryBasePath => false
  | .config reader => reader.betweenEntries next
  | .api reader => reader.betweenEntries next
  | .socket _ reader => reader.betweenEntries next
  | .stream reader => reader.betweenEntries next

def heeds (r : DocumentReader) (word : String) : Bool :=
  match r.place with
  | .config reader => reader.heeds word
  | .api reader => reader.heeds word
  | .socket _ reader => reader.heeds word
  | .stream _ => StreamReader.keys.contains word
  | _ => false

variable {r : DocumentReader} {next : Token} {word : String}

theorem entry_place (r : DocumentReader) (place : Place) (t : Token) :
    ({ r with place } : DocumentReader).entry t = r.entry t := by
  obtain ⟨document, enclosing, nextId, doc, _⟩ := r
  cases kind : t.kind with
  | closeBrace =>
    rcases enclosing with _ | ⟨category, _ | ⟨parent, outer⟩⟩ <;> simp [entry, kind] <;> rfl
  | _ => simp [entry, kind, place?, enter]

theorem skips (between : r.betweenEntries next) (unheeded : r.heeds word = false) :
    Skips DocumentReader.step id r word next := by
  obtain ⟨document, enclosing, nextId, doc, place⟩ := r
  cases place with
  | entries => exact ⟨_, fun _ _ => rfl, fun _ _ => rfl⟩
  | categoryLabel | categoryDescription =>
    have noText : next.kind ≠ .text := by simpa [betweenEntries] using between
    refine ⟨⟨document, enclosing, nextId, doc, .entries⟩, fun _ _ => rfl, fun last last' => ?_⟩
    simp only [step, noText, if_false]
    exact congrArg Except.ok (entry_place _ _ next).symm
  | importReference | categoryName | categoryOpening | categoryBasePath => cases between
  -- The blocks inside go on as they would have; whether a doc comment waits is settled by then.
  | config reader =>
    obtain ⟨s, passed, same⟩ := ConfigReader.skips between unheeded
    refine ⟨⟨document, enclosing, nextId, none, .config s⟩, fun last line => ?_,
      fun last last' => ?_⟩
    · simp [step, passed last, Except.map, enter]
    · simp only [step, same last last']
      congr 1
  | api reader =>
    obtain ⟨s, passed, same⟩ := ApiReader.skips between unheeded
    refine ⟨⟨document, enclosing, nextId, none, .api s⟩, fun last line => ?_, fun last last' => ?_⟩
    · simp [step, passed last, Except.map, enter]
    · simp only [step, same last last']
      congr 1
      funext progress
      cases progress with
      | reading reader => rfl
      | finished api => cases enclosing <;> rfl
  | socket kind reader =>
    obtain ⟨s, passed, same⟩ := SocketReader.skips between unheeded
    refine ⟨⟨document, enclosing, nextId, none, .socket kind s⟩, fun last line => ?_,
      fun last last' => ?_⟩
    · simp [step, passed last, Except.map, enter]
    · simp only [step, same last last']
      congr 1
      funext progress
      cases progress with
      | reading reader => rfl
      | finished socket => cases enclosing <;> cases kind <;> rfl
  | stream reader =>
    have noKey : word ∉ StreamReader.keys := by simpa [heeds] using unheeded
    obtain ⟨s, passed, same⟩ := StreamReader.skips between noKey
    refine ⟨⟨document, enclosing, nextId, none, .stream s⟩, fun last line => ?_,
      fun last last' => ?_⟩
    · simp [step, passed last, Except.map, enter]
    · simp only [step, same last last']
      congr 1
      funext progress
      cases progress with
      | reading reader => rfl
      | finished stream => cases enclosing <;> rfl

theorem confuses (between : r.betweenEntries next) (heeded : r.heeds word) :
    Confuses DocumentReader.step r word := by
  intro last line
  obtain ⟨document, enclosing, nextId, doc, place⟩ := r
  cases place with
  | config reader => simp only [step, ConfigReader.confuses between word last line]
  | api reader => simp only [step, ApiReader.confuses between word last line]
  | socket kind reader => simp only [step, SocketReader.confuses between word last line]
  | stream reader => simp only [step, StreamReader.confuses between word last line]
  | _ => cases heeded

end DocumentReader

section Runs

def lineAfter : Nat → List Token → Nat
  | line, [] => line
  | _, t :: rest => lineAfter t.line rest

theorem DocumentReader.run_append (r : DocumentReader) (line : Nat) (xs ys : List Token) :
    r.run line (xs ++ ys) = r.run line xs >>= fun s => s.run (lineAfter line xs) ys := by
  induction xs generalizing line r with
  | nil => rfl
  | cons t rest ih =>
    simp only [List.cons_append, run, lineAfter, bind_assoc]
    congr 1
    funext s
    exact ih s t.line

def nextToken (tokens : List Token) : Token := tokens.headD ⟨.endOfText, "", 0⟩

theorem trails_down (previous t : Token) : trails previous.down t.down = trails previous t := by
  have sameLine : t.line + 1 = previous.line + 1 ↔ t.line = previous.line := by omega
  unfold trails
  congr 1
  exact decide_eq_decide.2 sameLine

theorem zipWith_trails_down (xs ys : List Token) :
    (xs.map Token.down).zipWith trails (ys.map Token.down) = xs.zipWith trails ys := by
  simp only [List.zipWith_map, trails_down]

theorem DocumentReader.run_down (r : DocumentReader) {t : Token} {line line' : Nat}
    (sameLine : t.line = line ↔ t.line + 1 = line') (rest : List Token) :
    (r.run line (t :: rest)).mapError UnexpectedToken.kinds =
      (r.run line' ((t :: rest).map Token.down)).mapError UnexpectedToken.kinds := by
  have content : (t :: rest).map Token.content =
      ((t :: rest).map Token.down).map Token.content := by
    rw [List.map_map]
    rfl
  have first : trails ⟨.comment, "", line⟩ t = trails ⟨.comment, "", line'⟩ t.down := by
    unfold trails
    congr 1
    exact decide_eq_decide.2 sameLine
  -- Any token on the right line can stand for the one before the first.
  refine run_alike ⟨.comment, "", line⟩ ⟨.comment, "", line'⟩ content ?_ r
  rw [List.map_cons, List.zipWith_cons_cons, List.zipWith_cons_cons, first, ← List.map_cons,
    zipWith_trails_down]

theorem DocumentReader.run_comment {r : DocumentReader} {after : List Token} {word : String}
    {last endLine : Nat} {d : Document} (between : r.betweenEntries (nextToken after))
    (unheeded : r.heeds word = false)
    (read : (do (← r.run last after).finish endLine) = .ok d) (line endLine' : Nat) :
    (do (← r.run last (⟨.comment, word, line⟩ :: after.map Token.down)).finish endLine') =
      .ok d := by
  obtain ⟨s, passed, same⟩ := skips between unheeded
  cases after with
  | nil =>
    obtain ⟨document, enclosing, nextId, doc, place⟩ := r
    -- At the end of a text no block is open and nothing is waited for.
    cases place with
    | entries =>
      cases enclosing with
      | nil =>
        cases passed last line
        exact read
      | cons category outer => cases read
    | importReference => cases between
    | _ => cases read
  | cons t rest =>
    obtain ⟨final, ran, finished⟩ := bind_eq_ok.1 read
    -- To a token that starts an entry it is all the same which line is before it.
    have unmoved (line' : Nat) : s.run line' (t :: rest) = .ok final := by
      have first : s.step line' t = r.step last t := same line' last
      rw [← ran, run, run, first]
    obtain ⟨line', sameLine⟩ : ∃ line', t.line = line' ↔ t.line + 1 = line := by
      by_cases follows : t.line + 1 = line
      · exact ⟨t.line, by simp [follows]⟩
      · exact ⟨t.line + 1, by simp [follows]⟩
    have moved := eq_ok_of_mapError_eq (run_down s sameLine rest) (unmoved line')
    have ended := eq_ok_of_mapError_eq (finish_alike endLine endLine' final) finished
    refine bind_eq_ok.2 ⟨final, ?_, ended⟩
    exact bind_eq_ok.2 ⟨s, passed last line, moved⟩

end Runs

-- Some tokens have been read, and the next one does not belong to the entry before it, if any.
def betweenEntries (before after : List Token) : Bool :=
  match DocumentReader.start.run 1 before with
  | .ok r => r.betweenEntries (nextToken after)
  | .error _ => false

/-- A comment of this text would be taken for a word of the block that it stands in. -/
def heedsAfter (before : List Token) (word : String) : Bool :=
  match DocumentReader.start.run 1 before with
  | .ok r => r.heeds word
  | .error _ => false

/-- A line comment between two entries changes nothing, unless its text is a word that the block
around it looks for. It is then read as that word. -/
theorem Document.ofText_lineComment {before after : String} {d : Document}
    (parsed : Document.ofText (before ++ after) = .ok d) (place : CommentPlace before after)
    (between : betweenEntries (TokenStream.ofText before).tokens (tokensAfter before after))
    (comment : String) (oneLine : '\n' ∉ comment.toList) :
    let word := String.ofList (Text.trim comment.toList)
    let commented := before ++ "//" ++ comment ++ "\n" ++ after
    let asWord : TokenStream := {
      tokens := (TokenStream.ofText before).tokens ++
        ⟨.identifier, word, (TokenStream.ofText before).endLine⟩ ::
        (tokensAfter before after).map Token.down
      endLine := (TokenStream.ofText commented).endLine }
    (heedsAfter (TokenStream.ofText before).tokens word = false →
        Document.ofText commented = .ok d) ∧
      (heedsAfter (TokenStream.ofText before).tokens word = true →
        Document.ofText commented = Document.ofTokens asWord) := by
  intro word commented asWord
  have tokens : (TokenStream.ofText commented).tokens = _ := place.tokens_eq oneLine
  unfold betweenEntries at between
  unfold heedsAfter
  cases first : DocumentReader.start.run 1 (TokenStream.ofText before).tokens with
  | error e => simp [first] at between
  | ok r =>
    simp only [first] at between ⊢
    constructor
    · intro unheeded
      have read : (do (← r.run (lineAfter 1 (TokenStream.ofText before).tokens)
          (tokensAfter before after)).finish (TokenStream.ofText (before ++ after)).endLine) =
            .ok d := by
        rw [Document.ofText, Document.ofTokens, place.apart, DocumentReader.run_append,
          first] at parsed
        exact parsed
      have further := DocumentReader.run_comment between unheeded read
        (TokenStream.ofText before).endLine (TokenStream.ofText commented).endLine
      rw [Document.ofText, Document.ofTokens, tokens, DocumentReader.run_append, first]
      exact further
    · intro heeded
      have confused (rest : List Token) : r.run (lineAfter 1 (TokenStream.ofText before).tokens)
          (⟨.comment, word, (TokenStream.ofText before).endLine⟩ :: rest) =
            r.run (lineAfter 1 (TokenStream.ofText before).tokens)
              (⟨.identifier, word, (TokenStream.ofText before).endLine⟩ :: rest) := by
        rw [DocumentReader.run, DocumentReader.run, DocumentReader.confuses between heeded]
      rw [Document.ofText, Document.ofTokens, Document.ofTokens, tokens, DocumentReader.run_append,
        DocumentReader.run_append, first]
      change (r.run _ _ >>= fun s => s.finish _) = (r.run _ _ >>= fun s => s.finish _)
      rw [confused]

theorem Document.ofText_lineComment_nested :
    let before := "category c \x7b ws /u \x7b event e \x7b request \x7b x \x7d"
    let after := "\n// name\n \x7d \x7d \x7d"
    CommentPlace before after ∧
      betweenEntries (TokenStream.ofText before).tokens (tokensAfter before after) ∧
      ∃ d, Document.ofText (before ++ after) = .ok d ∧
        Document.ofText (before ++ "//" ++ " name" ++ "\n" ++ after) = .ok d := by
  intro before after
  -- The comment is after the schema of an event: `name` is a word of the socket, not of the event.
  have place : CommentPlace before after := ⟨by decide +kernel, by decide +kernel⟩
  have between : betweenEntries (TokenStream.ofText before).tokens (tokensAfter before after) := by
    decide +kernel
  obtain ⟨d, parsed⟩ := exists_of_isOk
    (show (Document.ofText (before ++ after)).isOk by decide +kernel)
  have unchanged := (Document.ofText_lineComment parsed place between " name" (by decide)).1
    (by decide +kernel)
  exact ⟨place, between, d, parsed, unchanged⟩

theorem Document.ofText_lineComment_heeded :
    let before := "config \x7b "
    let after := "cors true \x7d"
    CommentPlace before after ∧
      betweenEntries (TokenStream.ofText before).tokens (tokensAfter before after) ∧
      ∃ d, Document.ofText (before ++ after) = .ok d ∧
        Document.ofText (before ++ "//" ++ " mock" ++ "\n" ++ after) ≠ .ok d := by
  intro before after
  -- The comment is read as a key, which takes `cors` for its value.
  have allowed : (Document.ofText (before ++ after)).map (·.config.map (·.cors)) =
      .ok (some true) := by decide +kernel
  have refused : (Document.ofText (before ++ "//" ++ " mock" ++ "\n" ++ after)).map
      (·.config.map (·.cors)) = .ok (some false) := by decide +kernel
  obtain ⟨d, parsed, cors⟩ := map_eq_ok.1 allowed
  refine ⟨⟨by decide +kernel, by decide +kernel⟩, by decide +kernel, d, parsed, fun same => ?_⟩
  rw [same, Except.map, cors] at refused
  cases refused

end ApiCatalog
