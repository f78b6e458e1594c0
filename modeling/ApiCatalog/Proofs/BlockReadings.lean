import ApiCatalog.Proofs.FieldReadings

set_option autoImplicit false

namespace ApiCatalog

open DocumentReader

section Entries

variable {key : String}

theorem reads_doc (state : Option String → DocumentReader) {doc : Option String}
    (docText : ∀ s ∈ doc, IsDocText s) (noted : ∀ s, Steps (state none) (.doc s) (state (some s))) :
    Reads Anything (state none) (docPieces doc) (state doc) :=
  .option state doc fun s isDoc => .step (docText s isDoc) (noted s)

theorem reads_text (state : Option String → DocumentReader) (labelled : DocumentReader)
    {value : Option String} (quotable : ∀ s ∈ value, isQuotable s)
    (keyed : Reads Anything (state none) [.word key] labelled)
    (named : ∀ s, Steps labelled (.quoted s) (state (some s))) :
    Reads Anything (state none) (textEntry key value) (state value) :=
  .option state value fun s isValue => keyed.andThen (.step (quotable s isValue) (named s))

theorem reads_payload (state : Option Schema → DocumentReader) {value : Option Schema}
    {host : SchemaReader → DocumentReader} (expressible : ∀ schema ∈ value, schema.Expressible)
    (keyed : Reads Anything (state none) [.word key] (host .start))
    (hosts : Hosts host fun schema => state (some schema)) :
    Reads EndsBlock (state none) (payloadPieces key value) (state value) :=
  .option state value fun schema isValue =>
    keyed.andThen ((expressible schema isValue).reads hosts)

theorem payloadPieces_endsBlock (key : String) (value : Option Schema) {rest : List Piece}
    (ends : EndsBlock rest) : EndsBlock (payloadPieces key value ++ rest) := by
  cases value with
  | none => exact ends
  | some schema => simp [EndsBlock, Next, payloadPieces]

theorem closeBrace_endsBlock (rest : List Piece) : EndsBlock (.mark .closeBrace :: rest) := by
  simp [EndsBlock, Next]

end Entries

section Steps

variable (r : DocumentReader) (last : Nat) (t : Token)

theorem step_config (reader : ConfigReader) :
    (r.enter (.config reader)).step last t = (reader.step t).map fun
      | .reading reader => r.enter (.config reader)
      | .finished config =>
        { r.between with document := { r.document with config := some config } } := rfl

-- What a block adds is the same wherever in the block the reader was.
theorem enter_addApi (place : Place) (api : Api) :
    ((r.enter place).addApi api).between = (r.addApi api).between := by
  obtain ⟨document, enclosing, nextId, doc, place⟩ := r
  cases enclosing <;> rfl

theorem enter_addSocket (place : Place) (kind : SocketKind) (socket : Socket) :
    ((r.enter place).addSocket kind socket).between = (r.addSocket kind socket).between := by
  obtain ⟨document, enclosing, nextId, doc, place⟩ := r
  cases enclosing <;> cases kind <;> rfl

theorem enter_addStream (place : Place) (stream : EventStream) :
    ((r.enter place).addStream stream).between = (r.addStream stream).between := by
  obtain ⟨document, enclosing, nextId, doc, place⟩ := r
  cases enclosing <;> rfl

theorem step_api (reader : ApiReader) :
    (r.enter (.api reader)).step last t = (reader.step last t).map fun
      | .reading reader => r.enter (.api reader)
      | .finished api => (r.addApi api).between := by
  simp only [← enter_addApi r (.api reader)]
  rfl

theorem step_socket (kind : SocketKind) (reader : SocketReader) :
    (r.enter (.socket kind reader)).step last t = (reader.step last t).map fun
      | .reading reader => r.enter (.socket kind reader)
      | .finished socket => (r.addSocket kind socket).between := by
  simp only [← enter_addSocket r (.socket kind reader)]
  rfl

theorem step_stream (reader : StreamReader) :
    (r.enter (.stream reader)).step last t = (reader.step last t).map fun
      | .reading reader => r.enter (.stream reader)
      | .finished stream => (r.addStream stream).between := by
  simp only [← enter_addStream r (.stream reader)]
  rfl

end Steps

section Statements

variable (r : DocumentReader)

def DocumentReader.holding (doc : Option String) : DocumentReader :=
  { r with doc, place := .entries }

theorem place?_endpoint {keyword : String} {place : Place}
    (found : endpointPlace? r.doc keyword = some place) : r.place? keyword = some place := by
  unfold place?
  -- Imports, configs and the texts of a category are looked for first; none is an endpoint.
  split
  · unfold documentPlace?
    split
    · simp [endpointPlace?] at found
    · simp [endpointPlace?] at found
    · exact found
  · unfold categoryPlace?
    split
    · simp [endpointPlace?] at found
    · simp [endpointPlace?] at found
    · simp [endpointPlace?] at found
    · exact found

theorem reads_statement {doc : Option String} {keyword : String} {place : Place}
    (isWord : isWord keyword.toList) (found : (r.holding doc).place? keyword = some place) :
    Reads Anything (r.holding doc) [.word keyword] (r.enter place) := by
  refine .step isWord fun last line => ?_
  change Except.ok ((r.holding doc).entry _) = _
  simp only [entry, Piece.token, Piece.kind_word, Piece.literal_word, found]
  rfl

end Statements

section Payloads

def PayloadSlot.key : PayloadSlot → String
  | .request => "request"
  | .response => "response"

@[simp]
theorem PayloadSlot.ofKey?_key (slot : PayloadSlot) : ofKey? slot.key = some slot := by
  cases slot <;> simp [ofKey?, key]

theorem PayloadSlot.isWord_key (slot : PayloadSlot) : isWord slot.key.toList := by
  cases slot <;> decide

end Payloads

section Api

variable (r : DocumentReader) (api : Api) (doc : Option String)

theorem reads_methodKey (method : Method) {key : String} {place : MethodReader.Place}
    (isWord : isWord key.toList)
    (isKey : ∀ line,
      MethodReader.entry method ((Piece.word key).token line) = .reading ⟨method, place⟩) :
    Reads Anything (r.enter (.api ⟨api, doc, .method ⟨method, .entries⟩⟩)) [.word key]
      (r.enter (.api ⟨api, doc, .method ⟨method, place⟩⟩)) := by
  refine .step isWord fun last line => ?_
  simp only [step_api, ApiReader.step, MethodReader.step, isKey]
  rfl

theorem hosts_method (method : Method) (slot : PayloadSlot) :
    Hosts (fun reader => r.enter (.api ⟨api, doc, .method ⟨method, .payload slot reader⟩⟩))
      fun schema => r.enter (.api
        ⟨api, doc, .method ⟨MethodReader.setPayload method slot schema, .entries⟩⟩) where
  step last reader t := by
    simp only [step_api, ApiReader.step, MethodReader.step]
    cases reader.step last t with
    | error e => rfl
    | ok outcome => cases outcome <;> rfl

theorem reads_methodPayload (slot : PayloadSlot) (method : Option Schema → Method)
    (sets : ∀ schema, MethodReader.setPayload (method none) slot schema = method (some schema))
    {value : Option Schema} (expressible : ∀ schema ∈ value, schema.Expressible) :
    Reads EndsBlock (r.enter (.api ⟨api, doc, .method ⟨method none, .entries⟩⟩))
      (payloadPieces slot.key value)
      (r.enter (.api ⟨api, doc, .method ⟨method value, .entries⟩⟩)) := by
  have hosts := hosts_method r api doc (method none) slot
  simp only [sets] at hosts
  refine reads_payload (fun value => r.enter (.api ⟨api, doc, .method ⟨method value, .entries⟩⟩))
    expressible (reads_methodKey r api doc _ slot.isWord_key fun line => ?_) hosts
  simp [MethodReader.entry]

theorem reads_methodName (verb : String) {name : Option String} (names : ∀ s ∈ name, isQuotable s) :
    Reads Anything (r.enter (.api ⟨api, doc, .method ⟨{ verb }, .entries⟩⟩)) (textEntry "name" name)
      (r.enter (.api ⟨api, doc, .method ⟨{ verb, name }, .entries⟩⟩)) := by
  refine reads_text (fun name => r.enter (.api ⟨api, doc, .method ⟨{ verb, name }, .entries⟩⟩))
    (r.enter (.api ⟨api, doc, .method ⟨{ verb }, .label⟩⟩)) names
    (reads_methodKey r api doc _ (by decide) fun line => ?_) fun _ _ _ => rfl
  simp [MethodReader.entry, PayloadSlot.ofKey?]

theorem verb_read {verb : String} (isVerb : verb ∈ ["GET", "POST", "PUT", "DELETE", "PATCH"]) :
    isWord verb.toList ∧ ApiReader.verbs.contains (Text.lower verb) ∧ Text.upper verb = verb := by
  have all : ∀ verb ∈ ["GET", "POST", "PUT", "DELETE", "PATCH"], isWord verb.toList ∧
      ApiReader.verbs.contains (Text.lower verb) ∧ Text.upper verb = verb := by decide +kernel
  exact all verb isVerb

theorem reads_verb {verb : String} (isVerb : verb ∈ ["GET", "POST", "PUT", "DELETE", "PATCH"]) :
    Reads Anything (r.enter (.api ⟨api, doc, .entries⟩)) [.word verb]
      (r.enter (.api ⟨api, doc, .method ⟨{ verb }, .opening⟩⟩)) := by
  obtain ⟨isWord, known, upper⟩ := verb_read isVerb
  refine .step isWord fun last line => ?_
  simp only [step_api, ApiReader.step, ApiReader.entry, Piece.token, Piece.kind_word,
    Piece.literal_word, known, upper]
  rfl

theorem Method.Expressible.reads {m : Method} (expressible : m.Expressible) :
    Reads Anything (r.enter (.api ⟨api, none, .entries⟩)) m.pieces
      (r.enter (.api ⟨{ api with methods := api.methods ++ [m] }, none, .entries⟩)) := by
  obtain ⟨isVerb, names, docs, requests, responses⟩ := expressible
  obtain ⟨verb, name, doc, request, response⟩ := m
  have noted := reads_doc (fun doc => r.enter (.api ⟨api, doc, .entries⟩)) docs fun _ _ _ => rfl
  have named := reads_methodName r api doc verb names
  have requested := reads_methodPayload r api doc .request
    (fun request => { verb, name, request }) (fun _ => rfl) requests
  have responded := reads_methodPayload r api doc .response
    (fun response => { verb, name, request, response }) (fun _ => rfl) responses
  have inside := (named.andThen requested).append responded
    fun _ => payloadPieces_endsBlock "response" response
  exact noted.andThen ((reads_verb r api doc isVerb).andThen
    (.braced (fun _ _ => rfl) inside (fun _ _ => rfl) closeBrace_endsBlock))

theorem Api.Expressible.reads {api : Api} (expressible : api.Expressible) :
    Reads Anything r.between api.pieces (r.addApi api).between := by
  obtain ⟨path, methods⟩ := api
  have located : Reads Anything (r.enter (.api .start)) [.quoted path]
      (r.enter (.api ⟨{ path }, none, .opening⟩)) := .step expressible.path fun _ _ => rfl
  have inside : Reads Anything (r.enter (.api ⟨{ path }, none, .entries⟩))
      (methods.flatMap Method.pieces) (r.enter (.api ⟨{ path, methods }, none, .entries⟩)) :=
    .flatMap (fun methods => r.enter (.api ⟨{ path, methods }, none, .entries⟩))
      (fun _ _ _ => trivial) fun before m found => (expressible.methods m found).reads r _
  have stated : Reads Anything (r.holding none) [.word "api"] (r.enter (.api .start)) :=
    reads_statement r (by decide) (place?_endpoint _ (by simp [endpointPlace?]))
  refine stated.andThen (located.andThen
    (.braced (fun _ _ => rfl) inside (fun _ _ => ?_) fun _ => trivial))
  rw [step_api]
  rfl

end Api

section Socket

variable (r : DocumentReader) (kind : SocketKind) (socket : Socket)

theorem reads_socketKey {key : String} {place : SocketReader.Place} (isWord : isWord key.toList)
    (isKey : SocketReader.placeOfKey key = place) :
    Reads Anything (r.enter (.socket kind ⟨socket, none, .entries⟩)) [.word key]
      (r.enter (.socket kind ⟨socket, none, place⟩)) := by
  refine .step isWord fun last line => ?_
  simp only [step_socket, SocketReader.step, SocketReader.entry, Piece.token, Piece.kind_word,
    Piece.literal_word, isKey]
  rfl

theorem hosts_handshake (slot : SocketReader.Slot) :
    Hosts (fun reader => r.enter (.socket kind ⟨socket, none, .handshake slot reader⟩))
      fun schema =>
        r.enter (.socket kind ⟨SocketReader.setHandshake socket slot schema, none, .entries⟩) where
  step last reader t := by
    simp only [step_socket, SocketReader.step]
    cases reader.step last t with
    | error e => rfl
    | ok outcome => cases outcome <;> rfl

theorem hosts_socketEvent (event : SocketEvent) (slot : PayloadSlot) :
    Hosts (fun reader => r.enter (.socket kind
        ⟨socket, none, .event ⟨event, .payload slot reader⟩⟩))
      fun schema => r.enter (.socket kind
        ⟨socket, none, .event ⟨SocketEventReader.setPayload event slot schema, .entries⟩⟩) where
  step last reader t := by
    simp only [step_socket, SocketReader.step, SocketEventReader.step]
    cases reader.step last t with
    | error e => rfl
    | ok outcome => cases outcome <;> rfl

theorem reads_eventPayload (slot : PayloadSlot) (event : Option Schema → SocketEvent)
    (sets : ∀ schema, SocketEventReader.setPayload (event none) slot schema = event (some schema))
    {value : Option Schema} (expressible : ∀ schema ∈ value, schema.Expressible) :
    Reads EndsBlock (r.enter (.socket kind ⟨socket, none, .event ⟨event none, .entries⟩⟩))
      (payloadPieces slot.key value)
      (r.enter (.socket kind ⟨socket, none, .event ⟨event value, .entries⟩⟩)) := by
  have hosts := hosts_socketEvent r kind socket (event none) slot
  simp only [sets] at hosts
  refine reads_payload
    (fun value => r.enter (.socket kind ⟨socket, none, .event ⟨event value, .entries⟩⟩))
    expressible (.step slot.isWord_key fun last line => ?_) hosts
  simp only [step_socket, SocketReader.step, SocketEventReader.step, SocketEventReader.entry,
    Piece.token, Piece.kind_word, Piece.literal_word, PayloadSlot.ofKey?_key]
  rfl

theorem SocketEvent.Expressible.reads {e : SocketEvent} (expressible : e.Expressible) :
    Reads Anything (r.enter (.socket kind ⟨socket, none, .entries⟩)) e.pieces
      (r.enter (.socket kind
        ⟨{ socket with events := socket.events ++ [e] }, none, .entries⟩)) := by
  obtain ⟨names, requests, responses⟩ := expressible
  obtain ⟨name, request, response⟩ := e
  have keyed : Reads Anything (r.enter (.socket kind ⟨socket, none, .entries⟩)) [.word "event"]
      (r.enter (.socket kind ⟨socket, none, .event .start⟩)) :=
    reads_socketKey r kind socket (by decide) (by simp [SocketReader.placeOfKey])
  have named : Reads Anything (r.enter (.socket kind ⟨socket, none, .event .start⟩)) [.quoted name]
      (r.enter (.socket kind ⟨socket, none, .event ⟨{ name }, .opening⟩⟩)) :=
    .step names fun _ _ => rfl
  have requested := reads_eventPayload r kind socket .request
    (fun request => { name, request }) (fun _ => rfl) requests
  have responded := reads_eventPayload r kind socket .response
    (fun response => { name, request, response }) (fun _ => rfl) responses
  have inside := requested.append responded fun _ => payloadPieces_endsBlock "response" response
  exact keyed.andThen (named.andThen
    (.braced (fun _ _ => rfl) inside (fun _ _ => rfl) closeBrace_endsBlock))

def SocketReader.Slot.key : SocketReader.Slot → String
  | .auth => "auth"
  | .headers => "headers"

theorem reads_handshake (slot : SocketReader.Slot) (socket : Option Schema → Socket)
    (sets : ∀ schema, SocketReader.setHandshake (socket none) slot schema = socket (some schema))
    {value : Option Schema} (expressible : ∀ schema ∈ value, schema.Expressible) :
    Reads EndsBlock (r.enter (.socket kind ⟨socket none, none, .entries⟩))
      (payloadPieces slot.key value)
      (r.enter (.socket kind ⟨socket value, none, .entries⟩)) := by
  have hosts := hosts_handshake r kind (socket none) slot
  simp only [sets] at hosts
  have isWord : isWord slot.key.toList := by cases slot <;> decide
  have isKey : SocketReader.placeOfKey slot.key = .handshake slot .start := by
    cases slot <;> simp [SocketReader.placeOfKey, SocketReader.Slot.key]
  exact reads_payload (fun value => r.enter (.socket kind ⟨socket value, none, .entries⟩))
    expressible (reads_socketKey r kind _ isWord isKey) hosts

theorem reads_socketName (url : String) (description : Option String) {name : Option String}
    (names : ∀ s ∈ name, isQuotable s) :
    Reads Anything (r.enter (.socket kind ⟨{ url, description }, none, .entries⟩))
      (textEntry "name" name)
      (r.enter (.socket kind ⟨{ url, name, description }, none, .entries⟩)) :=
  reads_text (fun name => r.enter (.socket kind ⟨{ url, name, description }, none, .entries⟩))
    (r.enter (.socket kind ⟨{ url, description }, none, .label⟩)) names
    (reads_socketKey r kind _ (by decide) (by simp [SocketReader.placeOfKey]))
    fun _ _ _ => rfl

theorem SocketEvent.pieces_endsBlock (e : SocketEvent) (rest : List Piece) :
    EndsBlock (e.pieces ++ rest) := by
  simp [EndsBlock, Next, SocketEvent.pieces]

theorem Socket.Expressible.reads {socket : Socket} (expressible : socket.Expressible) :
    Reads Anything r.between (socket.pieces kind) (r.addSocket kind socket).between := by
  obtain ⟨urls, names, docs, auths, headers, eachEvent⟩ := expressible
  obtain ⟨url, name, description, auth, connectHeaders, events⟩ := socket
  have noted := reads_doc r.holding docs fun _ _ _ => rfl
  have stated : Reads Anything (r.holding description) [.word kind.keyword]
      (r.enter (.socket kind (.start description))) :=
    reads_statement r (by cases kind <;> decide)
      (place?_endpoint _ (by cases kind <;> simp [endpointPlace?, SocketKind.keyword, holding]))
  have located : Reads Anything (r.enter (.socket kind (.start description))) [.quoted url]
      (r.enter (.socket kind ⟨{ url, description }, none, .opening⟩)) := .step urls fun _ _ => rfl
  have named := reads_socketName r kind url description names
  have authorized := reads_handshake r kind .auth
    (fun auth => { url, name, description, auth }) (fun _ => rfl) auths
  have headed := reads_handshake r kind .headers
    (fun connectHeaders => { url, name, description, auth, connectHeaders }) (fun _ => rfl) headers
  have listed : Reads EndsBlock (r.enter (.socket kind
        ⟨{ url, name, description, auth, connectHeaders }, none, .entries⟩))
      (events.flatMap SocketEvent.pieces)
      (r.enter (.socket kind
        ⟨{ url, name, description, auth, connectHeaders, events }, none, .entries⟩)) :=
    .flatMap (fun events => r.enter (.socket kind
        ⟨{ url, name, description, auth, connectHeaders, events }, none, .entries⟩))
      (fun e rest _ => e.pieces_endsBlock rest)
      fun _ e found => ((eachEvent e found).reads r kind _).anyway
  have inside := ((named.andThen authorized).append headed
    fun _ => payloadPieces_endsBlock "headers" connectHeaders).append listed
      (next_flatMap (fun e rest _ => e.pieces_endsBlock rest) events)
  refine noted.andThen (stated.andThen (located.andThen
    (.braced (fun _ _ => rfl) inside (fun _ _ => ?_) closeBrace_endsBlock)))
  rw [step_socket]
  rfl

end Socket

section Stream

variable (r : DocumentReader) (stream : EventStream)

theorem hosts_streamRequest :
    Hosts (fun reader => r.enter (.stream ⟨stream, none, .request reader⟩))
      fun schema => r.enter (.stream
        ⟨{ stream with request := some schema }, none, .entries⟩) where
  step last reader t := by
    simp only [step_stream, StreamReader.step]
    cases reader.step last t with
    | error e => rfl
    | ok outcome => cases outcome <;> rfl

theorem hosts_streamEvent (name : String) :
    Hosts (fun reader => r.enter (.stream ⟨stream, none, .event name reader⟩))
      fun schema => r.enter (.stream
        ⟨StreamReader.addEvent stream name schema, none, .entries⟩) where
  step last reader t := by
    simp only [step_stream, StreamReader.step]
    cases reader.step last t with
    | error e => rfl
    | ok outcome => cases outcome <;> rfl

theorem reads_streamKey {key : String} {place : StreamReader.Place} (isWord : isWord key.toList)
    (isKey : StreamReader.placeOfKey key = place) :
    Reads Anything (r.enter (.stream ⟨stream, none, .entries⟩)) [.word key]
      (r.enter (.stream ⟨stream, none, place⟩)) := by
  refine .step isWord fun last line => ?_
  simp only [step_stream, StreamReader.step, StreamReader.entry, Piece.token, Piece.kind_word,
    Piece.literal_word, isKey]
  rfl

theorem reads_streamName (path : String) (description : Option String) {name : Option String}
    (names : ∀ s ∈ name, isQuotable s) :
    Reads Anything (r.enter (.stream ⟨{ path, description }, none, .entries⟩))
      (textEntry "name" name)
      (r.enter (.stream ⟨{ path, name, description }, none, .entries⟩)) :=
  reads_text (fun name => r.enter (.stream ⟨{ path, name, description }, none, .entries⟩))
    (r.enter (.stream ⟨{ path, description }, none, .label⟩)) names
    (reads_streamKey r _ (by decide) (by simp [StreamReader.placeOfKey]))
    fun _ _ _ => rfl

theorem reads_streamRequest (path : String) (name description : Option String)
    {request : Option Schema} (requests : ∀ schema ∈ request, schema.Expressible) :
    Reads EndsBlock (r.enter (.stream ⟨{ path, name, description }, none, .entries⟩))
      (payloadPieces "request" request)
      (r.enter (.stream ⟨{ path, name, description, request }, none, .entries⟩)) :=
  reads_payload
    (fun request => r.enter (.stream ⟨{ path, name, description, request }, none, .entries⟩))
    requests (reads_streamKey r _ (by decide) (by simp [StreamReader.placeOfKey]))
    (hosts_streamRequest r { path, name, description })

theorem StreamEvent.Expressible.reads {e : StreamEvent} (expressible : e.Expressible) :
    Reads EndsBlock (r.enter (.stream ⟨stream, none, .entries⟩)) e.pieces
      (r.enter (.stream ⟨{ stream with events := stream.events ++ [e] }, none, .entries⟩)) := by
  obtain ⟨names, eachField⟩ := expressible
  obtain ⟨name, fields⟩ := e
  have keyed : Reads Anything (r.enter (.stream ⟨stream, none, .entries⟩)) [.word "event"]
      (r.enter (.stream ⟨stream, none, .eventName⟩)) :=
    reads_streamKey r stream (by decide) (by simp [StreamReader.placeOfKey])
  have named : Reads Anything (r.enter (.stream ⟨stream, none, .eventName⟩)) [.quoted name]
      (r.enter (.stream ⟨stream, none, .event name .start⟩)) := .step names fun _ _ => rfl
  exact keyed.andThen (named.andThen
    (Schema.Expressible.reads (hosts_streamEvent r stream name) eachField))

theorem StreamEvent.pieces_endsBlock (e : StreamEvent) (rest : List Piece) :
    EndsBlock (e.pieces ++ rest) := by
  simp [EndsBlock, Next, StreamEvent.pieces]

theorem EventStream.Expressible.reads {stream : EventStream} (expressible : stream.Expressible) :
    Reads Anything r.between stream.pieces (r.addStream stream).between := by
  obtain ⟨paths, names, docs, requests, eachEvent⟩ := expressible
  obtain ⟨path, name, description, request, events⟩ := stream
  have noted := reads_doc r.holding docs fun _ _ _ => rfl
  have stated : Reads Anything (r.holding description) [.word "sse"]
      (r.enter (.stream (.start description))) :=
    reads_statement r (by decide) (place?_endpoint _ (by simp [endpointPlace?, holding]))
  have located : Reads Anything (r.enter (.stream (.start description))) [.quoted path]
      (r.enter (.stream ⟨{ path, description }, none, .opening⟩)) := .step paths fun _ _ => rfl
  have named := reads_streamName r path description names
  have requested := reads_streamRequest r path name description requests
  have listed : Reads EndsBlock
      (r.enter (.stream ⟨{ path, name, description, request }, none, .entries⟩))
      (events.flatMap StreamEvent.pieces)
      (r.enter (.stream ⟨{ path, name, description, request, events }, none, .entries⟩)) :=
    .flatMap (fun events => r.enter (.stream
        ⟨{ path, name, description, request, events }, none, .entries⟩))
      (fun e rest _ => e.pieces_endsBlock rest) fun _ e found => (eachEvent e found).reads r _
  have inside := (named.andThen requested).append listed
    (next_flatMap (fun e rest _ => e.pieces_endsBlock rest) events)
  refine noted.andThen (stated.andThen (located.andThen
    (.braced (fun _ _ => rfl) inside (fun _ _ => ?_) closeBrace_endsBlock)))
  rw [step_stream]
  rfl

end Stream

end ApiCatalog
