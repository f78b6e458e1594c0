import ApiCatalog.Proofs.BlockReadings
import Mathlib.Data.List.Basic

set_option autoImplicit false

namespace ApiCatalog

open DocumentReader

section Urls

variable {urls : List String}

theorem not_mem_intercalate {c : Char} (isNoComma : c ≠ ',')
    (free : ∀ url ∈ urls, c ∉ url.toList) : c ∉ [','].intercalate (urls.map String.toList) := by
  induction urls with
  | nil => simp
  | cons url others ih =>
    obtain ⟨first, rest⟩ := List.forall_mem_cons.1 free
    cases others with
    | nil => simpa using first
    | cons next more =>
      have tail := ih rest
      rw [List.map_cons] at tail
      simp [first, isNoComma, tail]

theorem intercalate_quotable
    (quotes : (∀ url ∈ urls, '"' ∉ url.toList) ∨ ∀ url ∈ urls, '\'' ∉ url.toList) :
    isQuotable (",".intercalate urls) := by
  rcases quotes with free | free
  · simp [isQuotable, not_mem_intercalate (by decide) free]
  · simp [isQuotable, not_mem_intercalate (by decide) free]

theorem splitUrls_intercalate (held : urls ≠ [])
    (each : ∀ url ∈ urls, url ≠ "" ∧ Text.trimText url = url ∧ ',' ∉ url.toList) :
    ConfigReader.splitUrls (",".intercalate urls) = urls := by
  have apart : (",".intercalate urls).toList.splitOn ',' = urls.map String.toList := by
    rw [String.toList_intercalate]
    refine List.splitOn_intercalate ',' ?_ (by simpa using held)
    intro cs found
    obtain ⟨url, isUrl, rfl⟩ := List.mem_map.1 found
    exact (each url isUrl).2.2
  have kept : ∀ url ∈ urls, (if (Text.trim url.toList).isEmpty then none
      else some (String.ofList (Text.trim url.toList))) = some url := by
    intro url isUrl
    obtain ⟨held, trimmed, -⟩ := each url isUrl
    have trimmed' : Text.trim url.toList = url.toList := by
      simpa [Text.trimText] using congrArg String.toList trimmed
    simp [trimmed', held]
  rw [ConfigReader.splitUrls, apart, List.map_map, List.filterMap_map]
  exact (List.filterMap_congr kept).trans List.filterMap_some

end Urls

def EndsEntry : List Piece → Prop := Next fun p => p.literal ≠ "default" ∧ p.kind ≠ .atSign

theorem word_endsEntry {key : String} (isKey : key ≠ "default") (rest : List Piece) :
    EndsEntry (.word key :: rest) := by
  simp [EndsEntry, Next, isKey]

section Config

variable (r : DocumentReader) (config : Config)

theorem reads_configKey {key : String} {place : ConfigReader.Place} (isWord : isWord key.toList)
    (isKey : ∀ line,
      ConfigReader.entry config ((Piece.word key).token line) = .reading ⟨config, place⟩) :
    Reads Anything (r.enter (.config ⟨config, .entries⟩)) [.word key]
      (r.enter (.config ⟨config, place⟩)) := by
  refine .step isWord fun last line => ?_
  simp only [step_config, ConfigReader.step, isKey]
  rfl

theorem reads_setting (place : ConfigReader.Place) {key : String} {p : Piece} {changed : Config}
    (isWord : isWord key.toList) (scannable : p.Scannable)
    (isKey : ∀ line,
      ConfigReader.entry config ((Piece.word key).token line) = .reading ⟨config, place⟩)
    (sets : ∀ line,
      ConfigReader.step ⟨config, place⟩ (p.token line) = .ok (.reading ⟨changed, .entries⟩)) :
    Reads Anything (r.enter (.config ⟨config, .entries⟩)) [.word key, p]
      (r.enter (.config ⟨changed, .entries⟩)) := by
  refine Reads.andThen (reads_configKey r config isWord isKey) (.step scannable fun last line => ?_)
  rw [step_config, sets]
  rfl

theorem reads_baseUrls {urls : List String}
    (each : ∀ url ∈ urls, url ≠ "" ∧ Text.trimText url = url ∧ ',' ∉ url.toList)
    (quotes : (∀ url ∈ urls, '"' ∉ url.toList) ∨ ∀ url ∈ urls, '\'' ∉ url.toList) :
    Reads Anything (r.enter (.config ⟨{}, .entries⟩)) (baseUrlPieces urls)
      (r.enter (.config ⟨{ baseUrls := urls }, .entries⟩)) := by
  unfold baseUrlPieces
  split
  next empty =>
    rw [List.isEmpty_iff.1 empty]
    exact .nothing _
  next held =>
    refine reads_setting r {} .baseUrl (by decide) (intercalate_quotable quotes) ?_
      fun line => ?_
    · simp [ConfigReader.entry]
    · simp only [ConfigReader.step, Piece.token, Piece.literal_quoted,
        splitUrls_intercalate (by simpa using held) each]

theorem reads_cors (cors : Bool) :
    Reads Anything (r.enter (.config ⟨config, .entries⟩)) [.word "cors", boolPiece cors]
      (r.enter (.config ⟨{ config with cors }, .entries⟩)) := by
  refine reads_setting r config .cors (by decide) (boolPiece_scannable cors) ?_
    fun line => ?_
  · simp [ConfigReader.entry]
  · cases cors <;> simp [ConfigReader.step, boolPiece]

theorem reads_mock (mock : Bool) :
    Reads Anything (r.enter (.config ⟨config, .entries⟩)) [.word "mock", boolPiece mock]
      (r.enter (.config ⟨{ config with mock }, .entries⟩)) := by
  refine reads_setting r config .mock (by decide) (boolPiece_scannable mock) ?_
    fun line => ?_
  · simp [ConfigReader.entry]
  · cases mock <;> simp [ConfigReader.step, boolPiece]

theorem reads_variableDefault (name type : String) {default : Option String}
    (defaults : ∀ s ∈ default, isQuotable s) :
    Reads EndsEntry (r.enter (.config ⟨config, .variableDefault { name, type }⟩))
      (default.elim [] fun s => .word "default" :: parenthesized (.quoted s))
      (r.enter (.config
        ⟨ConfigReader.addVariable config { name, type, default }, .entries⟩)) := by
  cases default with
  | none =>
    -- The token that is no default is read as the start of the next entry.
    refine .settle fun p ends last line => ?_
    simp only [step_config, ConfigReader.step, ConfigReader.variableDefault, Piece.token, ends.1]
    rfl
  | some s =>
    have keyed : Reads Anything (r.enter (.config ⟨config, .variableDefault { name, type }⟩))
        [.word "default"]
        (r.enter (.config ⟨config, .variableValue { name, type } .opening⟩)) := by
      refine .step (by decide) fun last line => ?_
      simp only [step_config, ConfigReader.step, ConfigReader.variableDefault, Piece.token,
        Piece.literal_word]
      rfl
    have valued : Reads Anything
        (r.enter (.config ⟨config, .variableValue { name, type } .opening⟩))
        (parenthesized (.quoted s))
        (r.enter (.config
          ⟨ConfigReader.addVariable config { name, type, default := some s }, .entries⟩)) :=
      .parenthesized (p := .quoted s)
        (s := r.enter (.config ⟨config, .variableValue { name, type } .value⟩))
        (t := r.enter (.config ⟨config, .variableValue { name, type } (.closing s)⟩))
        (defaults s rfl) (fun _ _ => rfl) (fun _ _ => rfl) fun _ _ => rfl
    exact (keyed.andThen valued).anyway

theorem Variable.Expressible.reads {v : Variable} (expressible : v.Expressible) :
    Reads EndsEntry (r.enter (.config ⟨config, .entries⟩)) v.pieces
      (r.enter (.config ⟨ConfigReader.addVariable config v, .entries⟩)) := by
  obtain ⟨names, types, isType, defaults⟩ := expressible
  obtain ⟨name, type, default⟩ := v
  have keyed : Reads Anything (r.enter (.config ⟨config, .entries⟩)) [.word "variable"]
      (r.enter (.config ⟨config, .variableName⟩)) := by
    refine reads_configKey r config (by decide) fun line => ?_
    simp [ConfigReader.entry]
  have named : Reads Anything (r.enter (.config ⟨config, .variableName⟩)) [.quoted name]
      (r.enter (.config ⟨config, .variableType name⟩)) := .step names fun _ _ => rfl
  have typed : Reads Anything (r.enter (.config ⟨config, .variableType name⟩)) [.quoted type]
      (r.enter (.config ⟨config, .variableDefault { name, type }⟩)) := by
    refine .step types fun last line => ?_
    -- These words are not taken for a type, even in quotes.
    have noKey : ["default", "variable", "header"].contains type = false := by
      simpa using isType
    simp only [step_config, ConfigReader.step, ConfigReader.variableType, Piece.token,
      Piece.kind_quoted, Piece.literal_quoted, noKey]
    rfl
  exact keyed.andThen (named.andThen (typed.andThen
    (reads_variableDefault r config name type defaults)))

theorem reads_headerDefault (name : String) {default : Option String}
    (defaults : ∀ s ∈ default, isQuotable s) :
    Reads EndsEntry (r.enter (.config ⟨config, .headerMark { name }⟩))
      (default.elim [] fun s => .mark .atSign :: .word "default" :: parenthesized (.quoted s))
      (r.enter (.config ⟨ConfigReader.addHeader config { name, default }, .entries⟩)) := by
  cases default with
  | none =>
    refine .settle fun p ends last line => ?_
    simp only [step_config, ConfigReader.step, ConfigReader.headerMark, Piece.token, ends.2]
    rfl
  | some s =>
    have marked : Reads Anything (r.enter (.config ⟨config, .headerMark { name }⟩))
        [.mark .atSign] (r.enter (.config ⟨config, .headerDefault { name }⟩)) :=
      .step (Piece.scannable_mark _) fun _ _ => rfl
    have keyed : Reads Anything (r.enter (.config ⟨config, .headerDefault { name }⟩))
        [.word "default"] (r.enter (.config ⟨config, .headerValue { name } .opening⟩)) := by
      refine .step (by decide) fun last line => ?_
      simp only [step_config, ConfigReader.step, ConfigReader.headerDefault, Piece.token,
        Piece.literal_word]
      rfl
    have valued : Reads Anything (r.enter (.config ⟨config, .headerValue { name } .opening⟩))
        (parenthesized (.quoted s))
        (r.enter (.config
          ⟨ConfigReader.addHeader config { name, default := some s }, .entries⟩)) :=
      .parenthesized (p := .quoted s)
        (s := r.enter (.config ⟨config, .headerValue { name } .value⟩))
        (t := r.enter (.config ⟨config, .headerValue { name } (.closing s)⟩))
        (defaults s rfl) (fun _ _ => rfl) (fun _ _ => rfl) fun _ _ => rfl
    exact (marked.andThen (keyed.andThen valued)).anyway

theorem Header.Expressible.reads {h : Header} (expressible : h.Expressible) :
    Reads EndsEntry (r.enter (.config ⟨config, .entries⟩)) h.pieces
      (r.enter (.config ⟨ConfigReader.addHeader config h, .entries⟩)) := by
  obtain ⟨names, defaults⟩ := expressible
  obtain ⟨name, default⟩ := h
  have keyed : Reads Anything (r.enter (.config ⟨config, .entries⟩)) [.word "header"]
      (r.enter (.config ⟨config, .headerName⟩)) := by
    refine reads_configKey r config (by decide) fun line => ?_
    simp [ConfigReader.entry]
  have named : Reads Anything (r.enter (.config ⟨config, .headerName⟩)) [.quoted name]
      (r.enter (.config ⟨config, .headerMark { name }⟩)) := .step names fun _ _ => rfl
  exact keyed.andThen (named.andThen (reads_headerDefault r config name defaults))

theorem Variable.pieces_endsEntry (v : Variable) (rest : List Piece) :
    EndsEntry (v.pieces ++ rest) :=
  word_endsEntry (by decide) _

theorem Header.pieces_endsEntry (h : Header) (rest : List Piece) : EndsEntry (h.pieces ++ rest) :=
  word_endsEntry (by decide) _

theorem Config.Expressible.reads {config : Config} (expressible : config.Expressible)
    (isTop : r.enclosing = []) :
    Reads Anything r.between config.pieces
      { r.between with document := { r.document with config := some config } } := by
  obtain ⟨eachUrl, quotes, eachVariable, eachHeader⟩ := expressible
  obtain ⟨baseUrls, cors, mock, vars, headers⟩ := config
  have stated : Reads Anything (r.holding none) [.word "config"] (r.enter (.config .start)) :=
    reads_statement r (by decide) (by simp [place?, documentPlace?, holding, isTop])
  have listed := reads_baseUrls r eachUrl quotes
  have shared := (reads_cors r { baseUrls } cors).andThen (reads_mock r { baseUrls, cors } mock)
  have declared : Reads EndsEntry (r.enter (.config ⟨{ baseUrls, cors, mock }, .entries⟩))
      (vars.flatMap Variable.pieces)
      (r.enter (.config ⟨{ baseUrls, cors, mock, vars }, .entries⟩)) :=
    .flatMap (fun vars => r.enter (.config ⟨{ baseUrls, cors, mock, vars }, .entries⟩))
      (fun v rest _ => v.pieces_endsEntry rest) fun _ v found => (eachVariable v found).reads r _
  have headed : Reads EndsEntry (r.enter (.config ⟨{ baseUrls, cors, mock, vars }, .entries⟩))
      (headers.flatMap Header.pieces)
      (r.enter (.config ⟨{ baseUrls, cors, mock, vars, headers }, .entries⟩)) :=
    .flatMap
      (fun headers => r.enter (.config ⟨{ baseUrls, cors, mock, vars, headers }, .entries⟩))
      (fun h rest _ => h.pieces_endsEntry rest) fun _ h found => (eachHeader h found).reads r _
  have inside := ((listed.andThen shared).andThen declared).append headed
    (next_flatMap (fun h rest _ => h.pieces_endsEntry rest) headers)
  have ends (rest : List Piece) : EndsEntry (.mark .closeBrace :: rest) := by
    simp [EndsEntry, Next, Piece.literal, Mark.char]
  exact stated.andThen (.braced (fun _ _ => rfl) inside (fun _ _ => rfl) ends)

end Config

end ApiCatalog
