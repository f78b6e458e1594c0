import ApiCatalog.Proofs.BlockReadings
import ApiCatalog.Proofs.CutDocuments
import ApiCatalog.Proofs.Layout
import Mathlib.Data.List.Chain

/-!
The entries of a config block can change places, as long as the variables keep their order and the
headers keep theirs: the block gives the same config. One pair of neighbours is apart: a variable
with neither type nor default takes the keyword of a `baseUrl`, `cors` or `mock` entry for its type.
-/

set_option autoImplicit false

namespace ApiCatalog

-- A token without its line, on which nothing in a config block depends.
abbrev Content := TokenKind × String

inductive ConfigEntry
  | baseUrl (value : Content)
  | cors (value : Content)
  | mock (value : Content)
  | var (name : Content) (type default : Option Content)
  | header (name : Content) (default : Option Content)
  deriving DecidableEq

namespace ConfigEntry

def key : ConfigEntry → String
  | baseUrl _ => "baseUrl"
  | cors _ => "cors"
  | mock _ => "mock"
  | var _ _ _ => "variable"
  | header _ _ => "header"

def parenthesized (value : Content) : List Content :=
  [(.identifier, "default"), (.openParen, "("), value, (.closeParen, ")")]

-- What stands after the keyword.
def operands : ConfigEntry → List Content
  | baseUrl value | cors value | mock value => [value]
  | var name type default => name :: (type.toList ++ default.elim [] parenthesized)
  | header name default =>
    name :: default.elim [] fun value => (.atSign, "@") :: parenthesized value

def words (e : ConfigEntry) : List Content := (.identifier, e.key) :: e.operands

-- A word that starts an entry or a default value is no type, nor is the end of the block.
def Complete : ConfigEntry → Prop
  | var _ (some type) _ => type.2 ∉ ["default", "variable", "header"] ∧ type.1 ≠ .closeBrace
  | _ => True

instance : DecidablePred Complete
  | var _ (some _) _ => inferInstanceAs (Decidable (_ ∧ _))
  | var _ none _ | baseUrl _ | cors _ | mock _ | header _ _ => .isTrue trivial

def isBare : ConfigEntry → Bool
  | var _ none none => true
  | _ => false

def isSetting (e : ConfigEntry) : Bool := ["baseUrl", "cors", "mock"].contains e.key

def urls? : ConfigEntry → Option (List String)
  | baseUrl value => some (ConfigReader.splitUrls value.2)
  | _ => none

def cors? : ConfigEntry → Option Bool
  | cors value => some (value.2 == "true")
  | _ => none

def mock? : ConfigEntry → Option Bool
  | mock value => some (value.2 == "true")
  | _ => none

def var? : ConfigEntry → Option Variable
  | var name type default =>
    some { name := name.2, type := type.elim "String" Prod.snd, default := default.map Prod.snd }
  | _ => none

def header? : ConfigEntry → Option Header
  | header name default => some { name := name.2, default := default.map Prod.snd }
  | _ => none

end ConfigEntry

-- Of settings that are given more than once the last one counts.
def Config.ofEntries (es : List ConfigEntry) : Config where
  baseUrls := (es.filterMap ConfigEntry.urls?).getLast?.getD []
  cors := (es.filterMap ConfigEntry.cors?).getLast?.getD false
  mock := (es.filterMap ConfigEntry.mock?).getLast?.getD false
  vars := es.filterMap ConfigEntry.var?
  headers := es.filterMap ConfigEntry.header?

namespace ConfigEntry

def block (es : List ConfigEntry) : List Content :=
  (.identifier, "config") :: (.openBrace, "\x7b") ::
    (es.flatMap words ++ [(.closeBrace, "\x7d")])

def Once (es : List ConfigEntry) : Prop :=
  ∀ key ∈ ["baseUrl", "cors", "mock"], es.countP (·.key == key) ≤ 1

def Separated (es : List ConfigEntry) : Prop :=
  es.IsChain fun e next => ¬(e.isBare ∧ next.isSetting)

structure Reordered (es es' : List ConfigEntry) : Prop where
  perm : es.Perm es'
  vars : es.filter (·.key == "variable") = es'.filter (·.key == "variable")
  headers : es.filter (·.key == "header") = es'.filter (·.key == "header")

end ConfigEntry

-- At the top level of any document the block becomes its config, and nothing else changes.
def Config.ReadFrom (block : List Content) (config : Config) : Prop :=
  ∀ (r : DocumentReader) (last : Nat) (tokens : List Token),
    r.place = .entries → r.enclosing = [] → tokens.map Token.content = block →
      r.run last tokens =
        .ok { r.between with document := { r.document with config := some config } }

section Orders

open ConfigEntry

variable {es es' : List ConfigEntry}

theorem filterMap_eq_of_filter {A : Type} {f : ConfigEntry → Option A} {key : String}
    (keyed : ∀ e a, f e = some a → e.key = key)
    (same : es.filter (·.key == key) = es'.filter (·.key == key)) :
    es.filterMap f = es'.filterMap f := by
  have only (l : List ConfigEntry) : l.filterMap f = (l.filter (·.key == key)).filterMap f := by
    rw [List.filterMap_filter]
    refine List.filterMap_congr fun e _ => ?_
    by_cases isKey : e.key = key
    · simp [isKey]
    · cases given : f e with
      | none => simp
      | some a => exact absurd (keyed e a given) isKey
  rw [only es, only es', same]

theorem filter_eq_of_once {key : String} (once : es.countP (·.key == key) ≤ 1)
    (perm : es.Perm es') : es.filter (·.key == key) = es'.filter (·.key == key) := by
  have permuted := perm.filter (·.key == key)
  rw [List.countP_eq_length_filter] at once
  generalize es.filter (·.key == key) = first at once permuted
  cases first with
  | nil => exact (List.nil_perm.1 permuted).symm
  | cons e others =>
    obtain rfl : others = [] := by simpa using once
    exact List.singleton_perm.1 permuted

theorem Config.ofEntries_reordered (once : Once es) (reordered : Reordered es es') :
    Config.ofEntries es' = Config.ofEntries es := by
  have setting (key : String) (isSetting : key ∈ ["baseUrl", "cors", "mock"]) :=
    filter_eq_of_once (once key isSetting) reordered.perm
  have urls : es.filterMap urls? = es'.filterMap urls? :=
    filterMap_eq_of_filter (by intro e; cases e <;> simp [urls?, key])
      (setting "baseUrl" (by decide))
  have cors : es.filterMap cors? = es'.filterMap cors? :=
    filterMap_eq_of_filter (by intro e; cases e <;> simp [cors?, key]) (setting "cors" (by decide))
  have mock : es.filterMap mock? = es'.filterMap mock? :=
    filterMap_eq_of_filter (by intro e; cases e <;> simp [mock?, key]) (setting "mock" (by decide))
  have vars : es.filterMap var? = es'.filterMap var? :=
    filterMap_eq_of_filter (by intro e; cases e <;> simp [var?, key]) reordered.vars
  have headers : es.filterMap header? = es'.filterMap header? :=
    filterMap_eq_of_filter (by intro e; cases e <;> simp [header?, key]) reordered.headers
  simp only [Config.ofEntries, urls, cors, mock, vars, headers]

end Orders

namespace ConfigReader

-- The config of the block and what follows it.
def readBlock? (r : ConfigReader) : List Content → Option (Config × List Content)
  | [] => none
  | (kind, literal) :: rest =>
    match r.step ⟨kind, literal, 0⟩ with
    | .ok (.reading r) => r.readBlock? rest
    | .ok (.finished config) => some (config, rest)
    | .error _ => none

-- The types of the variables so far, with that of one whose default value is still open.
def types (r : ConfigReader) : List String :=
  r.config.vars.map Variable.type ++ match r.place with
    | .variableDefault v | .variableValue v _ => [v.type]
    | _ => []

end ConfigReader

def Progress.types : Progress ConfigReader Config → List String
  | .reading r => r.types
  | .finished config => config.vars.map Variable.type

namespace ConfigReader

theorem entry_types (config : Config) (t : Token) :
    (entry config t).types = config.vars.map Variable.type := by
  unfold entry
  split
  · rfl
  · split <;> simp [Progress.types, types]

theorem variableDefault_types (config : Config) (v : Variable) (t : Token) :
    (variableDefault config v t).types = config.vars.map Variable.type ++ [v.type] := by
  unfold variableDefault
  split
  · rfl
  · simp [entry_types, addVariable]

theorem step_types {r : ConfigReader} {t : Token} {p : Progress ConfigReader Config}
    (stepped : r.step t = .ok p) : r.types <+: p.types := by
  obtain ⟨config, place⟩ := r
  cases place with
  | opening =>
    obtain ⟨-, rfl⟩ := Token.of_require stepped
    exact List.prefix_rfl
  | entries =>
    cases stepped
    simp [entry_types, types]
  | baseUrl | cors | mock | variableName | headerName =>
    cases stepped
    exact List.prefix_rfl
  | variableType name =>
    cases stepped
    unfold variableType
    split
    · simp [variableDefault_types, types]
    · simp [Progress.types, types]
  | variableDefault v =>
    cases stepped
    simp [variableDefault_types, types]
  | headerMark h =>
    cases stepped
    unfold headerMark
    split
    · exact List.prefix_rfl
    · simp [entry_types, addHeader, types]
  | headerDefault h =>
    cases stepped
    unfold headerDefault
    split
    · exact List.prefix_rfl
    · simp [entry_types, addHeader, types]
  | variableValue v place =>
    obtain ⟨value, -, rfl⟩ := map_eq_ok.1 stepped
    cases value <;> simp [Progress.types, types, addVariable]
  | headerValue h place =>
    obtain ⟨value, -, rfl⟩ := map_eq_ok.1 stepped
    cases value <;> simp [Progress.types, types, addHeader]

theorem readBlock?_types {r : ConfigReader} {words rest : List Content} {config : Config}
    (read : r.readBlock? words = some (config, rest)) :
    r.types <+: config.vars.map Variable.type := by
  induction words generalizing r with
  | nil => cases read
  | cons word others ih =>
    unfold readBlock? at read
    split at read
    next next stepped => exact (step_types stepped).trans (ih read)
    next final stepped =>
      cases read
      exact step_types stepped
    next => cases read

theorem kind_of_finished {r : ConfigReader} {t : Token} {config : Config}
    (finished : r.step t = .ok (.finished config)) : t.kind = .closeBrace := by
  by_contra noBrace
  have turn := step_turn (absurd · noBrace) finished
  rw [open_of_finished finished] at turn
  cases turn with
  | leave brace closes => exact noBrace brace

theorem readBlock?_congr {r s : ConfigReader} {kind : TokenKind} {literal : String}
    (same : r.step ⟨kind, literal, 0⟩ = s.step ⟨kind, literal, 0⟩) (rest : List Content) :
    r.readBlock? ((kind, literal) :: rest) = s.readBlock? ((kind, literal) :: rest) := by
  simp only [readBlock?, same]

theorem readBlock?_rest {r : ConfigReader} (words : List Content) {rest : List Content}
    {close : Content} {config : Config} (free : ∀ word ∈ words, word.1 ≠ .closeBrace)
    (read : r.readBlock? (words ++ [close]) = some (config, rest)) : rest = [] := by
  induction words generalizing r with
  | nil =>
    simp only [List.nil_append, readBlock?] at read
    split at read
    · cases read
    · cases read
      rfl
    · cases read
  | cons word others ih =>
    obtain ⟨noBrace, later⟩ := List.forall_mem_cons.1 free
    simp only [List.cons_append, readBlock?] at read
    split at read
    next => exact ih later read
    next final stepped => exact absurd (kind_of_finished stepped) noBrace
    next => cases read

end ConfigReader

namespace ConfigEntry

def add (config : Config) : ConfigEntry → Config
  | baseUrl value => { config with baseUrls := ConfigReader.splitUrls value.2 }
  | cors value => { config with cors := value.2 == "true" }
  | mock value => { config with mock := value.2 == "true" }
  | var name type default => ConfigReader.addVariable config
      { name := name.2, type := type.elim "String" Prod.snd, default := default.map Prod.snd }
  | header name default =>
    ConfigReader.addHeader config { name := name.2, default := default.map Prod.snd }

-- What directly after an entry is taken for no part of it.
def Admits (next : Content) : ConfigEntry → Prop
  | var _ none none =>
    next.2 ≠ "default" ∧ (next.2 = "variable" ∨ next.2 = "header" ∨ next.1 = .closeBrace)
  | var _ (some _) none => next.2 ≠ "default"
  | header _ none => next.1 ≠ .atSign
  | _ => True

theorem add_ofEntries (es : List ConfigEntry) (e : ConfigEntry) :
    add (Config.ofEntries es) e = Config.ofEntries (es ++ [e]) := by
  cases e <;>
    simp [Config.ofEntries, add, ConfigReader.addVariable, ConfigReader.addHeader, urls?, cors?,
      mock?, var?, header?]

theorem readBlock?_entry {e : ConfigEntry} (complete : e.Complete) (config : Config)
    {kind : TokenKind} {literal : String} {rest : List Content}
    (admits : e.Admits (kind, literal)) :
    ConfigReader.readBlock? ⟨config, .entries⟩ (e.words ++ (kind, literal) :: rest) =
      ConfigReader.readBlock? ⟨e.add config, .entries⟩ ((kind, literal) :: rest) := by
  cases e with
  | baseUrl value | cors value | mock value => rfl
  | header name default =>
    cases default with
    | some value => rfl
    | none =>
      have noMark : kind ≠ .atSign := admits
      apply ConfigReader.readBlock?_congr (r := ⟨config, .headerMark { name := name.2 }⟩)
      simp [ConfigReader.step, ConfigReader.headerMark, noMark, add]
  | var name type default =>
    cases type with
    | none =>
      cases default with
      | some value => rfl
      | none =>
        obtain ⟨noDefault, isNext⟩ := admits
        apply ConfigReader.readBlock?_congr (r := ⟨config, .variableType name.2⟩)
        rcases isNext with rfl | rfl | rfl <;>
          simp_all [ConfigReader.step, ConfigReader.variableType, ConfigReader.variableDefault, add]
    | some type =>
      have typed (rest : List Content) :
          ConfigReader.readBlock? ⟨config, .variableType name.2⟩ (type :: rest) =
            ConfigReader.readBlock?
              ⟨config, .variableDefault { name := name.2, type := type.2 }⟩ rest := by
        obtain ⟨noKey, noBrace⟩ := complete
        simp_all [ConfigReader.readBlock?, ConfigReader.step, ConfigReader.variableType]
      refine (typed _).trans ?_
      cases default with
      | some value => rfl
      | none =>
        have noDefault : literal ≠ "default" := admits
        apply ConfigReader.readBlock?_congr
        simp [ConfigReader.step, ConfigReader.variableDefault, noDefault, add]

theorem admits_key {e next : ConfigEntry} (apart : ¬(e.isBare ∧ next.isSetting)) :
    e.Admits (.identifier, next.key) := by
  have noDefault : next.key ≠ "default" := by cases next <;> simp [key]
  cases e with
  | baseUrl | cors | mock => trivial
  | header name default => cases default <;> simp [Admits]
  | var name type default =>
    cases type with
    | none =>
      cases default with
      | some value => trivial
      | none => cases next <;> simp_all [Admits, isBare, isSetting, key]
    | some type =>
      cases default with
      | some value => trivial
      | none => exact noDefault

theorem admits_close (e : ConfigEntry) : e.Admits (.closeBrace, "\x7d") := by
  cases e with
  | baseUrl | cors | mock => trivial
  | header name default => cases default <;> simp [Admits]
  | var name type default => cases type <;> cases default <;> simp [Admits]

variable {es : List ConfigEntry}

theorem readBlock?_entries (complete : ∀ e ∈ es, e.Complete) (separated : Separated es)
    (done : List ConfigEntry) (rest : List Content) :
    ConfigReader.readBlock? ⟨Config.ofEntries done, .entries⟩
        (es.flatMap words ++ (.closeBrace, "\x7d") :: rest) =
      some (Config.ofEntries (done ++ es), rest) := by
  induction es generalizing done with
  | nil => simp [ConfigReader.readBlock?, ConfigReader.step, ConfigReader.entry]
  | cons e es ih =>
    obtain ⟨first, later⟩ := List.forall_mem_cons.1 complete
    have entered : ConfigReader.readBlock? ⟨Config.ofEntries done, .entries⟩
        (e.words ++ (es.flatMap words ++ (.closeBrace, "\x7d") :: rest)) =
        ConfigReader.readBlock? ⟨e.add (Config.ofEntries done), .entries⟩
          (es.flatMap words ++ (.closeBrace, "\x7d") :: rest) := by
      cases es with
      | nil => exact readBlock?_entry first _ e.admits_close
      | cons next es =>
        exact readBlock?_entry first _ (admits_key (List.isChain_cons_cons.1 separated).1)
    rw [List.flatMap_cons, List.append_assoc, entered, add_ofEntries, ih later separated.tail,
      List.append_assoc]
    rfl

theorem vars_ne_of_bare {e next : ConfigEntry} {done : List ConfigEntry} {rest left : List Content}
    {config : Config} (bare : e.isBare) (setting : next.isSetting)
    (read : ConfigReader.readBlock? ⟨Config.ofEntries done, .entries⟩
      ((e :: next :: es).flatMap words ++ rest) = some (config, left)) :
    config.vars ≠ (Config.ofEntries (done ++ e :: next :: es)).vars := by
  obtain ⟨name, rfl⟩ : ∃ name, e = var name none none := by
    unfold isBare at bare
    split at bare
    · exact ⟨_, rfl⟩
    · cases bare
  have noKey : next.key ∉ ["default", "variable", "header", "String"] := by
    cases next <;> simp_all [isSetting, key]
  have typed : (ConfigReader.mk (Config.ofEntries done)
      (.variableDefault { name := name.2, type := next.key })).readBlock?
        (next.operands ++ (es.flatMap words ++ rest)) = some (config, left) := by
    rw [← read]
    simp_all [words, operands, key, ConfigReader.readBlock?, ConfigReader.step, ConfigReader.entry,
      ConfigReader.variableType]
  have kept := ConfigReader.readBlock?_types typed
  intro same
  simp [same, ConfigReader.types, Config.ofEntries, var?] at kept
  simp_all

theorem vars_ne_of_not_separated {done : List ConfigEntry} {rest left : List Content}
    {config : Config} (complete : ∀ e ∈ es, e.Complete) (crowded : ¬Separated es)
    (read : ConfigReader.readBlock? ⟨Config.ofEntries done, .entries⟩
      (es.flatMap words ++ rest) = some (config, left)) :
    config.vars ≠ (Config.ofEntries (done ++ es)).vars := by
  induction es generalizing done with
  | nil => exact absurd List.isChain_nil crowded
  | cons e es ih =>
    obtain ⟨first, later⟩ := List.forall_mem_cons.1 complete
    cases es with
    | nil => exact absurd (List.isChain_singleton e) crowded
    | cons next es =>
      by_cases apart : ¬(e.isBare ∧ next.isSetting)
      · have crowded' : ¬Separated (next :: es) :=
          fun separated => crowded (List.isChain_cons_cons.2 ⟨apart, separated⟩)
        rw [List.flatMap_cons, List.append_assoc] at read
        have entered := (readBlock?_entry first _ (admits_key apart)).symm.trans read
        rw [add_ofEntries] at entered
        simpa using ih later crowded' entered
      · obtain ⟨bare, setting⟩ := not_not.1 apart
        exact vars_ne_of_bare bare setting read

end ConfigEntry

section Documents

variable {reader : ConfigReader} {tokens : List Token}

theorem DocumentReader.run_of_readBlock? (r : DocumentReader) (last : Nat) {config : Config}
    (read : reader.readBlock? (tokens.map Token.content) = some (config, [])) :
    (r.enter (.config reader)).run last tokens =
      .ok { r.between with document := { r.document with config := some config } } := by
  induction tokens generalizing reader last with
  | nil => cases read
  | cons t others ih =>
    obtain ⟨kind, literal, line⟩ := t
    simp only [List.map_cons, Token.content, ConfigReader.readBlock?] at read
    simp only [run, step_config]
    split at read
    next further stepped =>
      rw [eq_ok_of_mapError_eq (ConfigReader.step_alike 0 line reader) stepped]
      exact ih line read
    next final stepped =>
      rw [eq_ok_of_mapError_eq (ConfigReader.step_alike 0 line reader) stepped]
      obtain ⟨rfl, rest⟩ := Prod.mk.inj (Option.some.inj read)
      obtain rfl : others = [] := by simpa using rest
      rfl
    next => cases read

-- The reader is back between the statements, so the block has come to an end.
theorem DocumentReader.readBlock?_of_run {r s : DocumentReader} {last : Nat}
    (ran : (r.enter (.config reader)).run last tokens = .ok s) (between : s.place = .entries) :
    ∃ config left, reader.readBlock? (tokens.map Token.content) = some (config, left) := by
  induction tokens generalizing reader last with
  | nil =>
    cases ran
    cases between
  | cons t others ih =>
    obtain ⟨kind, literal, line⟩ := t
    obtain ⟨next, stepped, further⟩ := bind_eq_ok.1 ran
    rw [step_config] at stepped
    obtain ⟨progress, read, rfl⟩ := map_eq_ok.1 stepped
    have read' := eq_ok_of_mapError_eq (ConfigReader.step_alike line 0 reader) read
    simp only [List.map_cons, Token.content, ConfigReader.readBlock?, read']
    cases progress with
    | reading reader' => exact ih further
    | finished config => exact ⟨config, _, rfl⟩

theorem DocumentReader.run_config {r : DocumentReader} (between : r.place = .entries)
    (isTop : r.enclosing = []) (last : Nat) {words : List Content}
    (spelled : tokens.map Token.content = (.identifier, "config") :: words) :
    ∃ line others, others.map Token.content = words ∧
      r.run last tokens = (r.enter (.config .start)).run line others := by
  obtain ⟨⟨kind, literal, line⟩, others, rfl, isKey, rest⟩ := List.map_eq_cons_iff.1 spelled
  cases isKey
  refine ⟨line, others, rest, ?_⟩
  have entered : r.step last ⟨.identifier, "config", line⟩ = .ok (r.enter (.config .start)) := by
    simp [step, between, entry, place?, isTop, documentPlace?]
  rw [run, entered]
  rfl

-- Without another closing brace the block ends nowhere before its last token.
theorem Config.ReadFrom.readBlock? {config : Config} (words : List Content) {close : Content}
    (free : ∀ word ∈ words, word.1 ≠ .closeBrace)
    (read : ReadFrom ((.identifier, "config") :: (words ++ [close])) config) :
    ConfigReader.start.readBlock? (words ++ [close]) = some (config, []) := by
  let onOneLine := ((.identifier, "config") :: (words ++ [close])).map fun word : Content =>
    Token.mk word.1 word.2 0
  have spelled : onOneLine.map Token.content = (.identifier, "config") :: (words ++ [close]) := by
    simp [onOneLine, Token.content, Function.comp_def]
  have ran := read .start 1 onOneLine rfl rfl spelled
  obtain ⟨line, others, spelled', entered⟩ :=
    DocumentReader.run_config (r := .start) rfl rfl 1 spelled
  rw [entered] at ran
  obtain ⟨config', left, inside⟩ := DocumentReader.readBlock?_of_run ran rfl
  obtain rfl : left = [] := ConfigReader.readBlock?_rest words free (spelled' ▸ inside)
  have ran' := (DocumentReader.run_of_readBlock? .start line inside).symm.trans ran
  obtain rfl : config' = config := by simpa using ran'
  rw [← spelled', inside]

end Documents

namespace ConfigEntry

variable {es es' : List ConfigEntry}

theorem readFrom_block (complete : ∀ e ∈ es, e.Complete) (separated : Separated es) :
    Config.ReadFrom (block es) (Config.ofEntries es) := by
  intro r last tokens between isTop spelled
  obtain ⟨line, others, spelled', ran⟩ := DocumentReader.run_config between isTop last spelled
  rw [ran]
  apply DocumentReader.run_of_readBlock?
  rw [spelled']
  exact readBlock?_entries complete separated [] []

theorem separated_of_readFrom (complete : ∀ e ∈ es, e.Complete)
    (free : ∀ e ∈ es, ∀ word ∈ e.words, word.1 ≠ .closeBrace)
    (read : Config.ReadFrom (block es) (Config.ofEntries es)) : Separated es := by
  by_contra crowded
  have free' : ∀ word ∈ (.openBrace, "\x7b") :: es.flatMap words, word.1 ≠ .closeBrace := by
    refine List.forall_mem_cons.2 ⟨by decide, fun word found => ?_⟩
    obtain ⟨e, member, isWord⟩ := List.mem_flatMap.1 found
    exact free e member word isWord
  have read' : ConfigReader.readBlock? ⟨Config.ofEntries [], .entries⟩
      (es.flatMap words ++ [(.closeBrace, "\x7d")]) = some (Config.ofEntries es, []) :=
    read.readBlock? ((.openBrace, "\x7b") :: es.flatMap words) free'
  exact vars_ne_of_not_separated complete crowded read' rfl

/-- The entries of a block can change places: the block is read as the same config in every order
that leaves the variables and the headers in theirs, unless a variable that has neither type nor
default comes to stand before a `baseUrl`, `cors` or `mock` entry. -/
theorem readFrom_reordered (complete : ∀ e ∈ es, e.Complete) (once : Once es)
    (reordered : Reordered es es') :
    (Separated es' → Config.ReadFrom (block es') (Config.ofEntries es)) ∧
      ((∀ e ∈ es, ∀ word ∈ e.words, word.1 ≠ .closeBrace) →
        Config.ReadFrom (block es') (Config.ofEntries es) → Separated es') := by
  have moved {P : ConfigEntry → Prop} (each : ∀ e ∈ es, P e) : ∀ e ∈ es', P e :=
    fun e found => each e (reordered.perm.mem_iff.2 found)
  rw [← Config.ofEntries_reordered once reordered]
  exact ⟨readFrom_block (moved complete),
    fun free => separated_of_readFrom (moved complete) (moved free)⟩

def sampleEntries : List ConfigEntry :=
  [.cors (.identifier, "true"), .baseUrl (.text, "https://a.test, https://b.test"),
    .var (.identifier, "token") none none, .header (.text, "X-Key") (some (.text, "none")),
    .var (.identifier, "limit") (some (.identifier, "Number")) (some (.number, "5"))]

-- The bare variable stands before a header, and the settings come last.
def movedEntries : List ConfigEntry :=
  [.var (.identifier, "token") none none, .header (.text, "X-Key") (some (.text, "none")),
    .var (.identifier, "limit") (some (.identifier, "Number")) (some (.number, "5")),
    .baseUrl (.text, "https://a.test, https://b.test"), .cors (.identifier, "true")]

def movedText : String :=
  "config \x7b\n  variable token\n  header \"X-Key\" @default(\"none\")\n" ++
    "  variable limit Number default(5)\n  baseUrl \"https://a.test, https://b.test\"\n" ++
    "  cors true\n\x7d\n"

theorem readFrom_reordered_moved :
    (∀ e ∈ sampleEntries, e.Complete) ∧ Once sampleEntries ∧
      Reordered sampleEntries movedEntries ∧ Separated movedEntries ∧
      (TokenStream.ofText movedText).tokens.map Token.content = block movedEntries ∧
      Document.ofText movedText = .ok { config := some (Config.ofEntries sampleEntries) } := by
  have complete : ∀ e ∈ sampleEntries, e.Complete := by decide
  have once : Once sampleEntries := by unfold Once; decide
  have reordered : Reordered sampleEntries movedEntries := ⟨by decide, by decide, by decide⟩
  have separated : Separated movedEntries := by unfold Separated; decide
  have spelled : (TokenStream.ofText movedText).tokens.map Token.content = block movedEntries := by
    decide +kernel
  have read := (readFrom_reordered complete once reordered).1 separated .start 1 _ rfl rfl spelled
  refine ⟨complete, once, reordered, separated, spelled, ?_⟩
  rw [Document.ofText, Document.ofTokens, read]
  rfl

def bareEntries : List ConfigEntry :=
  [.cors (.identifier, "true"), .var (.identifier, "token") none none]

-- In the other order the variable takes `cors` for its type, and what was its value is skipped.
theorem not_readFrom_bare :
    (∀ e ∈ bareEntries, e.Complete) ∧ Once bareEntries ∧
      Reordered bareEntries bareEntries.reverse ∧
      Config.ReadFrom (block bareEntries) (Config.ofEntries bareEntries) ∧
      ¬Config.ReadFrom (block bareEntries.reverse) (Config.ofEntries bareEntries) ∧
      (TokenStream.ofText "config \x7b variable token cors true \x7d").tokens.map Token.content =
        block bareEntries.reverse ∧
      ∃ d, Document.ofText "config \x7b variable token cors true \x7d" = .ok d ∧
        d.config = some { vars := [{ name := "token", type := "cors" }] } := by
  have complete : ∀ e ∈ bareEntries, e.Complete := by decide
  have spelled : (TokenStream.ofText "config \x7b variable token cors true \x7d").tokens.map
      Token.content = block bareEntries.reverse := by
    decide +kernel
  have read : ∃ d ∈ (Document.ofText "config \x7b variable token cors true \x7d").toOption,
      d.config = some { vars := [{ name := "token", type := "cors" }] } := by
    decide +kernel
  obtain ⟨d, member, typed⟩ := read
  have read := eq_ok_of_mem member
  refine ⟨complete, by unfold Once; decide, ⟨by decide, by decide, by decide⟩,
    readFrom_block complete (by unfold Separated; decide), fun same => ?_, spelled, d, read, typed⟩
  have ran := same .start 1 _ rfl rfl spelled
  rw [Document.ofText, Document.ofTokens, ran] at read
  cases read
  exact absurd typed (by decide)

end ConfigEntry

end ApiCatalog
