import ApiCatalog.Proofs.PrintedRuns

/-!
The plain tables that a check and a list of endpoints print. Cells are free texts, joined as they
are: sources and messages of imports, and paths and names of endpoints. A table has a line for each
of them exactly if none of these texts holds a tab or a line feed.
-/

set_option autoImplicit false

namespace ApiCatalog

theorem Document.isCell_id {d : Document} {e : Endpoint} (found : e ∈ d.endpoints) :
    IsCell e.id := by
  obtain ⟨i, held, rfl⟩ := List.mem_mapIdx.1 found
  have label (kind : EndpointKind) : IsCell kind.label := by cases kind <;> decide
  exact ((label _).append (by decide : IsCell "-")).append (isCell_toString _)

def startsUndashed (text : String) : Bool := text.toList.head?.any (· != '-')

theorem startsUndashed_append {text more : String} (starts : startsUndashed text) :
    startsUndashed (text ++ more) := by
  unfold startsUndashed at starts ⊢
  rw [String.toList_append]
  cases spelled : text.toList with
  | nil => simp [spelled] at starts
  | cons c rest => simpa [spelled] using starts

-- Every message starts with words of its own, so none is the dash that stands for no message.
section Messages

theorem startsUndashed_append_append {text more further : String} (starts : startsUndashed text) :
    startsUndashed (text ++ more ++ further) :=
  startsUndashed_append (startsUndashed_append starts)

theorem SpecError.startsUndashed_message (explain : String → List Issue → String)
    (e : SpecError) : startsUndashed (e.message explain) := by
  cases e with
  | invalidJson | malformed | rejected | fileNotFound | emptyFile =>
    exact startsUndashed_append rfl
  | undecodable | notObject => exact startsUndashed_append_append rfl
  | status | unreachable | unreadable | notContainer =>
    exact startsUndashed_append (startsUndashed_append_append rfl)
  | missingKey | badIndex => exact startsUndashed_append_append (startsUndashed_append_append rfl)

theorem UnexpectedToken.startsUndashed_message (e : UnexpectedToken) :
    startsUndashed e.message :=
  startsUndashed_append (startsUndashed_append_append (startsUndashed_append_append rfl))

theorem DocumentError.startsUndashed_message (e : DocumentError) : startsUndashed e.message := by
  cases e with
  | unreadable path e => exact startsUndashed_append (startsUndashed_append_append rfl)
  | malformed e => exact e.startsUndashed_message

theorem SkipReason.startsUndashed_ofDocumentError (path : PathName) (e : DocumentError) :
    startsUndashed (ofDocumentError path e).message := by
  cases e with
  | unreadable path e => exact DocumentError.startsUndashed_message _
  | malformed e => exact startsUndashed_append (startsUndashed_append_append rfl)

theorem ImportContext.startsUndashed_ofSpec {c : ImportContext} {skip : String → SkipReason}
    (shown : ∀ detail, (skip detail).message = detail) {result : Except SpecFailure Document}
    {why : SkipReason} (skipped : c.ofSpec skip result = .ok (.skip why)) :
    startsUndashed why.message := by
  unfold ofSpec at skipped
  split at skipped <;> cases skipped
  rw [shown]
  exact SpecError.startsUndashed_message _ _

theorem ImportContext.startsUndashed_skip {c : ImportContext} {importer : PathName}
    {reference : String} {why : SkipReason}
    (skipped : c.examine importer reference = .ok (.skip why)) : startsUndashed why.message := by
  rw [examine_eq, examinePath_eq] at skipped
  split at skipped
  · split at skipped
    · exact startsUndashed_ofSpec (fun _ => rfl) skipped
    · cases skipped
      rfl
  · split at skipped
    · cases skipped
    · cases skipped
      exact startsUndashed_append rfl
    · split_ifs at skipped
      · cases skipped
      · exact startsUndashed_ofSpec (fun _ => rfl) skipped
      · cases skipped
        exact startsUndashed_append rfl

theorem ImportContext.Settles.message_ne_dash {c : ImportContext} {importer : PathName}
    {o : Outcome} (settles : c.Settles importer o.source o.result) : o.message ≠ "-" := by
  have undashed {text : String} (starts : startsUndashed text) : text ≠ "-" := by
    rintro rfl
    cases starts
  unfold Outcome.message
  generalize o.result = result at settles
  cases settles with
  | skipped examined => exact undashed (startsUndashed_skip examined)
  | loaded | read => decide
  | again => exact undashed (startsUndashed_append rfl)
  | refused => exact undashed (SkipReason.startsUndashed_ofDocumentError _ _)

theorem resolveDocument_message_ne_dash {disk : Disk} {externals : Externals} {settings : Settings}
    {root : PathName} {baseDirectory : Option PathName} {document : Document}
    (returned : (resolveDocument disk externals settings root baseDirectory).1 = .ok document) :
    ∀ o ∈ (resolveDocument disk externals settings root baseDirectory).2.outcomes,
      o.message ≠ "-" := by
  obtain ⟨r, -, ends⟩ := Resolution.exists_of_returned (Prod.ext returned rfl)
  have outcomes : (resolveDocument disk externals settings root baseDirectory).2.outcomes =
      r.outcomes := ends.outcomes
  rw [outcomes]
  refine List.forall_mem_append.2 ⟨fun o member => ?_, ?_⟩
  · obtain ⟨parent, -, settles⟩ := r.walk.outcomes_settled o member
    exact settles.message_ne_dash
  · simp [Outcome.ofRoot, Outcome.message]

end Messages

namespace Cli

theorem isCell_orDash {text : Option String} :
    IsCell (orDash text) ↔ ∀ s ∈ text, IsCell s := by
  cases text with
  | none => simp [orDash]; decide
  | some s =>
    by_cases empty : s = ""
    · subst empty
      simp [orDash]
      decide
    · simp [orDash, Option.filter, empty]

theorem isCell_outcomeRow (o : Outcome) :
    (∀ cell ∈ outcomeRow o, IsCell cell) ↔ IsCell o.source ∧ IsCell o.message := by
  have status : IsCell o.status := by
    unfold Outcome.status
    split <;> decide
  have reason : IsCell o.reason := by
    unfold Outcome.reason
    split
    · decide
    · unfold SkipReason.name
      split <;> decide
    · decide
    · decide
  simp [outcomeRow, isCell_orDash, status, reason]

-- What a line of a check says of an import.
def readOutcome? : List String → Option (String × String × String × String)
  | [source, status, reason, message] =>
    some (source, status, reason, if message = "-" then "" else message)
  | _ => none

theorem readOutcome?_outcomeRow {o : Outcome} (noDash : o.message ≠ "-") :
    readOutcome? (outcomeRow o) = some (o.source, o.status, o.reason, o.message) := by
  by_cases empty : o.message = ""
  · simp [outcomeRow, readOutcome?, orDash, Option.filter, empty]
  · simp [outcomeRow, readOutcome?, orDash, Option.filter, empty, noDash]

-- Of what kind endpoints are, and their numbers, is written in cells of their own making.
structure IsTabular (e : Endpoint) : Prop where
  method : ∀ text ∈ e.method, IsCell text
  path : IsCell e.path
  name : ∀ text ∈ e.name, IsCell text
  category : ∀ text ∈ (e.categoryName.filter (· != "")).or e.categoryId, IsCell text

theorem isCell_endpointRow {e : Endpoint} (id : IsCell e.id) :
    (∀ cell ∈ endpointRow e, IsCell cell) ↔ IsTabular e := by
  have kind : IsCell e.kind.name := by cases e.kind <;> decide
  constructor
  · intro clean
    simp only [endpointRow, List.forall_mem_cons, isCell_orDash] at clean
    exact ⟨clean.2.2.1, clean.2.2.2.1, clean.2.2.2.2.1, clean.2.2.2.2.2.1⟩
  · intro tabular
    simp only [endpointRow, List.forall_mem_cons, isCell_orDash]
    exact ⟨id, kind, tabular.method, tabular.path, tabular.name, tabular.category, by simp⟩

theorem isTable_outcomes (outcomes : List Outcome) :
    let text := Console.plainTable ["Source", "Status", "Reason", "Message"]
      (outcomes.map outcomeRow)
    (IsTable text 4 outcomes.length ↔ ∀ o ∈ outcomes, IsCell o.source ∧ IsCell o.message) ∧
      (IsTable text 4 outcomes.length →
        tableOf text = ["Source", "Status", "Reason", "Message"] :: outcomes.map outcomeRow) := by
  intro text
  have even : ∀ row ∈ ["Source", "Status", "Reason", "Message"] :: outcomes.map outcomeRow,
      row.length = 3 + 1 := by
    simp [outcomeRow]
  have table := Console.isTable_plainTable_iff even (by decide)
  rw [List.length_map, List.forall_mem_map] at table
  simpa only [isCell_outcomeRow] using table

theorem isTable_endpoints {endpoints : List Endpoint} (ids : ∀ e ∈ endpoints, IsCell e.id) :
    let text := Console.plainTable ["ID", "Type", "Method", "Path", "Name", "Category"]
      (endpoints.map endpointRow)
    (IsTable text 6 endpoints.length ↔ ∀ e ∈ endpoints, IsTabular e) ∧
      (IsTable text 6 endpoints.length → tableOf text =
        ["ID", "Type", "Method", "Path", "Name", "Category"] :: endpoints.map endpointRow) := by
  intro text
  have even : ∀ row ∈ ["ID", "Type", "Method", "Path", "Name", "Category"] ::
      endpoints.map endpointRow, row.length = 5 + 1 := by
    simp [endpointRow]
  have table := Console.isTable_plainTable_iff even (by decide)
  rw [List.length_map, List.forall_mem_map] at table
  have rows : (∀ e ∈ endpoints, ∀ cell ∈ endpointRow e, IsCell cell) ↔
      ∀ e ∈ endpoints, IsTabular e :=
    forall₂_congr fun e found => isCell_endpointRow (ids e found)
  rwa [rows] at table

/-- A plain check and a plain list of endpoints print a header and a line for each import or
endpoint, in four and in six cells, exactly if none of the texts in them holds a tab or a line feed;
what is printed can then be read back. -/
theorem run_plain_isTable_iff {w : Surroundings} {arguments : List String} {i : Invocation}
    (read : Invocation.read w.parser arguments = .ok i) (plain : i.options.has "--plain")
    (noJson : i.options.has "--json" = false) (succeeds : (run w arguments).1 = .success) :
    let stdout := (run w arguments).2.stdout
    (∀ strict, Command.read w.parser i = .ok (.check strict) →
      ∃ settings document, i.settings w = .ok settings ∧
        (w.resolution settings).1 = .ok document ∧
        let outcomes := (w.resolution settings).2.outcomes
        (IsTable stdout 4 outcomes.length ↔
          ∀ o ∈ outcomes, IsCell o.source ∧ IsCell o.message) ∧
        (IsTable stdout 4 outcomes.length →
          (tableOf stdout).head? = some ["Source", "Status", "Reason", "Message"] ∧
          (tableOf stdout).tail.map readOutcome? =
            outcomes.map fun o => some (o.source, o.status, o.reason, o.message))) ∧
    ∀ kind, Command.read w.parser i = .ok (.endpoints kind) →
      ∃ settings document, i.settings w = .ok settings ∧
        (w.resolution settings).1 = .ok document ∧
        let shown := document.endpoints.filter fun e => kind.all (· == e.kind)
        (IsTable stdout 6 shown.length ↔ ∀ e ∈ shown, IsTabular e) ∧
        (IsTable stdout 6 shown.length →
          tableOf stdout =
            ["ID", "Type", "Method", "Path", "Name", "Category"] :: shown.map endpointRow) := by
  obtain ⟨console, made⟩ := exists_console read succeeds
  have format := Invocation.plain_of_console made plain noJson
  intro stdout
  constructor
  · intro strict isCheck
    obtain ⟨settings, document, settled, resolved, written⟩ :=
      stdout_of_success read isCheck made (fun _ => rfl) (writes_runCheck format strict) succeeds
    obtain ⟨shape, content⟩ := isTable_outcomes (w.resolution settings).2.outcomes
    rw [← written] at shape content
    refine ⟨settings, document, settled, resolved, shape, fun isTable => ?_⟩
    have noDashes := resolveDocument_message_ne_dash resolved
    rw [content isTable]
    refine ⟨rfl, ?_⟩
    rw [List.tail_cons, List.map_map]
    exact List.map_congr_left fun o member => readOutcome?_outcomeRow (noDashes o member)
  · intro kind isEndpoints
    obtain ⟨settings, document, settled, resolved, written⟩ :=
      stdout_of_success read isEndpoints made (fun _ => rfl)
        (fun _ => writes_put (Console.table_plain format _ _ _ _)) succeeds
    have ids : ∀ e ∈ document.endpoints.filter fun e => kind.all (· == e.kind), IsCell e.id :=
      fun e found => Document.isCell_id (List.mem_filter.1 found).1
    obtain ⟨shape, content⟩ := isTable_endpoints ids
    have written : stdout = Console.plainTable
        ["ID", "Type", "Method", "Path", "Name", "Category"]
        ((document.endpoints.filter fun e => kind.all (· == e.kind)).map endpointRow) := written
    rw [← written] at shape content
    exact ⟨settings, document, settled, resolved, shape, content⟩

-- A project of one description, which imports a file that is not there.
def lonely (text : String) : Surroundings :=
  .standard { entries := [(["main.rqc"], asciiFile text)] }

def lonelySettings : Settings := { rootFile := "main.rqc" }

def lonelyContext (text : String) : ImportContext :=
  .ofRoot (lonely text).disk (lonely text).externals lonelySettings lonelySettings.root none

def lonelyOutcomes (text reference : String) : List Outcome :=
  [⟨reference, some lonelySettings.root,
    .skipped (.notFound ((lonelyContext text).pathOf lonelySettings.root reference))⟩,
   ⟨lonelySettings.root.toText, none, .loaded⟩]

def plainOptions : List RunOption := [.plain, .root "main.rqc"]

def plainly (command : String) (rest : List String) : List String :=
  plainOptions.flatMap RunOption.words ++ command :: rest

def plainInvocation (command : String) (rest : List String) : Invocation :=
  ⟨argumentsOf plainOptions (command :: rest), command, rest⟩

def checkLines (outcomes : List Outcome) : List String :=
  (["Source", "Status", "Reason", "Message"] :: outcomes.map outcomeRow).map Console.plainRow

def endpointLines (endpoints : List Endpoint) : List String :=
  (["ID", "Type", "Method", "Path", "Name", "Category"] :: endpoints.map endpointRow).map
    Console.plainRow

structure IsLonely (text reference : String) (own : Document) : Prop where
  settled : (lonely text).settings plainOptions = .ok lonelySettings
  parsed : Document.ofFile (lonely text).disk lonelySettings.root = .ok own
  imports : own.imports = [reference]
  isPath : Url.isUrl reference = false
  missing : (lonelyContext text).disk.lookUp
    ((lonelyContext text).pathOf lonelySettings.root reference) = .error .missing
  checked : (checkLines (lonelyOutcomes text reference)).all (lonely text).encodes
  listed : (endpointLines own.endpoints).all (lonely text).encodes

theorem read_plainly (text : String) {command : String}
    (isCommand : command ∈ programSpec.commands) (rest : List String) :
    Invocation.read (lonely text).parser (plainly command rest) =
      .ok (plainInvocation command rest) :=
  Invocation.read_options Parser.laws_standard isCommand plainOptions rest

theorem console_plainly (text command : String) (rest : List String) :
    (plainInvocation command rest).console (lonely text) = .ok {} :=
  Invocation.console_eq.trans rfl

theorem read_listing (text : String) : Command.read (lonely text).parser
    (plainInvocation "inspect" ["endpoints"]) = .ok (.endpoints none) := rfl

theorem Surroundings.takes_rows {w : Surroundings} {console : Console}
    (plain : console.format = .plain) (title : String) {headers : List String}
    {rows : List (List String)}
    (encodable : ((headers :: rows).map Console.plainRow).all w.encodes) :
    w.Takes (console.table w.painter title headers rows) :=
  ⟨_, Console.table_plain plain _ _ _ _, List.all_eq_true.1 encodable⟩

namespace IsLonely

variable {text reference : String} {own : Document} (project : IsLonely text reference own)

include project

theorem settings (command : String) (rest : List String) :
    (plainInvocation command rest).settings (lonely text) = .ok lonelySettings :=
  Invocation.settings_eq.trans project.settled

theorem resolution :
    ((lonely text).resolution lonelySettings).1 = .ok { own with imports := [] } ∧
      ((lonely text).resolution lonelySettings).2.outcomes = lonelyOutcomes text reference := by
  have examined : (lonelyContext text).examine lonelySettings.root reference =
      .ok (.skip (.notFound ((lonelyContext text).pathOf lonelySettings.root reference))) := by
    rw [ImportContext.examine_eq, ImportContext.examinePath_eq, project.isPath, project.missing]
    rfl
  have parsed : Document.ofFile (lonelyContext text).disk lonelySettings.root = .ok own :=
    project.parsed
  have resolved : (lonely text).resolution lonelySettings =
      (lonelyContext text).resolve lonelySettings.root (.start (lonely text).disk) := rfl
  simp only [resolved, ImportContext.resolve, parsed, project.imports,
    ImportContext.follow_skipped examined]
  rw [ImportContext.follow]
  exact ⟨rfl, rfl⟩

theorem check_success : (run (lonely text) (plainly "check" [])).1 = .success := by
  obtain ⟨resolved, outcomes⟩ := project.resolution
  refine run_success (read_plainly text (by decide) []) rfl (console_plainly text _ _)
    (fun _ => rfl) (project.settings _ _) resolved rfl ?_
  rw [outcomes]
  exact ends_runCheck Painter.laws_standard false (Surroundings.takes_rows rfl _ project.checked)

theorem endpoints_success : (run (lonely text) (plainly "inspect" ["endpoints"])).1 = .success := by
  refine run_success (read_plainly text (by decide) ["endpoints"]) (read_listing text)
    (console_plainly text _ _) (fun _ => rfl) (project.settings _ _) project.resolution.1 rfl
    (ends_put (Surroundings.takes_rows rfl _ ?_))
  simp only [Option.all_none, List.filter_true]
  exact project.listed

theorem check_stdout : (run (lonely text) (plainly "check" [])).2.stdout =
    Console.plainTable ["Source", "Status", "Reason", "Message"]
      ((lonelyOutcomes text reference).map outcomeRow) := by
  obtain ⟨settings, document, settled, -, written⟩ := stdout_of_success
    (read_plainly text (by decide) []) rfl (console_plainly text _ _)
    (fun _ => rfl) (writes_runCheck rfl false) project.check_success
  cases settled.symm.trans (project.settings _ _)
  rw [← project.resolution.2]
  exact written

theorem endpoints_stdout : (run (lonely text) (plainly "inspect" ["endpoints"])).2.stdout =
    Console.plainTable ["ID", "Type", "Method", "Path", "Name", "Category"]
      (own.endpoints.map endpointRow) := by
  obtain ⟨settings, document, settled, resolved, written⟩ := stdout_of_success
    (read_plainly text (by decide) ["endpoints"]) (read_listing text) (console_plainly text _ _)
    (fun _ => rfl) (fun _ => writes_put (Console.table_plain rfl _ _ _ _)) project.endpoints_success
  cases settled.symm.trans (project.settings _ _)
  cases resolved.symm.trans project.resolution.1
  refine written.trans ?_
  simp only [Option.all_none, List.filter_true]
  rfl

end IsLonely

def orderlyText : String :=
  "import \"b.rqc\"\napi \"/x\" \x7b get \x7b name \"first one\" \x7d \x7d\n"

theorem isLonely_orderlyText : ∃ own, IsLonely orderlyText "b.rqc" own ∧
    ({ own with imports := [] } : Document).endpoints.map endpointRow =
      [["api-1", "http", "GET", "/x", "first one", "-"]] := by
  have parsed : ∃ own ∈ (Document.ofFile (lonely orderlyText).disk lonelySettings.root).toOption,
      own.imports = ["b.rqc"] ∧
        own.endpoints.map endpointRow = [["api-1", "http", "GET", "/x", "first one", "-"]] := by
    decide +kernel
  obtain ⟨own, member, imports, rows⟩ := parsed
  refine ⟨own, ⟨eq_ok_of_mem (by decide +kernel), eq_ok_of_mem member, imports, by decide,
    by decide +kernel, by decide +kernel, ?_⟩, rows⟩
  rw [endpointLines, rows]
  decide +kernel

theorem run_plain_isTable_orderly :
    let checked := run (lonely orderlyText) (plainly "check" [])
    let listed := run (lonely orderlyText) (plainly "inspect" ["endpoints"])
    (checked.1 = .success ∧ IsTable checked.2.stdout 4 2 ∧
      (tableOf checked.2.stdout).tail.map readOutcome? =
        [some ("b.rqc", "skipped", "not_found", "Import not found: b.rqc"),
         some ("main.rqc", "loaded", "ok", "")]) ∧
    listed.1 = .success ∧
      tableOf listed.2.stdout = [["ID", "Type", "Method", "Path", "Name", "Category"],
        ["api-1", "http", "GET", "/x", "first one", "-"]] := by
  obtain ⟨own, project, rows⟩ := isLonely_orderlyText
  obtain ⟨resolved, outcomes⟩ := project.resolution
  constructor
  · obtain ⟨settings, document, settled', -, shape, content⟩ :=
      (run_plain_isTable_iff (read_plainly orderlyText (by decide) []) (by decide) (by decide)
        project.check_success).1 false rfl
    cases settled'.symm.trans (project.settings _ _)
    rw [outcomes] at shape content
    have isTable := shape.2 (by decide +kernel)
    exact ⟨project.check_success, isTable, (content isTable).2.trans (by decide +kernel)⟩
  · obtain ⟨settings, document, settled', resolved', shape, content⟩ :=
      (run_plain_isTable_iff (read_plainly orderlyText (by decide) ["endpoints"]) (by decide)
        (by decide) project.endpoints_success).2 none rfl
    cases settled'.symm.trans (project.settings _ _)
    generalize ({ own with imports := [] } : Document) = loaded at resolved rows
    obtain rfl : loaded = document := Except.ok.inj (resolved.symm.trans resolved')
    have whole : loaded.endpoints.filter (fun e => (none : Option EndpointKind).all (· == e.kind)) =
        loaded.endpoints := by simp
    simp only [whole] at shape content
    have cells : ∀ row ∈ loaded.endpoints.map endpointRow, ∀ cell ∈ row, IsCell cell := by
      rw [rows]
      decide
    have isTable := shape.2 fun e found =>
      (isCell_endpointRow (Document.isCell_id found)).1 (List.forall_mem_map.1 cells e found)
    exact ⟨project.endpoints_success, rows ▸ content isTable⟩

-- A tab or a line feed in a name goes into its cell as it is.
def disorderlyText : String :=
  "import \"a\tb.rqc\"\napi \"/x\" \x7b get \x7b name \"first\none\" \x7d \x7d\n"

theorem run_plain_not_isTable :
    let checked := run (lonely disorderlyText) (plainly "check" [])
    let listed := run (lonely disorderlyText) (plainly "inspect" ["endpoints"])
    ∃ document, ((lonely disorderlyText).resolution lonelySettings).1 = .ok document ∧
      (checked.1 = .success ∧
        ((lonely disorderlyText).resolution lonelySettings).2.outcomes.length = 2 ∧
        ¬ IsTable checked.2.stdout 4 2) ∧
      listed.1 = .success ∧ document.endpoints.length = 1 ∧ ¬ IsTable listed.2.stdout 6 1 := by
  have parsed : ∃ own ∈ (Document.ofFile (lonely disorderlyText).disk lonelySettings.root).toOption,
      own.imports = ["a\tb.rqc"] ∧ own.endpoints.map endpointRow =
        [["api-1", "http", "GET", "/x", "first\none", "-"]] := by
    decide +kernel
  obtain ⟨own, member, imports, rows⟩ := parsed
  have listed : (endpointLines own.endpoints).all (lonely disorderlyText).encodes := by
    rw [endpointLines, rows]
    decide +kernel
  have project : IsLonely disorderlyText "a\tb.rqc" own :=
    ⟨eq_ok_of_mem (by decide +kernel), eq_ok_of_mem member, imports, by decide, by decide +kernel,
      by decide +kernel, listed⟩
  obtain ⟨resolved, outcomes⟩ := project.resolution
  refine ⟨_, resolved, ⟨project.check_success, by rw [outcomes]; rfl, ?_⟩,
    project.endpoints_success, ?_, ?_⟩
  · rw [project.check_stdout]
    decide +kernel
  · have counted := congrArg List.length rows
    rwa [List.length_map] at counted
  · rw [project.endpoints_stdout, rows]
    decide +kernel

end Cli

end ApiCatalog
