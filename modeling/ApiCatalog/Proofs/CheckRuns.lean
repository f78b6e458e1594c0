import ApiCatalog.Proofs.CommandRuns
import ApiCatalog.Proofs.ImportFaults
import ApiCatalog.Proofs.StandardPainter
import ApiCatalog.Proofs.StoreRuns

set_option autoImplicit false

namespace ApiCatalog

def ImportContext.Derails (c : ImportContext) (opened : List PathName) : Prop :=
  ∃ d ∈ c.disk.parsed opened, ∃ reference ∈ d.2.imports, c.Unforeseen d.1 reference

section Resolving

variable {disk : Disk} {externals : Externals} {settings : Settings} {root : PathName}
  {baseDirectory : Option PathName}

theorem resolveDocument_of_error {failure : Failure DocumentError}
    (failed : Document.ofFile disk root = .error failure) :
    (resolveDocument disk externals settings root baseDirectory).1 = .error failure := by
  let c := ImportContext.ofRoot disk externals settings root baseDirectory
  have failed : Document.ofFile c.disk root = .error failure := failed
  cases failure <;> simp [resolveDocument, ImportContext.resolve, c, failed]

theorem resolveDocument_cases {own : Document} (readable : Document.ofFile disk root = .ok own) :
    let c := ImportContext.ofRoot disk externals settings root baseDirectory
    let run := resolveDocument disk externals settings root baseDirectory
    (∃ document, run.1 = .ok document) ∧ ¬ c.Derails run.2.opened ∨
      (∃ crash, run.1 = .error (.crashed crash)) ∧ c.Derails run.2.opened := by
  intro c run
  obtain ⟨after, fault, ⟨w⟩⟩ := c.exists_walk root own.imports [c.location root]
  obtain ⟨s, ran, opened, -⟩ := w.resolve_eq readable
  have isParsed : disk.parsed run.2.opened = (root, own) :: disk.parsed w.opened := by
    rw [← Disk.parsed_of_ok readable, ← opened]
    exact congrArg (fun result => disk.parsed result.2.opened) ran
  have result : run.1 = (w.result { own with imports := [] }).mapError .crashed :=
    congrArg Prod.fst ran
  cases fault with
  | none =>
    refine .inl ⟨⟨_, result⟩, ?_⟩
    -- Every import of a run that ends has its outcome, and a crash has none.
    rintro ⟨d, member, reference, isImport, unforeseen⟩
    let r : Resolution c root := ⟨own, readable, after, w⟩
    have opened : disk.parsed r.opened = disk.parsed run.2.opened := by
      rw [isParsed, ← Disk.parsed_of_ok readable]
      rfl
    obtain ⟨o, -, -, -, settles⟩ := r.outcomes_settled d (opened ▸ member) reference isImport
    obtain ⟨step, examined⟩ := settles.examined
    obtain ⟨crash, crashed⟩ := ImportContext.examine_error_iff.2 unforeseen
    cases crashed.symm.trans examined
  | some crash =>
    refine .inr ⟨⟨crash, result⟩, ?_⟩
    have isParsed : c.disk.parsed run.2.opened = (root, own) :: c.disk.parsed w.opened := isParsed
    rw [ImportContext.Derails, isParsed]
    rcases w.exists_crash rfl with
      ⟨reference, isImport, crashed⟩ | ⟨d, inner, reference, isImport, crashed⟩
    · exact ⟨(root, own), List.mem_cons_self, reference, isImport,
        ImportContext.examine_error_iff.1 ⟨crash, crashed⟩⟩
    · exact ⟨d, List.mem_cons_of_mem _ inner, reference, isImport,
        ImportContext.examine_error_iff.1 ⟨crash, crashed⟩⟩

end Resolving

theorem UnexpectedToken.message_isPlain (e : UnexpectedToken) : IsPlain e.message 1 := by
  have line : IsPlain "Line " 0 := ⟨by decide, by decide⟩
  have expected : IsPlain ": expected " 1 := ⟨by decide, by decide⟩
  have got : IsPlain ", got " 0 := ⟨by decide, by decide⟩
  have name (kind : TokenKind) : IsPlain kind.name 0 := by
    cases kind <;> exact ⟨by decide, by decide⟩
  exact ((((line.append (isPlain_toString _)).append expected).append (name _)).append got).append
    (name _)

def Settings.root (settings : Settings) : PathName := .ofText settings.rootFile

namespace Cli

def checkArguments (options : List RunOption) (strict : Bool) : List String :=
  options.flatMap RunOption.words ++ "check" :: if strict then ["--strict"] else []

def Surroundings.resolution (w : Surroundings) (settings : Settings) :
    Except (Failure DocumentError) Document × ImportState :=
  resolveDocument w.disk w.externals settings settings.root none

-- What the code of a check is meant to say of its root.
def rootCode (w : Surroundings) (settings : Settings) (strict : Bool) : ExitCode :=
  match w.disk.readText settings.root with
  | .error _ => .unreadable
  | .ok text =>
    match Document.ofText text with
    | .error _ => .malformed
    | .ok _ =>
      if strict && (w.resolution settings).2.outcomes.any (·.isSkipped) then .failure else .success

def checkCode (w : Surroundings) (options : List RunOption) (strict : Bool) : ExitCode :=
  match w.settings options with
  | .error _ => .failure
  | .ok settings => rootCode w settings strict

/-- What hinders a check that has its console and its settings: a root with a name that no file can
have, an error that cannot be written because its text is taken for markup, an import that crashes,
and a table that cannot be written. -/
inductive Hinders (w : Surroundings) (console : Console) (settings : Settings) : Prop
  | name (e : FileError) (isName : e = .nullInName ∨ e = .strayInName)
      (unread : w.disk.readText settings.root = .error (.file e))
  | message (e : ReadError) (unread : w.disk.readText settings.root = .error e)
      (unwritten : (console.diagnostic w.painter .error
        (DocumentError.unreadable settings.root e).message).isOk = false)
  | imported (own : Document) (readable : Document.ofFile w.disk settings.root = .ok own)
      (derails : (ImportContext.ofRoot w.disk w.externals settings settings.root none).Derails
        (w.resolution settings).2.opened)
  | table (document : Document) (resolved : (w.resolution settings).1 = .ok document)
      (refuses : ¬ w.Takes (outcomeTable w console (w.resolution settings).2.outcomes))

/-- What keeps a check from saying it. The size of the terminal may also be given in digits that are
no number. -/
inductive Hindered (w : Surroundings) (options : List RunOption) : Prop
  | size (crash : Crash) (unmade : w.console options = .error crash)
  | later (console : Console) (made : w.console options = .ok console) (settings : Settings)
      (settled : w.settings options = .ok settings) (hinders : Hinders w console settings)

variable {w : Surroundings} {options : List RunOption} {strict : Bool} {console : Console}
  {settings : Settings}

theorem Hindered.hinders (hindered : Hindered w options) (made : w.console options = .ok console)
    (settled : w.settings options = .ok settings) : Hinders w console settings := by
  cases hindered with
  | size crash unmade => cases made.symm.trans unmade
  | later console' made' settings' settled' hinders =>
    cases made.symm.trans made'
    cases settled.symm.trans settled'
    exact hinders

section Openings

-- `delta` opens the functions that look at settings or files: their equations are slow to make.

theorem settle_of_ok {i : Invocation} (settled : i.settings w = .ok settings) :
    settle w console i = pure settings := by
  delta settle
  rw [settled]

theorem settle_of_crashed {i : Invocation} {crash : Crash}
    (crashed : i.settings w = .error (.crashed crash)) : settle w console i = throw .crashed := by
  delta settle
  rw [crashed]

theorem settle_of_reported {i : Invocation} {e : SettingsError}
    (unsettled : i.settings w = .error (.reported e)) :
    settle w console i = Run.failWith w console .failure (e.message w.externals.explain) := by
  delta settle
  rw [unsettled]

theorem checkCode_of_unsettled {failure : Failure SettingsError}
    (unsettled : w.settings options = .error failure) :
    checkCode w options strict = .failure := by
  delta checkCode
  rw [unsettled]

variable (settled : w.settings options = .ok settings)

include settled

theorem checkCode_of_settled : checkCode w options strict = rootCode w settings strict := by
  delta checkCode
  rw [settled]

theorem checkCode_of_unread {e : ReadError} (unread : w.disk.readText settings.root = .error e) :
    checkCode w options strict = .unreadable := by
  rw [checkCode_of_settled settled]
  delta rootCode
  rw [unread]

theorem checkCode_of_malformed {text : String} {e : UnexpectedToken}
    (read : w.disk.readText settings.root = .ok text)
    (malformed : Document.ofText text = .error e) :
    checkCode w options strict = .malformed := by
  rw [checkCode_of_settled settled]
  delta rootCode
  simp only [read, malformed]

theorem checkCode_of_parsed {text : String} {own : Document}
    (read : w.disk.readText settings.root = .ok text) (parsed : Document.ofText text = .ok own) :
    checkCode w options strict =
      if strict && (w.resolution settings).2.outcomes.any (·.isSkipped) then .failure
      else .success := by
  rw [checkCode_of_settled settled]
  delta rootCode
  simp only [read, parsed]

end Openings

theorem Surroundings.console_quiet (made : w.console options = .ok console) :
    console.verbose = false := by
  obtain ⟨width, -, made⟩ := bind_eq_ok.1 made
  cases made
  rfl

theorem ends_debug (quiet : console.verbose = false) (message : String) :
    Ends (Run.say w console .debug message) (.ok ()) := by
  refine ends_say ?_
  simp [Console.diagnostic, Console.isShown, quiet, Except.isOk, Except.toBool]

section Loading

def checkRun (w : Surroundings) (console : Console) (settings : Settings) (strict : Bool) :
    Run Unit :=
  loadSnapshot w console settings >>= runCheck w console strict

def freshStore (settings : Settings) : Store :=
  { root := settings.root, settings }

def deliver (w : Surroundings) (console : Console) :
    Except (Failure DocumentError) Snapshot → Run Snapshot
  | .ok snapshot => pure snapshot
  | .error (.crashed _) => throw .crashed
  | .error (.reported e) => Run.failWith w console (exitCodeOf e) e.message

variable (quiet : console.verbose = false)

include quiet

theorem ends_loadSnapshot {ending : Except Stop Snapshot}
    (ends : Ends
      (deliver w console ((freshStore settings).load w.disk w.externals).result) ending) :
    Ends (loadSnapshot w console settings) ending :=
  (ends_debug quiet _).bind ends

theorem ends_loaded {document : Document} (resolved : (w.resolution settings).1 = .ok document) :
    Ends (loadSnapshot w console settings)
      (.ok ⟨1, document, (w.resolution settings).2.outcomes⟩) := by
  have loaded := @Store.load_of_ok (freshStore settings) _ _ _ _ (Prod.ext resolved rfl)
  refine ends_loadSnapshot quiet ?_
  rw [loaded.1]
  exact ends_pure _

theorem ends_unloaded {failure : Failure DocumentError} {stop : Stop}
    (failed : (w.resolution settings).1 = .error failure)
    (stops : Ends (deliver w console (.error failure)) (.error stop)) :
    Ends (checkRun w console settings strict) (.error stop) := by
  have unloaded := @Store.load_of_error (freshStore settings) _ _ _ _ (Prod.ext failed rfl)
  refine (ends_loadSnapshot quiet ?_).bind_error
  rwa [unloaded.1]

end Loading

theorem isPlain_summary (endpoints categories : Nat) :
    IsPlain s!"Loaded {endpoints} endpoint(s) in {categories} top-level category(ies)" 0 := by
  have loaded : IsPlain "Loaded " 0 := ⟨by decide, by decide⟩
  have within : IsPlain " endpoint(s) in " 0 := ⟨by decide, by decide⟩
  have topLevel : IsPlain " top-level category(ies)" 0 := ⟨by decide, by decide⟩
  exact (((loaded.append (isPlain_toString _)).append within).append (isPlain_toString _)).append
    topLevel

theorem isPlain_skipped (skipped : Nat) : IsPlain s!"{skipped} import(s) skipped" 0 := by
  have rest : IsPlain " import(s) skipped" 0 := ⟨by decide, by decide⟩
  exact (isPlain_toString skipped).append rest

section Checking

variable {t : Typesetter} (laws : w.painter.Laws t)

include laws

theorem ends_runCheck {snapshot : Snapshot} (strict : Bool)
    (takes : w.Takes (outcomeTable w console snapshot.outcomes)) :
    Ends (runCheck w console strict snapshot)
      (if strict && snapshot.outcomes.any (·.isSkipped) then .error (.exit .failure)
        else .ok ()) := by
  have summed := console.diagnostic_isOk laws (isPlain_summary snapshot.endpoints.length
    snapshot.categoryTree.length) (Nat.zero_le 1) (by decide : Severity.success ∈ _)
  have warned (skipped : Nat) := console.diagnostic_isOk laws (isPlain_skipped skipped)
    (Nat.zero_le 1) (by decide : Severity.warning ∈ _)
  refine (ends_put takes).bind ((ends_say summed).bind ?_)
  have counted : (snapshot.outcomes.filter (·.isSkipped)).length = 0 ↔
      snapshot.outcomes.any (·.isSkipped) = false := by
    rw [List.length_eq_zero_iff, List.filter_eq_nil_iff, List.any_eq_false]
  by_cases none : (snapshot.outcomes.filter (·.isSkipped)).length = 0
  · rw [counted.1 none, Bool.and_false, if_neg Bool.false_ne_true]
    simp only [ne_eq, none, not_true_eq_false, if_false]
    exact ends_pure ()
  · rw [eq_true_of_ne_false (mt counted.2 none), Bool.and_true]
    simp only [ne_eq, none, not_false_eq_true, if_true]
    refine (ends_say (warned _)).bind ?_
    cases strict with
    | false => exact ends_pure ()
    | true => exact ends_throw _

end Checking

section Parsed

variable (laws : w.parser.Laws)

include laws

theorem exists_invocation (options : List RunOption) (strict : Bool) :
    ∃ i, Invocation.read w.parser (checkArguments options strict) = .ok i ∧
      Command.read w.parser i = .ok (.check strict) ∧ i.console w = w.console options ∧
      i.settings w = w.settings options := by
  refine ⟨_, Invocation.read_options laws (by decide) options _, ?_, Invocation.console_eq,
    Invocation.settings_eq⟩
  have nothing := laws.nothing checkSpec rfl rfl
  have offers : checkSpec.Offers { name := "--strict" } :=
    ⟨by decide, by decide, by decide, by decide, rfl, rfl⟩
  cases strict with
  | false =>
    simp only [Command.read, Bool.false_eq_true, if_false, if_true, nothing]
    rfl
  | true =>
    have given := laws.flag checkSpec { name := "--strict" } [] {} offers rfl nothing
    simp only [Command.read, if_true, given]
    rfl

theorem run_unmade {crash : Crash} (unmade : w.console options = .error crash) :
    (run w (checkArguments options strict)).1 = .failure := by
  obtain ⟨i, read, -, console, -⟩ := exists_invocation laws options strict
  simp only [run, read, console, unmade]

variable (made : w.console options = .ok console)

include made

-- Whatever is wrong with the settings, whether that can be written or not, the code is the same.
theorem run_unsettled {failure : Failure SettingsError}
    (unsettled : w.settings options = .error failure) :
    (run w (checkArguments options strict)).1 = .failure := by
  obtain ⟨i, read, -, asked, settles⟩ := exists_invocation laws options strict
  have unsettled := settles.trans unsettled
  simp only [run, read, asked, made]
  cases failure with
  | crashed crash =>
    have ends : Ends (settle w console i) (.error .crashed) :=
      settle_of_crashed unsettled ▸ ends_throw _
    exact finish_crashed ends.bind_error
  | reported e =>
    cases written : (console.diagnostic w.painter .error (e.message w.externals.explain)).isOk with
    | true =>
      have ends : Ends (settle w console i) (.error (.exit .failure)) :=
        settle_of_reported unsettled ▸ ends_failWith written
      exact finish_exit ends.bind_error
    | false =>
      have ends : Ends (settle w console i) (.error .crashed) :=
        settle_of_reported unsettled ▸ ends_failWith_error written
      exact finish_crashed ends.bind_error

theorem run_settled (settled : w.settings options = .ok settings) :
    run w (checkArguments options strict) =
      finish w console ((checkRun w console settings strict).run.run {}) := by
  obtain ⟨i, read, isCheck, asked, settles⟩ := exists_invocation laws options strict
  have goesOn : runInvocation w console i = checkRun w console settings strict := by
    simp only [runInvocation, settle_of_ok (settles.trans settled), pure_bind, isCheck]
    rfl
  simp only [run, read, asked, made, goesOn]

end Parsed

/-- A code is right if it is that of a failure for a check that is hindered, and else the one that
is meant. -/
def Tells (w : Surroundings) (options : List RunOption) (strict : Bool) (code : ExitCode) : Prop :=
  (Hindered w options → code = .failure) ∧
    (¬ Hindered w options → code = checkCode w options strict)

theorem tells_of_hindered (hindered : Hindered w options) : Tells w options strict .failure :=
  ⟨fun _ => rfl, fun unhindered => absurd hindered unhindered⟩

section Settled

variable {t : Transcript} (made : w.console options = .ok console)
  (settled : w.settings options = .ok settings)

include made settled

theorem tells_of_unhindered {code : ExitCode} (unhindered : ¬ Hinders w console settings)
    (means : code = checkCode w options strict) : Tells w options strict code :=
  ⟨fun hindered => absurd (hindered.hinders made settled) unhindered, fun _ => means⟩

theorem tells_of_unread {e : ReadError} (unread : w.disk.readText settings.root = .error e) :
    Tells w options strict
      (finish w console ((checkRun w console settings strict).run.run t)).1 := by
  have quiet := Surroundings.console_quiet made
  by_cases isName : ∃ name, e = .file name ∧ (name = .nullInName ∨ name = .strayInName)
  · obtain ⟨name, rfl, isName⟩ := isName
    obtain ⟨crash, failed⟩ : ∃ crash,
        Document.ofFile w.disk settings.root = .error (.crashed crash) := by
      rw [Document.ofFile, unread]
      rcases isName with rfl | rfl
      · exact ⟨_, rfl⟩
      · exact ⟨_, rfl⟩
    rw [finish_crashed (ends_unloaded quiet (resolveDocument_of_error failed) (ends_throw _))]
    exact tells_of_hindered (.later console made settings settled (.name name isName unread))
  · have failed : Document.ofFile w.disk settings.root =
        .error (.reported (.unreadable settings.root e)) := by
      rw [Document.ofFile, unread]
      split <;> simp_all
    have unresolved := @resolveDocument_of_error _ w.externals settings _ none _ failed
    cases written : (console.diagnostic w.painter .error
        (DocumentError.unreadable settings.root e).message).isOk with
    | true =>
      rw [finish_exit (ends_unloaded quiet unresolved (ends_failWith written))]
      refine tells_of_unhindered made settled (fun hinders => ?_)
        (checkCode_of_unread settled unread).symm
      cases hinders with
      | name name isName' unread' =>
        cases unread.symm.trans unread'
        exact isName ⟨name, rfl, isName'⟩
      | message e' unread' unwritten =>
        cases unread.symm.trans unread'
        cases written.symm.trans unwritten
      | imported own readable => cases failed.symm.trans readable
      | table document resolved => cases unresolved.symm.trans resolved
    | false =>
      rw [finish_crashed (ends_unloaded quiet unresolved (ends_failWith_error written))]
      exact tells_of_hindered (.later console made settings settled (.message e unread written))

variable {typesetter : Typesetter} (laws : w.painter.Laws typesetter)

include laws

theorem tells_of_malformed {text : String} {e : UnexpectedToken}
    (read : w.disk.readText settings.root = .ok text)
    (malformed : Document.ofText text = .error e) :
    Tells w options strict
      (finish w console ((checkRun w console settings strict).run.run t)).1 := by
  have quiet := Surroundings.console_quiet made
  have failed : Document.ofFile w.disk settings.root = .error (.reported (.malformed e)) := by
    simp [Document.ofFile, read, malformed, Except.mapError]
  have unresolved := @resolveDocument_of_error _ w.externals settings _ none _ failed
  have written := console.diagnostic_isOk laws e.message_isPlain (Nat.le_refl 1)
    (by decide : Severity.error ∈ _)
  rw [finish_exit (ends_unloaded quiet unresolved (ends_failWith written))]
  refine tells_of_unhindered made settled (fun hinders => ?_)
    (checkCode_of_malformed settled read malformed).symm
  cases hinders with
  | name name isName unread => cases read.symm.trans unread
  | message e' unread => cases read.symm.trans unread
  | imported own readable => cases failed.symm.trans readable
  | table document resolved => cases unresolved.symm.trans resolved

theorem tells_of_parsed {text : String} {own : Document}
    (read : w.disk.readText settings.root = .ok text) (parsed : Document.ofText text = .ok own) :
    Tells w options strict
      (finish w console ((checkRun w console settings strict).run.run t)).1 := by
  have quiet := Surroundings.console_quiet made
  have readable : Document.ofFile w.disk settings.root = .ok own := by
    simp [Document.ofFile, read, parsed, Except.mapError]
  rcases @resolveDocument_cases _ w.externals settings _ none _ readable with
    ⟨⟨document, resolved⟩, keepsOn⟩ | ⟨⟨crash, crashed⟩, derails⟩
  · have loaded := ends_loaded quiet resolved
    by_cases takes : w.Takes (outcomeTable w console (w.resolution settings).2.outcomes)
    · have ends : Ends (checkRun w console settings strict) _ :=
        loaded.bind (ends_runCheck laws strict takes)
      have unhindered : ¬ Hinders w console settings := by
        intro hinders
        cases hinders with
        | name name isName unread => cases read.symm.trans unread
        | message e unread => cases read.symm.trans unread
        | imported own readable derails => exact keepsOn derails
        | table document resolved refuses => exact refuses takes
      refine tells_of_unhindered made settled unhindered ?_
      rw [checkCode_of_parsed settled read parsed]
      split at ends
      · rw [finish_exit ends, if_pos ‹_›]
      · rw [finish_ok ends, if_neg ‹_›]
    · have ends : Ends (checkRun w console settings strict) (.error .crashed) :=
        loaded.bind (ends_put_error takes).bind_error
      rw [finish_crashed ends]
      exact tells_of_hindered
        (.later console made settings settled (.table document resolved takes))
  · rw [finish_crashed (ends_unloaded quiet crashed (ends_throw _))]
    exact tells_of_hindered (.later console made settings settled (.imported own readable derails))

end Settled

/-- The code of a check. Where nothing hinders it, it says whether the settings can be settled, the
root be read and parsed, and, if that is asked for, all imports be loaded; everything that hinders
it makes it a plain failure. -/
theorem run_check_code {w : Surroundings} (parser : w.parser.Laws) {typesetter : Typesetter}
    (painter : w.painter.Laws typesetter) (options : List RunOption) (strict : Bool) :
    (Hindered w options → (run w (checkArguments options strict)).1 = .failure) ∧
    (¬ Hindered w options →
      (run w (checkArguments options strict)).1 = checkCode w options strict) := by
  cases made : w.console options with
  | error crash =>
    rw [run_unmade parser made]
    exact tells_of_hindered (.size crash made)
  | ok console =>
    cases settled : w.settings options with
    | error failure =>
      rw [run_unsettled parser made settled, checkCode_of_unsettled settled]
      exact ⟨fun _ => rfl, fun _ => rfl⟩
    | ok settings =>
      rw [run_settled parser made settled]
      cases text : w.disk.readText settings.root with
      | error e => exact tells_of_unread made settled text
      | ok content =>
        cases parsed : Document.ofText content with
        | error e => exact tells_of_malformed made settled painter text parsed
        | ok own => exact tells_of_parsed made settled painter text parsed

-- Nothing is on the disk.
def bare : Surroundings := .standard {}

-- A name that ends a style which was never begun.
def unescaped : List RunOption := [.root "[/x].rqc"]

theorem unescaped_unread :
    bare.console unescaped = .ok {} ∧
      bare.settings unescaped = .ok { rootFile := "[/x].rqc" } ∧
      bare.disk.readText (.ofText "[/x].rqc") = .error (.file .missing) :=
  ⟨rfl, rfl, by decide +kernel⟩

theorem hindered_unescaped : Hindered bare unescaped := by
  obtain ⟨made, settled, unread⟩ := unescaped_unread
  have text : (DocumentError.unreadable (.ofText "[/x].rqc") (.file .missing)).message.toList =
      "Failed to read ".toList ++ Markup.bracketed ('/' :: "x".toList) ++
        ".rqc: [Errno 2] No such file or directory: '[/x].rqc'".toList := by decide +kernel
  have unwritten := @Console.diagnostic_unopened {} rfl _ _ _ _ (List.all_eq_true.1 (by decide))
    (List.all_eq_true.1 (by decide)) text
  exact .later _ made _ settled (.message _ unread unwritten)

theorem rootless_unread : bare.disk.readText (.ofText ".rqc") = .error (.file .missing) := by
  decide +kernel

theorem unhindered_colorless : ¬ Hindered bare [.noColor, .quiet] := by
  have made : bare.console [.noColor, .quiet] = .ok { color := false, quiet := true } := rfl
  have settled : bare.settings [.noColor, .quiet] = .ok {} := rfl
  have failed : Document.ofFile bare.disk (.ofText ".rqc") =
      .error (.reported (.unreadable (.ofText ".rqc") (.file .missing))) := by
    rw [Document.ofFile, rootless_unread]
  intro hindered
  cases hindered.hinders made settled with
  | name e isName unread' =>
    cases rootless_unread.symm.trans unread'
    simp at isName
  | message e unread' unwritten =>
    cases rootless_unread.symm.trans unread'
    cases unwritten
  | imported own readable => cases failed.symm.trans readable
  | table document resolved => cases (resolveDocument_of_error failed).symm.trans resolved

theorem run_check_code_missing :
    bare.parser.Laws ∧ bare.painter.Laws .standard ∧
      (Hindered bare unescaped ∧ (run bare (checkArguments unescaped true)).1 = .failure) ∧
      ¬ Hindered bare [.noColor, .quiet] ∧
        (run bare (checkArguments [.noColor, .quiet] true)).1 = .unreadable := by
  refine ⟨Parser.laws_standard, Painter.laws_standard,
    ⟨hindered_unescaped, (run_check_code Parser.laws_standard Painter.laws_standard _ true).1
      hindered_unescaped⟩, unhindered_colorless, ?_⟩
  rw [(run_check_code Parser.laws_standard Painter.laws_standard _ true).2 unhindered_colorless]
  exact checkCode_of_unread rfl rootless_unread

theorem run_check_code_unescaped :
    checkCode bare unescaped false = .unreadable ∧
      (run bare (checkArguments unescaped false)).1 = .failure := by
  obtain ⟨made, settled, unread⟩ := unescaped_unread
  refine ⟨checkCode_of_unread settled unread, ?_⟩
  rw [run_settled Parser.laws_standard made settled]
  exact (tells_of_unread made settled unread).1 hindered_unescaped

end Cli

end ApiCatalog
