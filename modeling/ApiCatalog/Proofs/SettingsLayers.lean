import ApiCatalog.Proofs.MockPayloads
import ApiCatalog.Proofs.Results
import ApiCatalog.Record.Standard
import ApiCatalog.Settings

/-!
Where settings come from. Each of them is taken from the highest layer that gives it: the command
line, the environment, the project file, and last what holds by default. What a project file says
about a setting that a higher layer gives makes no difference, valid or not.
-/

set_option autoImplicit false

namespace ApiCatalog

-- What is of the wanted kind is left as it is.
structure Conversions.Laws (conversions : Conversions) : Prop where
  text (s : String) : conversions.text (.text s) = .ok s
  flag (b : Bool) : conversions.flag (.bool b) = .ok b
  number (x : Binary64) : conversions.number (.float x) = .ok x

theorem Conversions.laws_standard : standard.Laws where
  text _ := rfl
  flag _ := rfl
  number _ := rfl

inductive Setting
  | rootFile
  | fetchTimeout
  | remoteImports
  | logLevel
  deriving DecidableEq, Repr

namespace Setting

def all : List Setting := [rootFile, fetchTimeout, remoteImports, logLevel]

-- The member of a project file that holds a setting.
def member : Setting → String
  | rootFile => "root_file"
  | fetchTimeout => "fetch_timeout"
  | remoteImports => "remote_imports"
  | logLevel => "log_level"

def envName : Setting → String
  | rootFile => "REQCRAFT_ROOT"
  | fetchTimeout => "REQCRAFT_FETCH_TIMEOUT"
  | remoteImports => "REQCRAFT_REMOTE_IMPORTS"
  | logLevel => "REQCRAFT_LOG_LEVEL"

-- What the command line says about a setting, from its root and its level.
def asked (root level : Option String) : Setting → Option String
  | rootFile => root
  | logLevel => level
  | fetchTimeout | remoteImports => none

-- A layer above the project file gives the setting.
def isOverridden (environment : Environment) (root level : Option String) (s : Setting) : Bool :=
  (s.asked root level).isSome || (environment.get? s.envName).isSome

end Setting

-- The highest layer that gives a setting, with what it gives.
inductive Origin
  | commandLine (text : String)
  | environment (text : String)
  | project (value : Value)
  | default

def Setting.origin (project : Option Entries) (environment : Environment)
    (root level : Option String) (s : Setting) : Origin :=
  match s.asked root level with
  | some text => .commandLine text
  | none =>
    match environment.get? s.envName with
    | some text => .environment text
    | none =>
      match project.bind (Entries.get? s.member) with
      | some value => .project value
      | none => .default

-- Texts and the members of a project file are understood in ways of their own.
def Origin.Gives {A : Type} (ofText : String → Option A) (ofMember : Value → Checked A)
    (preset : A) : Origin → A → Prop
  | commandLine text, a | environment text, a => ofText text = some a
  | project value, a => ofMember value = .ok a
  | default, a => a = preset

-- A truth value as the environment spells it.
def flagOfText? (text : String) : Option Bool :=
  let word := Text.lower (Text.trimText text)
  if word ∈ ["1", "true", "yes", "on"] then some true
  else if word ∈ ["0", "false", "no", "off"] then some false
  else none

namespace Settings

-- All settings come from their origins, and the level is in capitals.
structure Follow (conversions : Conversions) (settings : Settings) (origin : Setting → Origin) :
    Prop where
  rootFile : (origin .rootFile).Gives some conversions.text ".rqc" settings.rootFile
  fetchTimeout :
    (origin .fetchTimeout).Gives Number.read? conversions.number (.ofRatio false 30 1)
      settings.fetchTimeout
  remoteImports :
    (origin .remoteImports).Gives flagOfText? conversions.flag true settings.remoteImports
  logLevel : ∃ level, (origin .logLevel).Gives some conversions.text "WARNING" level ∧
    settings.logLevel = Text.upper level

end Settings

namespace Setting

theorem mem_all (s : Setting) : s ∈ all := by cases s <;> decide

theorem member_inj {s t : Setting} : s.member = t.member ↔ s = t := by
  cases s <;> cases t <;> decide

def read : Setting → String → String → Except SettingsError Value
  | rootFile | logLevel => Settings.readWord
  | fetchTimeout => Settings.readTimeout
  | remoteImports => Settings.readFlag

def row (s : Setting) : String × String × (String → String → Except SettingsError Value) :=
  (s.envName, s.member, s.read)

theorem overrides_eq : Settings.overrides = all.map row := rfl

-- The value that the environment gives, if it can be understood.
def given? (environment : Environment) (s : Setting) : Option Value :=
  (environment.get? s.envName).bind fun text => (s.read s.envName text).toOption

end Setting

section Environment

variable {environment : Environment} {entries merged : Entries} {settings : List Setting}

open Settings

theorem overrideBy_unset {s : Setting} (unset : environment.get? s.envName = none)
    (entries : Entries) (rest : List Setting) :
    overrideBy environment entries ((s :: rest).map Setting.row) =
      overrideBy environment entries (rest.map Setting.row) := by
  rw [List.map_cons, Setting.row, overrideBy, unset]

theorem overrideBy_set {s : Setting} {text : String} (set : environment.get? s.envName = some text)
    (entries : Entries) (rest : List Setting) :
    overrideBy environment entries ((s :: rest).map Setting.row) =
      s.read s.envName text >>= fun value =>
        overrideBy environment (Entries.put (.text s.member) value entries)
          (rest.map Setting.row) := by
  rw [List.map_cons, Setting.row, overrideBy, set]

theorem overrideBy_reads
    (ran : overrideBy environment entries (settings.map Setting.row) = .ok merged)
    {s : Setting} (listed : s ∈ settings) {text : String}
    (set : environment.get? s.envName = some text) :
    ∃ value, s.read s.envName text = .ok value := by
  induction settings generalizing entries with
  | nil => cases listed
  | cons t rest ih =>
    cases given : environment.get? t.envName with
    | none =>
      rw [overrideBy_unset given] at ran
      rcases List.mem_cons.1 listed with rfl | later
      · cases set.symm.trans given
      · exact ih ran later
    | some other =>
      rw [overrideBy_set given] at ran
      obtain ⟨value, understood, ran⟩ := bind_eq_ok.1 ran
      rcases List.mem_cons.1 listed with rfl | later
      · cases set.symm.trans given
        exact ⟨value, understood⟩
      · exact ih ran later

theorem get?_overrideBy
    (ran : overrideBy environment entries (settings.map Setting.row) = .ok merged) (s : Setting) :
    Entries.get? s.member merged =
      if s ∈ settings then (s.given? environment).or (Entries.get? s.member entries)
      else Entries.get? s.member entries := by
  induction settings generalizing entries with
  | nil =>
    cases ran
    rfl
  | cons t rest ih =>
    cases given : environment.get? t.envName with
    | none =>
      rw [overrideBy_unset given] at ran
      rw [ih ran]
      by_cases same : s = t
      · simp [same, Setting.given?, given]
      · simp [same]
    | some text =>
      rw [overrideBy_set given] at ran
      obtain ⟨value, understood, ran⟩ := bind_eq_ok.1 ran
      rw [ih ran, Entries.get?_put]
      simp only [Setting.member_inj]
      by_cases same : s = t
      · simp [same, Setting.given?, given, understood, Except.toOption]
      · simp [same]

-- What cannot be understood in the environment does not depend on what it would override.
theorem overrideBy_error {e : SettingsError}
    (failed : overrideBy environment entries (settings.map Setting.row) = .error e)
    (others : Entries) :
    overrideBy environment others (settings.map Setting.row) = .error e := by
  induction settings generalizing entries others with
  | nil => cases failed
  | cons t rest ih =>
    cases given : environment.get? t.envName with
    | none =>
      rw [overrideBy_unset given] at failed ⊢
      exact ih failed others
    | some text =>
      rw [overrideBy_set given] at failed ⊢
      rcases bind_eq_error.1 failed with unread | ⟨value, understood, failed⟩
      · rw [unread]
        rfl
      · rw [understood]
        exact ih failed _

end Environment

section Checking

theorem Checked.seq_eq_ok {A B : Type} {f : Checked (A → B)} {a : Checked A} {b : B} :
    f <*> a = .ok b ↔ ∃ g x, f = .ok g ∧ a = .ok x ∧ g x = b := by
  cases f <;> cases a <;> simp [Seq.seq, Checked.apply]

theorem Checked.map_eq_ok {A B : Type} {f : A → B} {a : Checked A} {b : B} :
    f <$> a = .ok b ↔ ∃ x, a = .ok x ∧ f x = b := by
  cases a <;> simp [Functor.map, Checked.apply]

theorem Checked.within_eq_ok {A : Type} {part : String} {checked : Checked A} {a : A} :
    checked.within part = .ok a ↔ checked = .ok a := by
  cases checked <;> simp [Checked.within]

theorem Key.find?_word (name : String) (entries : Entries) :
    (Key.word name).find? entries = (Entries.get? name entries).map (name, ·) := by
  simp only [Key.find?, Key.word]
  cases Entries.get? name entries <;> rfl

theorem Key.withDefault_word {A : Type} {name : String} {preset a : A} {check : Value → Checked A}
    {entries : Entries} :
    (Key.word name).withDefault preset check entries = .ok a ↔
      match Entries.get? name entries with
      | some value => check value = .ok a
      | none => a = preset := by
  rw [Key.withDefault, Key.find?_word]
  cases Entries.get? name entries with
  | none => simp [eq_comm]
  | some value => exact Checked.within_eq_ok

end Checking

namespace Settings

section Settling

variable {conversions : Conversions} {project project' : Option Entries}
  {environment : Environment} {root level : Option String} {merged : Entries} {settings : Settings}

theorem get?_putText (name member : String) (text : Option String) (entries : Entries) :
    Entries.get? name (putText member text entries) =
      if name = member then (text.map Value.text).or (Entries.get? name entries)
      else Entries.get? name entries := by
  cases text with
  | none => simp [putText]
  | some text =>
    rw [putText, Entries.get?_put]
    by_cases same : name = member <;> simp [same]

-- What the command line leaves of what has been overridden before.
def amended (root level : Option String) (merged : Entries) : Entries :=
  putText "log_level" level (putText "root_file" root merged)

theorem get?_amended (s : Setting) :
    Entries.get? s.member (amended root level merged) =
      ((s.asked root level).map Value.text).or (Entries.get? s.member merged) := by
  cases s <;> simp [amended, get?_putText, Setting.member, Setting.asked]

theorem check_congr {entries entries' : Entries}
    (agree : ∀ s : Setting, Entries.get? s.member entries = Entries.get? s.member entries') :
    check conversions entries = check conversions entries' := by
  have rootFile := agree .rootFile
  have fetchTimeout := agree .fetchTimeout
  have remoteImports := agree .remoteImports
  have logLevel := agree .logLevel
  simp only [Setting.member] at rootFile fetchTimeout remoteImports logLevel
  simp only [check, Key.withDefault, Key.find?_word, rootFile, fetchTimeout, remoteImports,
    logLevel]

theorem check_eq_ok {entries : Entries} {rootFile : String} {fetchTimeout : Binary64}
    {remoteImports : Bool} {logLevel : String} :
    check conversions entries = .ok ⟨rootFile, fetchTimeout, remoteImports, logLevel⟩ ↔
      (Key.word "root_file").withDefault ".rqc" conversions.text entries = .ok rootFile ∧
      (Key.word "fetch_timeout").withDefault (.ofRatio false 30 1) conversions.number entries =
        .ok fetchTimeout ∧
      (Key.word "remote_imports").withDefault true conversions.flag entries = .ok remoteImports ∧
      (Key.word "log_level").withDefault "WARNING" conversions.text entries = .ok logLevel := by
  simp only [check, Checked.seq_eq_ok, Checked.map_eq_ok]
  constructor
  · rintro ⟨_, level, ⟨_, imports, ⟨_, timeout, ⟨root, first, rfl⟩, second, rfl⟩, third, rfl⟩,
      fourth, built⟩
    obtain ⟨rfl, rfl, rfl, rfl⟩ := Settings.mk.inj built
    exact ⟨first, second, third, fourth⟩
  · rintro ⟨first, second, third, fourth⟩
    exact ⟨_, _, ⟨_, _, ⟨_, _, ⟨_, first, rfl⟩, second, rfl⟩, third, rfl⟩, fourth, rfl⟩

theorem validate_eq_ok {checked : Settings} :
    checked.validate = .ok settings ↔
      Text.upper checked.logLevel ∈ levels ∧ checked.fetchTimeout.isNonpositive = false ∧
        settings = { checked with logLevel := Text.upper checked.logLevel } := by
  unfold validate
  by_cases known : Text.upper checked.logLevel ∈ levels
  · cases checked.fetchTimeout.isNonpositive <;> simp [known, eq_comm]
  · simp [known]

theorem readTimeout_eq_ok {name text : String} {value : Value} :
    readTimeout name text = .ok value ↔ ∃ x, Number.read? text = some x ∧ value = .float x := by
  unfold readTimeout
  cases Number.read? text <;> simp [eq_comm]

theorem readFlag_eq_ok {name text : String} {value : Value} :
    readFlag name text = .ok value ↔ ∃ b, flagOfText? text = some b ∧ value = .bool b := by
  simp only [readFlag, flagOfText?, trueWords, falseWords, List.contains_iff_mem]
  split
  · simp [eq_comm]
  · split <;> simp [eq_comm]

theorem settle_eq_ok :
    settle conversions project environment root level = .ok settings ↔
      ∃ merged checked, overrideBy environment (project.getD []) overrides = .ok merged ∧
        check conversions (amended root level merged) = .ok checked ∧
        checked.validate = .ok settings := by
  rw [settle, bind_eq_ok]
  refine exists_congr fun merged => ?_
  rw [← amended]
  cases check conversions (amended root level merged) <;> simp

variable (ran : overrideBy environment (project.getD []) overrides = .ok merged)

include ran

theorem get?_layers (s : Setting) :
    Entries.get? s.member (amended root level merged) =
      ((s.asked root level).map Value.text).or
        ((s.given? environment).or (project.bind (Entries.get? s.member))) := by
  have held : Entries.get? s.member (project.getD []) = project.bind (Entries.get? s.member) := by
    cases project <;> rfl
  rw [get?_amended, get?_overrideBy (Setting.overrides_eq ▸ ran), if_pos s.mem_all, held]

-- The check sees what the layers above have put there, so it has to understand it as they do.
theorem gives_origin {A : Type} {s : Setting} {ofText : String → Option A}
    {ofMember : Value → Checked A} {preset a : A}
    (asks : ∀ text, s.asked root level = some text → ofMember (.text text) = .ok a →
      ofText text = some a)
    (reads : ∀ text value, s.read s.envName text = .ok value → ofMember value = .ok a →
      ofText text = some a)
    (found : (Key.word s.member).withDefault preset ofMember (amended root level merged) = .ok a) :
    (s.origin project environment root level).Gives ofText ofMember preset a := by
  rw [Key.withDefault_word, get?_layers ran] at found
  unfold Setting.origin
  cases asked : s.asked root level with
  | some text =>
    rw [asked] at found
    exact asks text asked found
  | none =>
    rw [asked] at found
    cases set : environment.get? s.envName with
    | some text =>
      obtain ⟨value, understood⟩ :=
        overrideBy_reads (Setting.overrides_eq ▸ ran) s.mem_all set
      refine reads text value understood ?_
      simpa [Setting.given?, set, understood, Except.toOption] using found
    | none =>
      have unset : s.given? environment = none := by simp [Setting.given?, set]
      rw [unset] at found
      cases held : project.bind (Entries.get? s.member) with
      | some value =>
        rw [held] at found
        exact found
      | none =>
        rw [held] at found
        exact found

theorem follow_of_check (laws : conversions.Laws) {checked : Settings}
    (passed : check conversions (amended root level merged) = .ok checked)
    (valid : checked.validate = .ok settings) :
    settings.Follow conversions fun s => s.origin project environment root level := by
  obtain ⟨rootFile, fetchTimeout, remoteImports, logLevel⟩ := checked
  obtain ⟨root, timeout, imports, level⟩ := check_eq_ok.1 passed
  obtain ⟨-, -, rfl⟩ := validate_eq_ok.1 valid
  have isText {text read : String} (passes : conversions.text (.text text) = .ok read) :
      some text = some read :=
    congrArg some (Checked.ok.inj ((laws.text text).symm.trans passes))
  refine ⟨?_, ?_, ?_, logLevel, ?_, rfl⟩
  · refine gives_origin ran (s := .rootFile) (fun _ _ => isText) ?_ root
    rintro text value ⟨⟩
    exact isText
  · refine gives_origin ran (s := .fetchTimeout) (fun _ asked => by cases asked) ?_ timeout
    intro text value understood passes
    rw [Setting.read] at understood
    obtain ⟨x, isNumber, rfl⟩ := readTimeout_eq_ok.1 understood
    cases (laws.number x).symm.trans passes
    exact isNumber
  · refine gives_origin ran (s := .remoteImports) (fun _ asked => by cases asked) ?_ imports
    intro text value understood passes
    rw [Setting.read] at understood
    obtain ⟨b, isFlag, rfl⟩ := readFlag_eq_ok.1 understood
    cases (laws.flag b).symm.trans passes
    exact isFlag
  · refine gives_origin ran (s := .logLevel) (fun _ _ => isText) ?_ level
    rintro text value ⟨⟩
    exact isText

omit ran in
theorem settle_congr
    (agree : ∀ s : Setting, s.isOverridden environment root level = false →
      project.bind (Entries.get? s.member) = project'.bind (Entries.get? s.member)) :
    settle conversions project environment root level =
      settle conversions project' environment root level := by
  have unread {first second : Option Entries} {e : SettingsError}
      (failed : overrideBy environment (first.getD []) overrides = .error e) :
      overrideBy environment (second.getD []) overrides = .error e := by
    rw [Setting.overrides_eq] at failed ⊢
    exact overrideBy_error failed _
  simp only [settle]
  cases ran : overrideBy environment (project.getD []) overrides with
  | error e => rw [unread ran]
  | ok merged =>
    cases ran' : overrideBy environment (project'.getD []) overrides with
    | error e => cases (unread ran').symm.trans ran
    | ok merged' =>
      have alike : check conversions (amended root level merged) =
          check conversions (amended root level merged') := by
        refine check_congr fun s => ?_
        rw [get?_layers ran, get?_layers ran']
        cases overridden : s.isOverridden environment root level with
        | false => rw [agree s overridden]
        | true =>
          rcases Bool.or_eq_true_iff.1 overridden with asked | set
          · obtain ⟨text, asked⟩ := Option.isSome_iff_exists.1 asked
            simp [asked]
          · obtain ⟨text, set⟩ := Option.isSome_iff_exists.1 set
            obtain ⟨value, understood⟩ :=
              overrideBy_reads (Setting.overrides_eq ▸ ran) s.mem_all set
            simp [Setting.given?, set, understood, Except.toOption]
      simp only [amended] at alike
      simp only [bind, Except.bind, alike]

end Settling

/-- Settings that are found follow their layers. Project files that agree on all that no layer above
gives lead to the same settings, or to the same failure. -/
theorem ofSurroundings_layered {conversions : Conversions} (laws : conversions.Laws) (disk : Disk)
    (directory : PathName) (environment : Environment) (root level : Option String) :
    (∀ settings, ofSurroundings conversions disk directory environment root level = .ok settings →
      ∃ project, ofProject disk directory = .ok project ∧
        settings.Follow conversions fun s => s.origin project environment root level) ∧
    ∀ disk' directory' project project', ofProject disk directory = .ok (some project) →
      ofProject disk' directory' = .ok (some project') →
      (∀ s : Setting, s.isOverridden environment root level = false →
        Entries.get? s.member project = Entries.get? s.member project') →
      ofSurroundings conversions disk directory environment root level =
        ofSurroundings conversions disk' directory' environment root level := by
  refine ⟨fun settings settled => ?_, fun disk' directory' project project' read read' agree => ?_⟩
  · obtain ⟨project, read, settled⟩ := bind_eq_ok.1 settled
    obtain ⟨merged, checked, ran, passed, valid⟩ := settle_eq_ok.1 (mapError_eq_ok.1 settled)
    exact ⟨project, read, follow_of_check ran laws passed valid⟩
  · have alike : settle conversions (some project) environment root level =
        settle conversions (some project') environment root level := settle_congr agree
    rw [ofSurroundings, ofSurroundings, read, read']
    exact congrArg (Except.mapError Failure.reported) alike

theorem ofProject_of_text {disk : Disk} {directory : PathName} {text : String} {entries : Entries}
    (present : disk.isFile (directory.append (.ofText projectFile)) = .ok true)
    (read : disk.readText (directory.append (.ofText projectFile)) = .ok text)
    (decoded : Json.ofText text = .ok (.mapping entries)) :
    ofProject disk directory = .ok (some entries) := by
  simp only [ofProject, present, read, bind, Except.bind, mapError_ok, decoded]
  rfl

def projectOf (text : String) : Disk :=
  ({} : Disk).write (.ofText projectFile) (.file text.toUTF8.toList)

-- Neither timeout is one, and neither is looked at.
def wordyProject : String := "\x7b\"remote_imports\":0,\"fetch_timeout\":\"fast\"\x7d"

def oddProject : String := "\x7b\"fetch_timeout\":[],\"remote_imports\":0,\"theme\":1\x7d"

-- An empty variable gives nothing.
def shortTimeout : Environment := [("REQCRAFT_FETCH_TIMEOUT", "2.5"), ("REQCRAFT_LOG_LEVEL", "")]

theorem ofSurroundings_layered_overridden :
    let settings : Settings :=
      { rootFile := "main.rqc", fetchTimeout := .ofRatio false 5 2, remoteImports := false }
    ofSurroundings .standard (projectOf wordyProject) {} shortTimeout (some "main.rqc") none =
        .ok settings ∧
      (∃ project, ofProject (projectOf wordyProject) {} = .ok project ∧
        settings.Follow .standard fun s => s.origin project shortTimeout (some "main.rqc") none) ∧
      ofSurroundings .standard (projectOf oddProject) {} shortTimeout (some "main.rqc") none =
        .ok settings := by
  intro settings
  have wordy : Json.ofText wordyProject = .ok (.mapping
      [(.text "remote_imports", .int 0), (.text "fetch_timeout", .text "fast")]) := by cbv
  have odd : Json.ofText oddProject = .ok (.mapping [(.text "fetch_timeout", .list []),
      (.text "remote_imports", .int 0), (.text "theme", .int 1)]) := by cbv
  have read : ofProject (projectOf wordyProject) {} = .ok (some _) :=
    ofProject_of_text (eq_ok_of_mem (by decide +kernel)) (eq_ok_of_mem (by decide +kernel)) wordy
  have read' : ofProject (projectOf oddProject) {} = .ok (some _) :=
    ofProject_of_text (eq_ok_of_mem (by decide +kernel)) (eq_ok_of_mem (by decide +kernel)) odd
  have settled : ofSurroundings .standard (projectOf wordyProject) {} shortTimeout
      (some "main.rqc") none = .ok settings := by
    rw [ofSurroundings, read]
    exact eq_ok_of_mem (by decide +kernel)
  obtain ⟨follow, alike⟩ :=
    ofSurroundings_layered Conversions.laws_standard (projectOf wordyProject) {} shortTimeout
      (some "main.rqc") none
  refine ⟨settled, follow settings settled, ?_⟩
  rw [← alike _ _ _ _ read read', settled]
  intro s kept
  cases s with
  | rootFile | fetchTimeout => cases kept
  | remoteImports | logLevel => rfl

end Settings

end ApiCatalog
