import ApiCatalog.Proofs.ParserLaws
import Mathlib.Tactic.Common

set_option autoImplicit false

namespace ApiCatalog.Cli

section Endings

variable {α β : Type} {first : Run α} {next : α → Run β} {stop : Stop} {w : Surroundings}
  {console : Console} {severity : Severity} {message : String} {code : ExitCode}

def Ends {α : Type} (run : Run α) (ending : Except Stop α) : Prop :=
  ∀ t, (run.run.run t).1 = ending

theorem Ends.exists_eq {run : Run α} {ending : Except Stop α} (ends : Ends run ending)
    (t : Transcript) : ∃ s, run.run.run t = (ending, s) :=
  ⟨_, Prod.ext (ends t) rfl⟩

theorem ends_pure (a : α) : Ends (pure a) (.ok a) := fun _ => rfl

theorem ends_throw (stop : Stop) : Ends (throw stop : Run α) (.error stop) := fun _ => rfl

theorem Ends.bind {a : α} {ending : Except Stop β} (ends : Ends first (.ok a))
    (later : Ends (next a) ending) : Ends (first >>= next) ending := by
  intro t
  obtain ⟨s, ran⟩ := ends.exists_eq t
  rw [ExceptT.run_bind, StateT.run_bind, ran]
  exact later s

theorem Ends.bind_error (ends : Ends first (.error stop)) :
    Ends (first >>= next) (.error stop) := by
  intro t
  obtain ⟨s, ran⟩ := ends.exists_eq t
  rw [ExceptT.run_bind, StateT.run_bind, ran]
  rfl

def Surroundings.Takes (w : Surroundings) (output : Output) : Prop :=
  ∃ texts, output = .ok texts ∧ ∀ text ∈ texts, w.encodes text

theorem ends_print {texts : List String} (encodable : ∀ text ∈ texts, w.encodes text) :
    Ends (Run.print w texts) (.ok ()) := by
  induction texts with
  | nil => exact ends_pure ()
  | cons text rest ih =>
    obtain ⟨first, others⟩ := List.forall_mem_cons.1 encodable
    intro t
    rw [Run.print, first]
    exact ih others _

theorem ends_print_error {texts : List String} {text : String} (member : text ∈ texts)
    (unencodable : w.encodes text = false) : Ends (Run.print w texts) (.error .crashed) := by
  induction texts with
  | nil => cases member
  | cons first rest ih =>
    intro t
    cases encodable : w.encodes first with
    | false =>
      rw [Run.print, encodable]
      rfl
    | true =>
      have later : text ∈ rest := by
        rcases List.mem_cons.1 member with rfl | later
        · cases encodable.symm.trans unencodable
        · exact later
      rw [Run.print, encodable]
      exact ih later _

theorem ends_put {output : Output} (takes : w.Takes output) : Ends (Run.put w output) (.ok ()) := by
  obtain ⟨texts, rfl, encodable⟩ := takes
  exact ends_print encodable

theorem ends_put_error {output : Output} (refuses : ¬ w.Takes output) :
    Ends (Run.put w output) (.error .crashed) := by
  cases output with
  | error crash => exact ends_throw _
  | ok texts =>
    have some : ∃ text ∈ texts, w.encodes text = false := by
      by_contra none
      refine refuses ⟨texts, rfl, fun text member => ?_⟩
      by_contra unencodable
      exact none ⟨text, member, Bool.not_eq_true _ ▸ unencodable⟩
    obtain ⟨text, member, unencodable⟩ := some
    exact ends_print_error member unencodable

theorem ends_say (written : (console.diagnostic w.painter severity message).isOk) :
    Ends (Run.say w console severity message) (.ok ()) := by
  obtain ⟨text, written⟩ := exists_of_isOk written
  intro t
  rw [Run.say, written]
  rfl

theorem ends_say_error (unwritten : (console.diagnostic w.painter severity message).isOk = false) :
    Ends (Run.say w console severity message) (.error .crashed) := by
  intro t
  cases found : console.diagnostic w.painter severity message with
  | error fault =>
    rw [Run.say, found]
    rfl
  | ok text =>
    rw [found] at unwritten
    cases unwritten

theorem ends_failWith (written : (console.diagnostic w.painter .error message).isOk) :
    Ends (Run.failWith w console code message : Run α) (.error (.exit code)) :=
  (ends_say written).bind (ends_throw _)

theorem ends_failWith_error
    (unwritten : (console.diagnostic w.painter .error message).isOk = false) :
    Ends (Run.failWith w console code message : Run α) (.error .crashed) :=
  (ends_say_error unwritten).bind_error

variable {run : Run Unit} {t : Transcript}

theorem finish_ok (ends : Ends run (.ok ())) : (finish w console (run.run.run t)).1 = .success := by
  obtain ⟨s, ran⟩ := ends.exists_eq t
  rw [ran]
  rfl

theorem finish_exit (ends : Ends run (.error (.exit code))) :
    (finish w console (run.run.run t)).1 = code := by
  obtain ⟨s, ran⟩ := ends.exists_eq t
  rw [ran]
  rfl

-- Whether the crash can be reported or not makes no difference to the code.
theorem finish_crashed (ends : Ends run (.error .crashed)) :
    (finish w console (run.run.run t)).1 = .failure := by
  obtain ⟨s, ran⟩ := ends.exists_eq t
  let report := s!"Unexpected error. Debug log: {(crashLog w).toText}"
  have noted :
      Ends (modify fun t => { t with crashLog := some (crashLog w) } : Run Unit) (.ok ()) :=
    fun _ => rfl
  cases written : (console.diagnostic w.painter .error report).isOk with
  | true =>
    have reported : Ends (afterStop w console .crashed) (.ok .failure) :=
      noted.bind ((ends_say written).bind (ends_pure _))
    obtain ⟨_, ended⟩ := reported.exists_eq s
    rw [ran, finish, ended]
  | false =>
    have unreported : Ends (afterStop w console .crashed) (.error .crashed) :=
      noted.bind (ends_say_error written).bind_error
    obtain ⟨_, ended⟩ := unreported.exists_eq s
    rw [ran, finish, ended]

end Endings

inductive RunOption
  | json
  | plain
  | noColor
  | quiet
  | root (file : String)
  deriving DecidableEq, Repr

namespace RunOption

def name : RunOption → String
  | json => "--json"
  | plain => "--plain"
  | noColor => "--no-color"
  | quiet => "--quiet"
  | root _ => "--root"

def file? : RunOption → Option String
  | root file => some file
  | _ => none

def words (o : RunOption) : List String := o.name :: o.file?.toList

def occurrence (o : RunOption) : Occurrence := ⟨o.name, o.file?.getD ""⟩

end RunOption

section Options

variable {w : Surroundings} {options : List RunOption} {values : List String}

def formatAsked (options : List RunOption) : FormatChoice :=
  if .json ∈ options then .fixed .json else if .plain ∈ options then .fixed .plain else .auto

-- The last root counts.
def rootAsked (options : List RunOption) : Option String :=
  options.reverse.findSome? RunOption.file?

def Surroundings.console (w : Surroundings) (options : List RunOption) : Except Crash Console :=
  Console.ofOptions w.painter (formatAsked options) (.noColor ∈ options) (.quiet ∈ options) false
    w.terminal w.environment

def Surroundings.settings (w : Surroundings) (options : List RunOption) :
    Except (Failure SettingsError) Settings :=
  Settings.ofSurroundings w.externals.conversions w.disk w.directory w.environment
    (rootAsked options) none

def argumentsOf (options : List RunOption) (values : List String) : Arguments :=
  ⟨options.map RunOption.occurrence, values⟩

theorem has_flag {o : RunOption} (isFlag : o.file? = none) :
    (argumentsOf options values).has o.name = decide (o ∈ options) := by
  have named (other : RunOption) : other.name = o.name ↔ o = other := by
    cases o <;> cases other <;> simp_all [RunOption.name, RunOption.file?]
  rw [Bool.eq_iff_iff]
  simp [argumentsOf, Arguments.has, RunOption.occurrence, named]

theorem has_verbose : (argumentsOf options values).has "--verbose" = false := by
  rw [argumentsOf, Arguments.has, List.any_map, List.any_eq_false]
  intro o _
  cases o <;> simp [RunOption.occurrence, RunOption.name]

theorem value?_root : (argumentsOf options values).value? "--root" = rootAsked options := by
  have first (options : List RunOption) :
      ((options.map RunOption.occurrence).find? (·.name == "--root")).map (·.value) =
        options.findSome? RunOption.file? := by
    induction options with
    | nil => rfl
    | cons o others ih =>
      cases o with
      | root file => rfl
      | _ => exact ih
  rw [argumentsOf, Arguments.value?, rootAsked, ← List.map_reverse]
  exact first options.reverse

section Reading

variable {p : Parser} (laws : p.Laws) {command : String}
  (isCommand : command ∈ programSpec.commands)

include laws

theorem read_words {rest : List String} {a : Arguments} (o : RunOption)
    (read : p.read programSpec rest = .ok a) :
    p.read programSpec (o.words ++ rest) = .ok (a.withOptions [o.occurrence]) := by
  have offers (spec : OptionSpec) (member : spec ∈ programSpec.options)
      (dashed : "--".toList.isPrefixOf spec.name.toList ∧ spec.name ≠ "--")
      (whole : '=' ∉ spec.name.toList) (late : spec.isEager = false) (free : spec.choices = none) :
      programSpec.Offers spec :=
    ⟨member, by decide, dashed, whole, late, free⟩
  have flag (name : String) (short : Option Char)
      (member : { name, short } ∈ programSpec.options)
      (dashed : "--".toList.isPrefixOf name.toList ∧ name ≠ "--") (whole : '=' ∉ name.toList) :=
    laws.flag programSpec { name, short } rest a (offers _ member dashed whole rfl rfl) rfl read
  cases o with
  | json => exact flag "--json" none (by decide) (by decide) (by decide)
  | plain => exact flag "--plain" none (by decide) (by decide) (by decide)
  | noColor => exact flag "--no-color" none (by decide) (by decide) (by decide)
  | quiet => exact flag "--quiet" (some 'q') (by decide) (by decide) (by decide)
  | root file =>
    exact laws.valued programSpec { name := "--root", short := some 'r', takesValue := true } file
      rest a (offers _ (by decide) (by decide) (by decide) rfl rfl) rfl read

include isCommand

theorem read_options (options : List RunOption) (rest : List String) :
    p.read programSpec (options.flatMap RunOption.words ++ command :: rest) =
      .ok (argumentsOf options (command :: rest)) := by
  induction options with
  | nil =>
    have undashed : ∀ command ∈ programSpec.commands, command.toList.head? ≠ some '-' := by decide
    exact laws.command programSpec command rest isCommand (undashed command isCommand)
  | cons o others ih =>
    rw [List.flatMap_cons, List.append_assoc]
    exact read_words laws o ih

theorem Invocation.read_options (options : List RunOption) (rest : List String) :
    read p (options.flatMap RunOption.words ++ command :: rest) =
      .ok ⟨argumentsOf options (command :: rest), command, rest⟩ := by
  rw [read, Cli.read_options laws isCommand]
  rfl

end Reading

variable {command : String} {rest : List String}

theorem Invocation.console_eq :
    console w ⟨argumentsOf options values, command, rest⟩ = w.console options := by
  have json : (argumentsOf options values).has "--json" = decide (.json ∈ options) :=
    has_flag (o := .json) rfl
  have plain : (argumentsOf options values).has "--plain" = decide (.plain ∈ options) :=
    has_flag (o := .plain) rfl
  have noColor : (argumentsOf options values).has "--no-color" = decide (.noColor ∈ options) :=
    has_flag (o := .noColor) rfl
  have quiet : (argumentsOf options values).has "--quiet" = decide (.quiet ∈ options) :=
    has_flag (o := .quiet) rfl
  simp [console, Surroundings.console, formatAsked, json, plain, noColor, quiet, has_verbose]

theorem Invocation.settings_eq :
    settings w ⟨argumentsOf options values, command, rest⟩ = w.settings options := by
  simp [settings, Surroundings.settings, value?_root, has_verbose]

end Options

end ApiCatalog.Cli
