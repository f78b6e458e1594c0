import ApiCatalog.Proofs.CheckRuns
import ApiCatalog.Proofs.TableTexts

/-!
What a run adds to the standard output. Settings and snapshots are made in silence, so a command
that succeeds has printed what it shows of the snapshot and nothing else.
-/

set_option autoImplicit false

namespace ApiCatalog.Cli

section Writing

variable {α β : Type} {first : Run α} {next : α → Run β} {text : String} {w : Surroundings}
  {console : Console} {settings : Settings} {i : Invocation} {t s : Transcript}

-- Only a detour ends a run early without anything having gone wrong.
def NeverQuits {α : Type} (run : Run α) : Prop :=
  ∀ t, (run.run.run t).1 ≠ .error (.exit .success)

-- What a run adds to the standard output if it goes on to its end.
structure Writes {α : Type} (run : Run α) (text : String) : Prop where
  stdout : ∀ t a s, run.run.run t = (.ok a, s) → s.stdout = t.stdout ++ text
  goesOn : NeverQuits run

theorem run_bind (first : Run α) (next : α → Run β) (t : Transcript) :
    (first >>= next).run.run t = match first.run.run t with
      | (.ok a, s) => (next a).run.run s
      | (.error stop, s) => (.error stop, s) := by
  rw [ExceptT.run_bind, StateT.run_bind]
  split
  next a s ran =>
    rw [ran]
    rfl
  next stop s ran =>
    rw [ran]
    rfl

theorem exists_of_bind {b : β} (ran : (first >>= next).run.run t = (.ok b, s)) :
    ∃ a s', first.run.run t = (.ok a, s') ∧ (next a).run.run s' = (.ok b, s) := by
  rw [run_bind] at ran
  split at ran
  next a s' first => exact ⟨a, s', first, ran⟩
  next => cases ran

theorem NeverQuits.bind (goesOn : NeverQuits first) (later : ∀ a, NeverQuits (next a)) :
    NeverQuits (first >>= next) := by
  intro t
  have ends := goesOn t
  rw [run_bind]
  split
  next a s ran => exact later a s
  next stop s ran => simpa [ran] using ends

theorem Writes.bind (writes : Writes first text) (silent : ∀ a, Writes (next a) "") :
    Writes (first >>= next) text := by
  refine ⟨fun t b s ran => ?_, writes.goesOn.bind fun a => (silent a).goesOn⟩
  obtain ⟨a, s', first, later⟩ := exists_of_bind ran
  rw [(silent a).stdout s' b s later, String.append_empty, writes.stdout t a s' first]

theorem Writes.exists_of_bind (silent : Writes first "") {b : β}
    (ran : (first >>= next).run.run t = (.ok b, s)) :
    ∃ a s', first.run.run t = (.ok a, s') ∧ s'.stdout = t.stdout ∧
      (next a).run.run s' = (.ok b, s) := by
  obtain ⟨a, s', first, later⟩ := Cli.exists_of_bind ran
  exact ⟨a, s', first, (silent.stdout t a s' first).trans String.append_empty, later⟩

theorem writes_pure (a : α) : Writes (pure a) "" := by
  refine ⟨fun t b s ran => ?_, fun _ ended => by cases ended⟩
  cases ran
  exact String.append_empty.symm

theorem writes_throw {stop : Stop} (goesOn : stop ≠ .exit .success) (text : String) :
    Writes (throw stop : Run α) text :=
  ⟨fun _ _ _ ran => (by cases ran), fun _ ended => goesOn (Except.error.inj ended)⟩

theorem writes_print (w : Surroundings) (texts : List String) :
    Writes (Run.print w texts) (String.join texts) := by
  induction texts with
  | nil => exact writes_pure ()
  | cons text rest ih =>
    rw [Run.print]
    cases w.encodes text with
    | false => exact (writes_throw (by simp) _ : Writes (throw Stop.crashed : Run Unit) _)
    | true =>
      refine ⟨fun t b s ran => ?_, fun t => ih.goesOn { t with stdout := t.stdout ++ text }⟩
      have later := ih.stdout { t with stdout := t.stdout ++ text } b s ran
      rw [later, ← String.toList_inj]
      simp [String.toList_join]

theorem writes_put {texts : List String} {output : Output} (made : output = .ok texts) :
    Writes (Run.put w output) (String.join texts) := by
  rw [made]
  exact writes_print w texts

theorem writes_say (severity : Severity) (message : String) :
    Writes (Run.say w console severity message) "" := by
  unfold Run.say
  split
  · refine ⟨fun t b s ran => ?_, fun _ ended => by cases ended⟩
    cases ran
    exact String.append_empty.symm
  · exact writes_throw (by simp) ""

theorem writes_failWith {code : ExitCode} (fails : code ≠ .success) (message : String) :
    Writes (Run.failWith w console code message : Run α) "" :=
  (writes_say _ _).bind fun _ => writes_throw (by simpa using fails) ""

theorem failWith_ne_ok {code : ExitCode} {message : String} {a : α} :
    (Run.failWith w console code message : Run α).run.run t ≠ (.ok a, s) := by
  intro ran
  obtain ⟨-, s', -, -, thrown⟩ := (writes_say .error message).exists_of_bind ran
  cases thrown

theorem writes_settle (w : Surroundings) (console : Console) (i : Invocation) :
    Writes (settle w console i) "" := by
  cases settled : i.settings w with
  | ok settings => exact settle_of_ok settled ▸ writes_pure settings
  | error failure =>
    cases failure with
    | crashed crash => exact settle_of_crashed settled ▸ writes_throw (by simp) ""
    | reported e => exact settle_of_reported settled ▸ writes_failWith (by simp) _

theorem settings_of_settle (ran : (settle w console i).run.run t = (.ok settings, s)) :
    i.settings w = .ok settings := by
  cases settled : i.settings w with
  | ok other =>
    rw [settle_of_ok settled] at ran
    cases ran
    rfl
  | error failure =>
    cases failure with
    | crashed crash =>
      rw [settle_of_crashed settled] at ran
      cases ran
    | reported e =>
      rw [settle_of_reported settled] at ran
      exact absurd ran failWith_ne_ok

theorem writes_deliver (w : Surroundings) (console : Console)
    (result : Except (Failure DocumentError) Snapshot) :
    Writes (deliver w console result) "" := by
  unfold deliver
  split
  · exact writes_pure _
  · exact writes_throw (by simp) ""
  next e => exact writes_failWith (by cases e <;> simp [exitCodeOf]) _

theorem result_of_deliver {result : Except (Failure DocumentError) Snapshot} {snapshot : Snapshot}
    (ran : (deliver w console result).run.run t = (.ok snapshot, s)) : result = .ok snapshot := by
  unfold deliver at ran
  split at ran
  · cases ran
    rfl
  · cases ran
  · exact absurd ran failWith_ne_ok

theorem writes_loadSnapshot (w : Surroundings) (console : Console) (settings : Settings) :
    Writes (loadSnapshot w console settings) "" :=
  (writes_say _ _).bind fun _ => writes_deliver w console _

theorem resolution_of_loadSnapshot {snapshot : Snapshot}
    (ran : (loadSnapshot w console settings).run.run t = (.ok snapshot, s)) :
    ∃ document, (w.resolution settings).1 = .ok document ∧
      snapshot = ⟨1, document, (w.resolution settings).2.outcomes⟩ := by
  obtain ⟨-, s', -, -, delivered⟩ := (writes_say _ _).exists_of_bind ran
  have loaded : ((freshStore settings).load w.disk w.externals).result = .ok snapshot :=
    result_of_deliver delivered
  cases resolved : (w.resolution settings).1 with
  | error failure =>
    have failed := @Store.load_of_error (freshStore settings) _ _ _ _ (Prod.ext resolved rfl)
    cases loaded.symm.trans failed.1
  | ok document =>
    have held := @Store.load_of_ok (freshStore settings) _ _ _ _ (Prod.ext resolved rfl)
    exact ⟨document, rfl, Except.ok.inj (loaded.symm.trans held.1)⟩

theorem writes_runCheck (plain : console.format = .plain) (strict : Bool) (snapshot : Snapshot) :
    Writes (runCheck w console strict snapshot)
      (Console.plainTable ["Source", "Status", "Reason", "Message"]
        (snapshot.outcomes.map outcomeRow)) := by
  refine (writes_put (Console.table_plain plain _ _ _ _)).bind fun _ =>
    (writes_say _ _).bind fun _ => ?_
  dsimp only
  split
  · refine (writes_say _ _).bind fun _ => ?_
    split
    · exact writes_throw (by simp) ""
    · exact writes_pure ()
  · exact writes_pure ()

theorem finish_misused (message : String) :
    (finish w console (.error (.misused message), t)).1 ≠ .success := by
  cases written : (console.diagnostic w.painter .error message).isOk with
  | true =>
    have reported : Ends (afterStop w console (.misused message)) (.ok .misuse) :=
      (ends_say written).bind (ends_pure _)
    obtain ⟨_, ended⟩ := reported.exists_eq t
    simp [finish, ended]
  | false =>
    have unreported : Ends (afterStop w console (.misused message)) (.error .crashed) :=
      (ends_say_error written).bind_error
    obtain ⟨_, ended⟩ := unreported.exists_eq t
    simp [finish, ended]

theorem finish_success {run : Run Unit} (goesOn : NeverQuits run)
    (succeeds : (finish w console (run.run.run t)).1 = .success) :
    run.run.run t = (.ok (), (finish w console (run.run.run t)).2) := by
  have goesOn := goesOn t
  generalize run.run.run t = ended at goesOn succeeds ⊢
  obtain ⟨result, s⟩ := ended
  cases result with
  | ok => rfl
  | error stop =>
    cases stop with
    | exit code =>
      obtain rfl : code = .success := succeeds
      exact absurd rfl goesOn
    | misused message => exact absurd succeeds (finish_misused message)
    | crashed =>
      have failed : (finish w console (.error .crashed, s)).1 = .failure :=
        finish_crashed (t := s) (ends_throw .crashed)
      cases succeeds.symm.trans failed

section Commands

variable {arguments : List String} {command : Command} {shown : Snapshot → Run Unit}
  (read : Invocation.read w.parser arguments = .ok i)
  (isCommand : Command.read w.parser i = .ok command)
  (made : i.console w = .ok console)
  (runs : ∀ settings,
    runCommand w console settings command = loadSnapshot w console settings >>= shown)

include read isCommand made runs

theorem run_eq_finish :
    run w arguments = finish w console ((settle w console i >>= fun settings =>
      loadSnapshot w console settings >>= shown).run.run {}) := by
  have goesThrough : runInvocation w console i =
      settle w console i >>= fun settings => loadSnapshot w console settings >>= shown := by
    simp only [runInvocation, isCommand, runs]
  simp only [run, read, made, goesThrough]

-- What a command that loads the project and shows something of it has printed if it succeeds.
theorem stdout_of_success {text : Snapshot → String}
    (writes : ∀ snapshot, Writes (shown snapshot) (text snapshot))
    (succeeds : (run w arguments).1 = .success) :
    ∃ settings document, i.settings w = .ok settings ∧ (w.resolution settings).1 = .ok document ∧
      (run w arguments).2.stdout = text ⟨1, document, (w.resolution settings).2.outcomes⟩ := by
  rw [run_eq_finish read isCommand made runs] at succeeds ⊢
  have whole := finish_success ((writes_settle w console i).goesOn.bind fun settings =>
    (writes_loadSnapshot w console settings).goesOn.bind fun snapshot => (writes snapshot).goesOn)
    succeeds
  obtain ⟨settings, s, settled, kept, rest⟩ := (writes_settle w console i).exists_of_bind whole
  obtain ⟨snapshot, s', loaded, kept', last⟩ :=
    (writes_loadSnapshot w console settings).exists_of_bind rest
  obtain ⟨document, resolved, isSnapshot⟩ := resolution_of_loadSnapshot loaded
  have written := (writes snapshot).stdout s' () _ last
  rw [kept', kept, isSnapshot] at written
  exact ⟨settings, document, settings_of_settle settled, resolved,
    written.trans String.empty_append⟩

theorem run_success {document : Document} (settled : i.settings w = .ok settings)
    (resolved : (w.resolution settings).1 = .ok document) (quiet : console.verbose = false)
    (ends : Ends (shown ⟨1, document, (w.resolution settings).2.outcomes⟩) (.ok ())) :
    (run w arguments).1 = .success := by
  rw [run_eq_finish read isCommand made runs, settle_of_ok settled, pure_bind]
  exact finish_ok ((ends_loaded quiet resolved).bind ends)

end Commands

theorem exists_console {arguments : List String} (read : Invocation.read w.parser arguments = .ok i)
    (succeeds : (run w arguments).1 = .success) : ∃ console, i.console w = .ok console := by
  cases made : i.console w with
  | ok console => exact ⟨console, rfl⟩
  | error crash => simp [run, read, made] at succeeds

theorem Invocation.plain_of_console (made : i.console w = .ok console)
    (plain : i.options.has "--plain") (noJson : i.options.has "--json" = false) :
    console.format = .plain := by
  rw [Invocation.console, noJson, plain] at made
  obtain ⟨width, -, made⟩ := bind_eq_ok.1 made
  cases made
  rfl

end Writing

end ApiCatalog.Cli
