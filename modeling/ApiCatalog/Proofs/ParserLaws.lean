import ApiCatalog.Cli.Standard
import ApiCatalog.Proofs.Results
import Mathlib.Data.List.Nodup
import Mathlib.Data.List.TakeWhile

/-!
What is known of what takes arguments apart, as hypotheses: options are read one after the other,
and a command goes on with all that follows it. The standard parser is such a one.
-/

set_option autoImplicit false

namespace ApiCatalog.Cli

-- An option that is given by its long name and may have any value.
structure CommandSpec.Offers (spec : CommandSpec) (o : OptionSpec) : Prop where
  member : o ∈ spec.options
  distinct : (spec.options.map (·.name)).Nodup
  dashed : "--".toList.isPrefixOf o.name.toList ∧ o.name ≠ "--"
  whole : '=' ∉ o.name.toList
  late : o.isEager = false
  free : o.choices = none

structure Parser.Laws (p : Parser) : Prop where
  -- An option in front of arguments that can be read is noted as given before all others.
  flag (spec : CommandSpec) (o : OptionSpec) (rest : List String) (a : Arguments)
    (offers : spec.Offers o) (noValue : o.takesValue = false) (read : p.read spec rest = .ok a) :
    p.read spec (o.name :: rest) = .ok (a.withOptions [⟨o.name, ""⟩])
  valued (spec : CommandSpec) (o : OptionSpec) (value : String) (rest : List String) (a : Arguments)
    (offers : spec.Offers o) (takesValue : o.takesValue) (read : p.read spec rest = .ok a) :
    p.read spec (o.name :: value :: rest) = .ok (a.withOptions [⟨o.name, value⟩])
  -- What follows a command is left to it.
  command (spec : CommandSpec) (command : String) (rest : List String)
    (isCommand : command ∈ spec.commands) (undashed : command.toList.head? ≠ some '-') :
    p.read spec (command :: rest) = .ok { values := command :: rest }
  nothing (spec : CommandSpec) (leaf : spec.commands = []) (needless : spec.needed = []) :
    p.read spec [] = .ok {}

namespace Parser

variable {spec : CommandSpec} {o : OptionSpec} {value : String} {rest : List String} {a : Arguments}

theorem readSpec_eq_ok {arguments : List String} : readSpec spec arguments = .ok a ↔
    readArguments spec.options spec.commands.isEmpty arguments = .ok a ∧ firstEager? spec a = none ∧
      checkValues spec a.values = .ok () ∧ badChoice? spec a = none := by
  rw [readSpec, bind_eq_ok]
  simp only [mapError_eq_ok]
  constructor
  · rintro ⟨b, read, later⟩
    split at later
    · cases later
    next late =>
      obtain ⟨⟨⟩, held, last⟩ := bind_eq_ok.1 later
      split at last
      · cases last
      next good =>
        cases last
        exact ⟨read, late, held, good⟩
  · rintro ⟨read, late, held, good⟩
    exact ⟨a, read, by simp [late, held, good, bind, Except.bind, pure, Except.pure]⟩

theorem find?_name (offers : spec.Offers o) :
    spec.options.find? (·.name == o.name) = some o := by
  obtain ⟨member, distinct⟩ := offers
  generalize spec.options = options at member distinct
  induction options with
  | nil => cases member
  | cons first others ih =>
    obtain ⟨apart, distinct⟩ := List.nodup_cons.1 distinct
    rcases List.mem_cons.1 member with rfl | later
    · exact List.find?_cons_of_pos (beq_self_eq_true _)
    · have differs : first.name ≠ o.name := fun same =>
        apart (List.mem_map.2 ⟨o, later, same.symm⟩)
      rw [List.find?_cons, beq_false_of_ne differs]
      exact ih later distinct

theorem readOption_name (offers : spec.Offers o) : readOption spec.options o.name =
    if o.takesValue then .ok ([], some o.name) else .ok ([⟨o.name, ""⟩], none) := by
  have whole : ∀ c ∈ o.name.toList, (c != '=') = true := by
    intro c member
    exact bne_iff_ne.2 fun same => offers.whole (same ▸ member)
  have name : o.name.toList.takeWhile (· != '=') = o.name.toList := by
    simpa [List.takeWhile_eq_self_iff] using whole
  have nothing : o.name.toList.dropWhile (· != '=') = [] := by
    simpa [List.dropWhile_eq_nil_iff] using whole
  simp only [readOption, name, nothing, String.ofList_toList, find?_name offers]

theorem isOption_name (offers : spec.Offers o) : isOption o.name := by
  obtain ⟨more, whole⟩ := List.isPrefixOf_iff_prefix.1 offers.dashed.1
  simp [isOption, ← whole]

theorem readArguments_flag (offers : spec.Offers o) (noValue : o.takesValue = false)
    (mixed : Bool) : readArguments spec.options mixed (o.name :: rest) =
      (readArguments spec.options mixed rest).map (·.withOptions [⟨o.name, ""⟩]) := by
  rw [readArguments, if_pos (isOption_name offers), readOption_name offers, noValue]
  · rfl
  · exact offers.dashed.2

theorem readArguments_valued (offers : spec.Offers o) (takesValue : o.takesValue) (mixed : Bool) :
    readArguments spec.options mixed (o.name :: value :: rest) =
      (readArguments spec.options mixed rest).map (·.withOptions [⟨o.name, value⟩]) := by
  rw [readArguments, if_pos (isOption_name offers), readOption_name offers, if_pos takesValue]
  · rfl
  · exact offers.dashed.2

theorem firstEager?_withOptions (offers : spec.Offers o) (value : String) :
    firstEager? spec (a.withOptions [⟨o.name, value⟩]) = firstEager? spec a := by
  have late : (spec.options.any fun other => other.name == o.name && other.isEager) = false := by
    rw [List.any_eq_false]
    intro other member
    simp only [Bool.and_eq_true, beq_iff_eq, not_and]
    intro same
    rw [List.inj_on_of_nodup_map offers.distinct member offers.member same, offers.late]
    exact Bool.false_ne_true
  simp only [firstEager?, Arguments.withOptions, List.singleton_append]
  rw [List.find?_cons_of_neg (by simp [late])]

theorem badChoice?_withOptions (offers : spec.Offers o) (value : String)
    (good : badChoice? spec a = none) :
    badChoice? spec (a.withOptions [⟨o.name, value⟩]) = none := by
  rw [badChoice?, List.findSome?_eq_none_iff] at good ⊢
  intro other member
  have good := good other member
  by_cases same : other.name = o.name
  · rw [List.inj_on_of_nodup_map offers.distinct member offers.member same, offers.free]
    rfl
  · have kept : (a.withOptions [⟨o.name, value⟩]).value? other.name = a.value? other.name := by
      simp [Arguments.value?, Arguments.withOptions, Ne.symm same]
    rwa [kept]

theorem readSpec_withOptions (offers : spec.Offers o) {arguments : List String}
    (first : readArguments spec.options spec.commands.isEmpty arguments =
      (readArguments spec.options spec.commands.isEmpty rest).map
        (·.withOptions [⟨o.name, value⟩]))
    (read : readSpec spec rest = .ok a) :
    readSpec spec arguments = .ok (a.withOptions [⟨o.name, value⟩]) := by
  obtain ⟨read, late, held, good⟩ := readSpec_eq_ok.1 read
  refine readSpec_eq_ok.2 ⟨?_, ?_, held, badChoice?_withOptions offers value good⟩
  · rw [first, read]
    rfl
  · rwa [firstEager?_withOptions offers]

theorem laws_standard : standard.Laws where
  flag _ _ _ _ offers noValue :=
    readSpec_withOptions offers (readArguments_flag offers noValue _)
  valued _ _ _ _ _ offers takesValue :=
    readSpec_withOptions offers (readArguments_valued offers takesValue _)
  command spec command rest isCommand undashed := by
    have group : spec.commands.isEmpty = false := by
      simpa using List.ne_nil_of_mem isCommand
    have isValue : isOption command = false := by
      unfold isOption
      split
      next chars => simp [chars] at undashed
      next => rfl
    refine readSpec_eq_ok.2 ⟨?_, rfl, ?_, ?_⟩
    · rw [group, readArguments, isValue]
      · rfl
      · rintro rfl
        simp at undashed
    · simp [checkValues, group, isCommand]
    · rw [badChoice?, List.findSome?_eq_none_iff]
      intro o _
      cases o.choices <;> rfl
  nothing spec leaf needless := by
    refine readSpec_eq_ok.2 ⟨?_, rfl, ?_, ?_⟩
    · rfl
    · simp [checkValues, leaf, needless]
    · rw [badChoice?, List.findSome?_eq_none_iff]
      intro o _
      cases o.choices <;> rfl

end Parser

end ApiCatalog.Cli
