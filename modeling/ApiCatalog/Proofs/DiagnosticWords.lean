import ApiCatalog.Proofs.StandardPainter

/-!
When a diagnostic reads the same with colours and without them. Colours go through markup and are
laid out, so the message must mean nothing to the one, and fit the other.
-/

set_option autoImplicit false

namespace ApiCatalog

namespace Markup

structure IsLiteral (t : Typesetter) (text : List Char) : Prop extends IsUntagged text where
  uncoded : t.emoji text = text

variable {t : Typesetter} {text : List Char}

theorem count_colons_le {p : Painter} (laws : p.Laws t) (text : List Char) :
    (t.emoji text).count ':' ≤ text.count ':' := by
  rcases laws.emoji_colons text with same | less
  · rw [same]
  · exact less.le

theorem isLiteral_cons_blank {p : Painter} (laws : p.Laws t) :
    IsLiteral t (' ' :: text) ↔ IsLiteral t text := by
  refine ⟨fun literal => ⟨isUntagged_cons_blank.1 literal.toIsUntagged, ?_⟩,
    fun literal => ⟨isUntagged_cons_blank.2 literal.toIsUntagged, ?_⟩⟩
  · exact (List.cons.inj ((laws.emoji_cons_blank text).symm.trans literal.uncoded)).2
  · rw [laws.emoji_cons_blank, literal.uncoded]

theorem isLiteral_of_unmarked {p : Painter} (laws : p.Laws t)
    (unmarked : ∀ c ∈ text, isUnmarked c) (few : text.count ':' ≤ 1) : IsLiteral t text :=
  ⟨isUntagged_of_unmarked unmarked, laws.emoji_few text few⟩

theorem count_styled (name : String) (known : name ∈ styleNames) (inside behind : List Char) :
    (styled name.toList inside behind).count '\\' = (inside ++ behind).count '\\' := by
  have none : ∀ name ∈ styleNames, '\\' ∉ name.toList := by decide
  simp [styled, tagged, bracketed, List.count_eq_zero.2 (none name known)]

theorem isTag_style {name : String} (known : name ∈ styleNames) :
    IsTag name.toList ∧ IsTag ('/' :: name.toList) := by
  simp only [styleNames, List.mem_cons, List.not_mem_nil, or_false] at known
  rcases known with rfl | rfl | rfl <;> simp [IsTag, opensTag, isInner]

end Markup

section Printed

variable {p : Painter} {t : Typesetter} (laws : p.Laws t) {width : Nat}

include laws

theorem Painter.Laws.not_escaped {text shown : List Char}
    (printed : p.print width text = .ok (shown ++ ['\n']))
    (enough : text.count '\\' ≤ shown.count '\\') : ¬ ['\\', '['] <:+: text := by
  intro escaped
  have less := laws.print_escaped width text _ escaped printed
  have whole : (shown ++ ['\n']).count '\\' = shown.count '\\' := by simp
  omega

theorem Painter.Laws.print_tagged_ne {parts : List (List Char × List Char)}
    {last shown : List Char} (tags : ∀ part ∈ parts, Markup.IsTag part.2)
    (unescaped : ¬ ['\\', '['] <:+: Markup.tagged parts last)
    (less : (Markup.aroundTags parts last).count '[' < shown.count '[') :
    p.print width (Markup.tagged parts last) ≠ .ok (shown ++ ['\n']) := by
  intro printed
  have fewer := laws.print_tagged width parts last _ tags unescaped printed
  rw [List.count_append] at fewer
  omega

theorem Painter.Laws.print_text_iff {text : List Char} :
    p.print width text = .ok (text ++ ['\n']) ↔ Markup.IsLiteral t text ∧ t.Keeps width text := by
  constructor
  · intro printed
    have unescaped := laws.not_escaped printed (Nat.le_refl _)
    have isUntagged : Markup.IsUntagged text := by
      refine Markup.isUntagged_of_no_tag unescaped ?_
      rintro before tag behind isTag rfl
      refine laws.print_tagged_ne (List.forall_mem_singleton.2 isTag) unescaped ?_ printed
      simp only [Markup.aroundTags, Markup.tagged, Markup.bracketed, List.flatMap_singleton,
        List.count_append, List.cons_append, List.count_cons_self]
      omega
    rw [laws.print_untagged width text isUntagged] at printed
    have colons := laws.lay_colons width _ _ printed
    have uncoded : t.emoji text = text := by
      refine (laws.emoji_colons text).resolve_right fun less => ?_
      simp at colons
      omega
    rw [uncoded] at printed
    exact ⟨⟨isUntagged, uncoded⟩, (laws.lay_eq_iff width text).1 printed⟩
  · rintro ⟨⟨isUntagged, uncoded⟩, keeps⟩
    rw [laws.print_untagged width text isUntagged, uncoded]
    exact (laws.lay_eq_iff width text).2 keeps

theorem Painter.Laws.isUntagged_of_styled {name : String} {inside behind : List Char}
    (known : name ∈ Markup.styleNames)
    (printed : p.print width (Markup.styled name.toList inside behind) =
      .ok (inside ++ behind ++ ['\n'])) :
    Markup.IsUntagged inside ∧ inside.getLast? ≠ some '\\' ∧ Markup.IsUntagged behind := by
  have unescaped := laws.not_escaped printed (Markup.count_styled name known inside behind).le
  obtain ⟨opens, closes⟩ := Markup.isTag_style known
  refine ⟨Markup.isUntagged_of_no_tag ?_ ?_, fun last => ?_, Markup.isUntagged_of_no_tag ?_ ?_⟩
  · intro escaped
    exact unescaped (escaped.trans ⟨Markup.bracketed name.toList,
      Markup.bracketed ('/' :: name.toList) ++ behind, by simp [Markup.styled, Markup.tagged]⟩)
  · rintro before tag rest isTag rfl
    have split : Markup.styled name.toList (Markup.tagged [(before, tag)] rest) behind =
        Markup.tagged [([], name.toList), (before, tag), (rest, '/' :: name.toList)] behind := by
      simp [Markup.styled, Markup.tagged]
    rw [split] at printed unescaped
    refine laws.print_tagged_ne (by simp [opens, closes, isTag]) unescaped ?_ printed
    simp only [Markup.aroundTags, Markup.tagged, Markup.bracketed, List.flatMap_cons,
      List.flatMap_nil, List.append_nil, List.nil_append, List.append_assoc, List.cons_append,
      List.count_append, List.count_cons, Char.reduceBEq, Bool.false_eq_true, if_true, if_false]
    omega
  · obtain ⟨before, rfl⟩ := List.getLast?_eq_some_iff.1 last
    exact unescaped ⟨Markup.bracketed name.toList ++ before, '/' :: name.toList ++ [']'] ++ behind,
      by simp [Markup.styled, Markup.tagged, Markup.bracketed]⟩
  · intro escaped
    exact unescaped (escaped.trans ⟨Markup.styled name.toList inside [], [],
      by simp [Markup.styled, Markup.tagged]⟩)
  · rintro before tag rest isTag rfl
    have split : Markup.styled name.toList inside (Markup.tagged [(before, tag)] rest) =
        Markup.tagged [([], name.toList), (inside, '/' :: name.toList), (before, tag)] rest := by
      simp [Markup.styled, Markup.tagged]
    rw [split] at printed unescaped
    refine laws.print_tagged_ne (by simp [opens, closes, isTag]) unescaped ?_ printed
    simp only [Markup.aroundTags, Markup.tagged, Markup.bracketed, List.flatMap_cons,
      List.flatMap_nil, List.append_nil, List.nil_append, List.append_assoc, List.cons_append,
      List.count_append, List.count_cons, Char.reduceBEq, Bool.false_eq_true, if_true, if_false]
    omega

theorem Painter.Laws.print_styled_iff {name : String} {inside behind : List Char}
    (known : name ∈ Markup.styleNames) :
    p.print width (Markup.styled name.toList inside behind) = .ok (inside ++ behind ++ ['\n']) ↔
      (Markup.IsLiteral t inside ∧ inside.getLast? ≠ some '\\' ∧ Markup.IsLiteral t behind) ∧
        t.Keeps width (inside ++ behind) := by
  constructor
  · intro printed
    obtain ⟨inner, ended, outer⟩ := laws.isUntagged_of_styled known printed
    rw [laws.print_styled width name inside behind known inner ended outer] at printed
    have colons := laws.lay_colons width _ _ printed
    have first := Markup.count_colons_le laws inside
    have second := Markup.count_colons_le laws behind
    simp only [List.count_append] at colons
    have uncoded : t.emoji inside = inside := by
      refine (laws.emoji_colons inside).resolve_right fun less => ?_
      omega
    have uncoded' : t.emoji behind = behind := by
      refine (laws.emoji_colons behind).resolve_right fun less => ?_
      omega
    rw [uncoded, uncoded'] at printed
    exact ⟨⟨⟨inner, uncoded⟩, ended, outer, uncoded'⟩, (laws.lay_eq_iff width _).1 printed⟩
  · rintro ⟨⟨⟨inner, uncoded⟩, ended, outer, uncoded'⟩, keeps⟩
    rw [laws.print_styled width name inside behind known inner ended outer, uncoded, uncoded']
    exact (laws.lay_eq_iff width _).2 keeps

end Printed

namespace Severity

/-- With colours a diagnostic is written word for word. Debugging never is, for markup takes its
label for a tag. -/
structure IsVerbatim (severity : Severity) (t : Typesetter) (width : Nat) (message : String) :
    Prop where
  labelled : severity ≠ .debug
  literal : Markup.IsLiteral t message.toList
  ended : severity = .success → message.toList.getLast? ≠ some '\\'
  keeps : t.Keeps width (severity.plainText message).toList

section Markup

variable {p : Painter} {t : Typesetter} (laws : p.Laws t) {severity : Severity} {message : String}
  {width : Nat}

include laws

theorem IsLabelled.print_iff {name label : String} (isLabelled : severity.IsLabelled name label) :
    p.print width (severity.markup message).toList =
        .ok ((severity.plainText message).toList ++ ['\n']) ↔
      Markup.IsLiteral t message.toList ∧ t.Keeps width (severity.plainText message).toList := by
  have unmarked := List.all_eq_true.1 isLabelled.label.unmarked
  have literal := Markup.isLiteral_of_unmarked laws unmarked isLabelled.label.count.le
  have ended := Markup.ended_of_unmarked unmarked
  rw [isLabelled.markup, isLabelled.plain, laws.print_styled_iff isLabelled.known,
    Markup.isLiteral_cons_blank laws]
  simp [literal, ended]

-- The label is a tag, and so is what ends the style, or else a backslash goes away.
theorem print_debug_ne : p.print width (markup message .debug).toList ≠
    .ok ((plainText message .debug).toList ++ ['\n']) := by
  intro printed
  have text : markup message .debug = "[dim][debug] " ++ message ++ "[/dim]" := rfl
  have plain : plainText message .debug = "[debug] " ++ message := rfl
  have split : (markup message .debug).toList = Markup.tagged [([], "dim".toList),
      ([], "debug".toList), (' ' :: message.toList, ['/', 'd', 'i', 'm'])] [] := by
    simp [text, Markup.tagged, Markup.bracketed]
  have unescaped := laws.not_escaped printed (by simp [text, plain])
  rw [split] at printed unescaped
  have tags : ∀ part ∈ [([], "dim".toList), ([], "debug".toList),
      (' ' :: message.toList, ['/', 'd', 'i', 'm'])], Markup.IsTag part.2 := by
    simp [Markup.IsTag, Markup.opensTag, Markup.isInner]
  refine laws.print_tagged_ne tags unescaped ?_ printed
  simp [plain, Markup.aroundTags]

theorem print_markup_iff : p.print width (severity.markup message).toList =
      .ok ((severity.plainText message).toList ++ ['\n']) ↔
    severity.IsVerbatim t width message := by
  have nil : Markup.IsLiteral t [] :=
    Markup.isLiteral_of_unmarked laws (List.forall_mem_nil _) (Nat.zero_le _)
  constructor
  · intro printed
    cases severity with
    | info =>
      obtain ⟨literal, keeps⟩ := laws.print_text_iff.1 printed
      exact ⟨nofun, literal, nofun, keeps⟩
    | success =>
      rw [markup_success, ← List.append_nil (plainText message .success).toList] at printed
      obtain ⟨⟨literal, ended, -⟩, keeps⟩ := (laws.print_styled_iff (by decide)).1 printed
      rw [List.append_nil] at keeps
      exact ⟨nofun, literal, fun _ => ended, keeps⟩
    | warning =>
      obtain ⟨literal, keeps⟩ := (isLabelled_warning.print_iff laws).1 printed
      exact ⟨nofun, literal, nofun, keeps⟩
    | error =>
      obtain ⟨literal, keeps⟩ := (isLabelled_error.print_iff laws).1 printed
      exact ⟨nofun, literal, nofun, keeps⟩
    | debug => exact absurd printed (print_debug_ne laws)
  · rintro ⟨labelled, literal, ended, keeps⟩
    cases severity with
    | info => exact laws.print_text_iff.2 ⟨literal, keeps⟩
    | success =>
      rw [← List.append_nil (plainText message .success).toList] at keeps ⊢
      rw [markup_success]
      exact (laws.print_styled_iff (by decide)).2 ⟨⟨literal, ended rfl, nil⟩, keeps⟩
    | warning => exact (isLabelled_warning.print_iff laws).2 ⟨literal, keeps⟩
    | error => exact (isLabelled_error.print_iff laws).2 ⟨literal, keeps⟩
    | debug => exact absurd rfl labelled

end Markup

end Severity

namespace Console

/-- A diagnostic can be written, and reads the same with colours and without them. -/
def SameWords (c : Console) (p : Painter) (severity : Severity) (message : String) : Prop :=
  ∃ text, ({ c with color := true } : Console).diagnostic p severity message = .ok text ∧
    ({ c with color := false } : Console).diagnostic p severity message = .ok text

variable {p : Painter} {t : Typesetter} {c : Console} {severity : Severity} {message : String}

theorem isShown_color (c : Console) (color : Bool) (severity : Severity) :
    ({ c with color } : Console).isShown severity = c.isShown severity := by
  cases severity <;> rfl

theorem diagnostic_uncolored (shown : c.isShown severity) :
    ({ c with color := false } : Console).diagnostic p severity message =
      .ok (line (severity.plainText message)) := by
  rw [diagnostic, isShown_color, shown]
  rfl

theorem diagnostic_colored (shown : c.isShown severity) :
    ({ c with color := true } : Console).diagnostic p severity message =
      (p.print c.width (severity.markup message).toList).map String.ofList := by
  rw [diagnostic, isShown_color, shown]
  rfl

theorem sameWords_of_hidden (hidden : c.isShown severity = false) :
    c.SameWords p severity message := by
  have empty (color : Bool) :
      ({ c with color } : Console).diagnostic p severity message = .ok "" := by
    rw [diagnostic, isShown_color, hidden]
    rfl
  exact ⟨"", empty true, empty false⟩

theorem sameWords_iff_print (shown : c.isShown severity) :
    c.SameWords p severity message ↔ p.print c.width (severity.markup message).toList =
      .ok ((severity.plainText message).toList ++ ['\n']) := by
  have line_eq : String.ofList ((severity.plainText message).toList ++ ['\n']) =
      line (severity.plainText message) := by
    rw [String.ofList_append, String.ofList_toList]
    rfl
  constructor
  · rintro ⟨text, colored, uncolored⟩
    rw [diagnostic_uncolored shown, ← line_eq] at uncolored
    rw [diagnostic_colored shown] at colored
    obtain ⟨chars, printed, same⟩ := map_eq_ok.1 colored
    cases uncolored
    rw [printed, String.ofList_injective same]
  · intro printed
    refine ⟨_, ?_, diagnostic_uncolored shown⟩
    rw [diagnostic_colored shown, printed, ← line_eq]
    rfl

/-- Colours change no word of a diagnostic exactly if it is not shown at all, or is verbatim. -/
theorem sameWords_iff (laws : p.Laws t) (c : Console) (severity : Severity) (message : String) :
    c.SameWords p severity message ↔
      (c.isShown severity → severity.IsVerbatim t c.width message) := by
  cases shown : c.isShown severity with
  | false => exact iff_of_true (sameWords_of_hidden shown) nofun
  | true =>
    rw [sameWords_iff_print shown, Severity.print_markup_iff laws]
    exact ⟨fun isVerbatim _ => isVerbatim, fun isVerbatim => isVerbatim rfl⟩

theorem sameWords_done : ({} : Console).SameWords .standard .warning "done" ∧
    ¬ ({} : Console).SameWords .standard .info "[b]done" := by
  constructor
  · refine (sameWords_iff Painter.laws_standard {} .warning "done").2
      fun _ => ⟨nofun, ?_, nofun, ?_⟩
    · exact Markup.isLiteral_of_unmarked Painter.laws_standard
        (List.all_eq_true.1 (by decide : "done".toList.all Markup.isUnmarked)) (by decide)
    · have oneLine : (Severity.plainText "done" .warning).toList.splitOn '\n' =
          ["Warning: done".toList] := by decide
      have narrow := List.all_eq_true.1 (by decide : "Warning: done".toList.all Text.isNarrow)
      have still := List.all_eq_true.1 (by decide : "Warning: done".toList.all fun c =>
        c != '\t' && !Text.movesCursor c)
      refine ⟨by decide, fun c member => by simpa using still c member, ?_⟩
      rw [oneLine, List.forall_mem_singleton]
      exact (Painter.laws_standard.fits_narrow 80 _ narrow).2 (by decide)
  · intro same
    have isVerbatim := (sameWords_iff Painter.laws_standard {} .info "[b]done").1 same rfl
    exact isVerbatim.literal.untagged ['b'] ⟨by decide, List.forall_mem_nil _⟩
      ⟨[], "done".toList, by decide⟩

-- What is only for debugging never reads the same.
theorem not_sameWords_debug (laws : p.Laws t) (verbose : c.verbose) (message : String) :
    ¬ c.SameWords p .debug message := by
  have shown : c.isShown .debug := verbose
  rw [sameWords_iff_print shown]
  exact Severity.print_debug_ne laws

theorem not_sameWords_unlabelled :
    ({ verbose := true, color := false } : Console).diagnostic .standard .debug "d" =
        .ok "[debug] d\n" ∧
      ¬ ({ verbose := true } : Console).SameWords .standard .debug "d" :=
  ⟨rfl, not_sameWords_debug Painter.laws_standard rfl "d"⟩

end Console

end ApiCatalog
