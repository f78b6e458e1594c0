import ApiCatalog.Proofs.Pieces

/-!
What comments are read as. The text of a line comment is trimmed and has no line feed. The text of a
doc comment is one trimmed line, and does not hold the mark that closes it.
-/

set_option autoImplicit false

namespace ApiCatalog

open Text

theorem isOneLine_trim {cs : List Char} (oneLine : '\n' ∉ cs) :
    isOneLine (String.ofList (trim cs)) := by
  rw [isOneLine_iff, String.toList_ofList]
  exact ⟨trim_trim cs, fun found => oneLine ((trim_isInfix cs).subset found)⟩

section Lines

variable {cs line : List Char}

theorem linesFrom_isInfix {started : List Char} (found : line ∈ linesFrom cs started) :
    line <:+: started.reverse ++ cs := by
  -- On the text: what has been started of a line is kept in reverse.
  fun_induction linesFrom cs started with
  | case1 => cases found
  | case2 started held =>
    obtain rfl := List.mem_singleton.1 found
    exact (List.prefix_append _ _).isInfix
  | case3 rest started ih =>
    rcases List.mem_cons.1 found with rfl | later
    · exact (List.prefix_append _ _).isInfix
    · exact (ih later).trans ⟨started.reverse ++ ['\r', '\n'], [], by simp⟩
  | case4 c rest started notPair ends ih =>
    rcases List.mem_cons.1 found with rfl | later
    · exact (List.prefix_append _ _).isInfix
    · exact (ih later).trans ⟨started.reverse ++ [c], [], by simp⟩
  | case5 c rest started notPair goesOn ih => simpa using ih found

theorem linesFrom_no_end {started : List Char} (clean : ∀ c ∈ started, isLineEnd c = false)
    (found : line ∈ linesFrom cs started) : ∀ c ∈ line, isLineEnd c = false := by
  fun_induction linesFrom cs started with
  | case1 => cases found
  | case2 started held =>
    obtain rfl := List.mem_singleton.1 found
    simpa using clean
  | case3 rest started ih =>
    rcases List.mem_cons.1 found with rfl | later
    · simpa using clean
    · exact ih (by simp) later
  | case4 c rest started notPair ends ih =>
    rcases List.mem_cons.1 found with rfl | later
    · simpa using clean
    · exact ih (by simp) later
  | case5 c rest started notPair goesOn ih =>
    exact ih (List.forall_mem_cons.2 ⟨by simpa using goesOn, clean⟩) found

end Lines

section DocTexts

variable {first rest : List Char}

theorem isDocText_ofList {cs : List Char} : IsDocText (String.ofList cs) ↔
    trim cs = cs ∧ (∀ c ∈ cs, isLineEnd c = false) ∧ ¬ ['*', '/'] <:+: cs := by
  rw [IsDocText, String.toList_ofList]

theorem unclosed_join (start : ¬ ['*', '/'] <:+: first) (later : ¬ ['*', '/'] <:+: rest) :
    ¬ ['*', '/'] <:+: first ++ ' ' :: rest := by
  induction first with
  | nil => simpa [List.infix_cons_iff] using later
  | cons c more ih =>
    rw [List.infix_cons_iff, not_or] at start
    rw [List.cons_append, List.infix_cons_iff, not_or]
    refine ⟨?_, ih start.2⟩
    -- A star at the end of the first text is followed by a space.
    cases more with
    | nil => simp
    | cons d more => simpa using start.1

theorem trim_join (start : trim first = first) (later : trim rest = rest) (held : first ≠ [])
    (held' : rest ≠ []) : trim (first ++ ' ' :: rest) = first ++ ' ' :: rest := by
  obtain ⟨inked, -⟩ := trim_eq_self_iff.1 start
  obtain ⟨-, inked'⟩ := trim_eq_self_iff.1 later
  obtain ⟨c, more, rfl⟩ := List.exists_cons_of_ne_nil held
  obtain ⟨d, more', rfl⟩ := List.exists_cons_of_ne_nil held'
  have last : (c :: more ++ ' ' :: d :: more').getLast? = (d :: more').getLast? := by
    simp [List.getLast?_append, List.getLast?_cons]
  exact trim_eq_self_iff.2 ⟨inked, by rwa [last]⟩

theorem isDocText_join (start : IsDocText (String.ofList first))
    (later : IsDocText (String.ofList rest)) (held : first ≠ []) (held' : rest ≠ []) :
    IsDocText (String.ofList (first ++ ' ' :: rest)) := by
  rw [isDocText_ofList] at start later ⊢
  obtain ⟨trimmed, flat, unclosed⟩ := start
  obtain ⟨trimmed', flat', unclosed'⟩ := later
  refine ⟨trim_join trimmed trimmed' held held', ?_, unclosed_join unclosed unclosed'⟩
  intro c found
  simp only [List.mem_append, List.mem_cons] at found
  rcases found with inFirst | rfl | inRest
  · exact flat c inFirst
  · decide
  · exact flat' c inRest

theorem isDocText_intercalate {parts : List (List Char)}
    (each : ∀ part ∈ parts, IsDocText (String.ofList part) ∧ part ≠ []) :
    IsDocText (String.ofList ([' '].intercalate parts)) ∧
      (parts ≠ [] → [' '].intercalate parts ≠ []) := by
  induction parts with
  | nil => exact ⟨by decide, by simp⟩
  | cons first rest ih =>
    obtain ⟨⟨start, held⟩, others⟩ := List.forall_mem_cons.1 each
    cases rest with
    | nil => simpa using ⟨start, held⟩
    | cons second rest =>
      obtain ⟨later, held'⟩ := ih others
      have spaced : [' '].intercalate (first :: second :: rest) =
          first ++ ' ' :: [' '].intercalate (second :: rest) := by simp [List.intercalate]
      rw [spaced]
      exact ⟨isDocText_join start later held (held' (by simp)), by simp⟩

theorem isDocText_docLiteral {body : List Char} (unclosed : ¬ ['*', '/'] <:+: body) :
    IsDocText (String.ofList (docLiteral body)) := by
  -- Whatever is kept of a line is a piece of the body, so it does not hold the mark either.
  refine (isDocText_intercalate fun part found => ?_).1
  obtain ⟨decorated, held⟩ := List.mem_filter.1 found
  obtain ⟨line, isLine, rfl⟩ := List.mem_map.1 decorated
  have inside : trim ((trim line).dropWhile (· == '*')) <:+: line :=
    (trim_isInfix _).trans ((List.dropWhile_suffix _).isInfix.trans (trim_isInfix line))
  have ofBody : line <:+: body := linesFrom_isInfix isLine
  refine ⟨isDocText_ofList.2 ⟨trim_trim _, fun c part => ?_, fun closed => ?_⟩, by simpa using held⟩
  · exact linesFrom_no_end (by simp) isLine c (inside.subset part)
  · exact unclosed (closed.trans (inside.trans ofBody))

end DocTexts

section Spelled

variable {literal spelling rest : List Char}

theorem Spells.isOneLine (spells : Spells .comment literal spelling rest) :
    isOneLine (String.ofList literal) := by
  cases spells with
  | mark isMark => exact absurd (mark_kind isMark) (by decide)
  | comment oneLine => exact isOneLine_trim oneLine

theorem Spells.isDocText (spells : Spells .docComment literal spelling rest) :
    IsDocText (String.ofList literal) := by
  cases spells with
  | mark isMark => exact absurd (mark_kind isMark) (by decide)
  | docComment unclosed => exact isDocText_docLiteral unclosed

end Spelled

end ApiCatalog
