import ApiCatalog.Proofs.PainterLaws
import ApiCatalog.Report.Wrap
import Mathlib.Tactic.Common

/-!
How the cells of a text add up, by characters and by graphemes.
-/

set_option autoImplicit false

namespace ApiCatalog.Text

-- Induction that can also skip the next character, as counting does after a joiner.
theorem skipInduction {P : List Char → Prop} (nil : P [])
    (cons : ∀ c rest, P rest → P rest.tail → P (c :: rest)) (cs : List Char) : P cs := by
  have both : P cs ∧ P cs.tail := by
    induction cs with
    | nil => exact ⟨nil, nil⟩
    | cons c rest ih => exact ⟨cons c rest ih.1 ih.2, ih.1⟩
  exact both.1

-- The cells that a selector adds to a character.
def widening (last : Option Char) : Nat := if last.any isSelectable then 1 else 0

section Characters

variable {c : Char} {cs before behind : List Char}

theorem cellsAfter_cons (last : Option Char) (c : Char) (rest : List Char) :
    cellsAfter last (c :: rest) =
      if c = joiner then cellsAfter last rest.tail
      else if c = selector then widening last + cellsAfter none rest
      else if cellWidth c = 0 then cellsAfter last rest
      else cellWidth c + cellsAfter (some c) rest := by
  cases rest with
  | nil =>
    simp only [cellsAfter, widening, List.tail_nil, Nat.add_zero]
    split_ifs <;> simp_all
  | cons d rest => simp only [cellsAfter, widening, List.tail_cons]

-- A character before can only widen what comes next.
theorem cellsAfter_none_le (last : Option Char) (cs : List Char) :
    cellsAfter none cs ≤ cellsAfter last cs := by
  induction cs using skipInduction with
  | nil => exact Nat.le_refl 0
  | cons c rest next skipped =>
    rw [cellsAfter_cons, cellsAfter_cons]
    split_ifs
    · exact skipped
    · exact Nat.add_le_add_right (Nat.zero_le _) _
    · exact next
    · exact Nat.le_refl _

theorem cellsAfter_le_append (last : Option Char) (before behind : List Char) :
    cellsAfter last before ≤ cellsAfter last (before ++ behind) := by
  induction before using skipInduction generalizing last with
  | nil => exact Nat.zero_le _
  | cons c rest next skipped =>
    rw [List.cons_append, cellsAfter_cons, cellsAfter_cons]
    split_ifs with isJoiner
    · cases rest with
      | nil => exact Nat.zero_le _
      | cons d rest => exact skipped last
    · exact Nat.add_le_add_left (next none) _
    · exact next last
    · exact Nat.add_le_add_left (next (some c)) _

theorem add_le_cellsAfter_append (ends : ∀ c ∈ before.getLast?, c ≠ joiner) (last : Option Char) :
    cellsAfter last before + cellsAfter none behind ≤ cellsAfter last (before ++ behind) := by
  induction before using skipInduction generalizing last with
  | nil => simpa [cellsAfter] using cellsAfter_none_le last behind
  | cons c rest next skipped =>
    have later : ∀ c ∈ rest.getLast?, c ≠ joiner := by
      cases rest with
      | nil => simp
      | cons d rest => simpa [List.getLast?_cons_cons] using ends
    rw [List.cons_append, cellsAfter_cons, cellsAfter_cons]
    split_ifs with isJoiner
    · cases rest with
      | nil => exact absurd isJoiner (ends c rfl)
      | cons d rest =>
        refine skipped ?_ last
        cases rest with
        | nil => simp
        | cons e rest => simpa [List.getLast?_cons_cons] using later
    · rw [Nat.add_assoc]
      exact Nat.add_le_add_left (next later none) _
    · exact next later last
    · rw [Nat.add_assoc]
      exact Nat.add_le_add_left (next later (some c)) _

theorem cellLength_le_of_prefix (isPrefix : before <+: cs) : cellLength before ≤ cellLength cs := by
  obtain ⟨behind, rfl⟩ := isPrefix
  exact cellsAfter_le_append none before behind

def cellsOfParts : List (List Char) → Nat
  | [] => 0
  | part :: parts => cellLength part + cellsOfParts parts

theorem cellsOfParts_le {parts : List (List Char)}
    (ends : ∀ part ∈ parts, ∀ c ∈ part.getLast?, c ≠ joiner) :
    cellsOfParts parts + cellLength behind ≤ cellLength (parts.flatten ++ behind) := by
  induction parts with
  | nil => simp [cellsOfParts]
  | cons part parts ih =>
    obtain ⟨first, others⟩ := List.forall_mem_cons.1 ends
    rw [cellsOfParts, List.flatten_cons, List.append_assoc, Nat.add_assoc]
    exact (Nat.add_le_add_left (ih others) _).trans (add_le_cellsAfter_append first none)

end Characters

section Graphemes

variable {g current : Grapheme} {gs : List Grapheme} {cs : List Char}

theorem Grapheme.after_cons (last : Option Char) (current : Grapheme) (c : Char)
    (rest : List Char) :
    after last current (c :: rest) =
      if c = joiner then after last (current.extend (c :: rest.take 1)) rest.tail
      else if c = selector then
        if last.any isSelectable then after none (current.extend [c]).widen rest
        else after last (current.extend [c]) rest
      else if cellWidth c = 0 then after last (current.extend [c]) rest
      else current :: after (some c) ⟨[c], cellWidth c⟩ rest := by
  cases rest with
  | nil =>
    simp only [after, List.take_nil, List.tail_nil]
    split_ifs <;> rfl
  | cons d rest => simp only [after, List.take_succ_cons, List.take_zero, List.tail_cons]

theorem cellTotal_cons (g : Grapheme) (gs : List Grapheme) :
    cellTotal (g :: gs) = g.cells + cellTotal gs := by
  have shift (n : Nat) : gs.foldl (fun n g => n + g.cells) n = n + cellTotal gs := by
    unfold cellTotal
    induction gs generalizing n with
    | nil => rfl
    | cons g gs ih => rw [List.foldl_cons, List.foldl_cons, ih, ih (0 + g.cells)]; omega
  rw [cellTotal, List.foldl_cons, shift]
  omega

theorem charsOf_cons (g : Grapheme) (gs : List Grapheme) :
    charsOf (g :: gs) = g.chars ++ charsOf gs := List.flatMap_cons

theorem Grapheme.charsOf_after (last : Option Char) (current : Grapheme) (cs : List Char) :
    charsOf (after last current cs) = current.chars ++ cs := by
  induction cs using skipInduction generalizing last current with
  | nil => simp [after, charsOf]
  | cons c rest next skipped =>
    rw [after_cons]
    split_ifs
    · rw [skipped]
      cases rest <;> simp [extend]
    · simp [next, extend, widen]
    · simp [next, extend]
    · simp [next, extend]
    · rw [charsOf_cons, next, List.singleton_append]

theorem charsOf_graphemes (cs : List Char) : charsOf (graphemes cs) = cs := by
  cases cs with
  | nil => rfl
  | cons c rest =>
    rw [graphemes]
    split <;> exact Grapheme.charsOf_after _ _ _

-- A grapheme has characters, and no more cells than its character if that is the only one.
structure Grapheme.Sound (g : Grapheme) : Prop where
  held : g.chars ≠ []
  narrow : ∀ c, g.chars = [c] → g.cells ≤ cellWidth c

theorem Grapheme.sound_single (c : Char) : Grapheme.Sound ⟨[c], cellWidth c⟩ := by
  refine ⟨List.cons_ne_nil c [], fun d same => ?_⟩
  rw [(List.cons.inj same).1]

theorem Grapheme.Sound.extend (sound : g.Sound) {cs : List Char} (held : cs ≠ []) (cells : Nat) :
    Grapheme.Sound ⟨g.chars ++ cs, cells⟩ := by
  refine ⟨List.append_ne_nil_of_left_ne_nil sound.held cs, fun c single => ?_⟩
  have length := congrArg List.length single
  have first := List.length_pos_iff.2 sound.held
  have second := List.length_pos_iff.2 held
  simp only [List.length_append, List.length_singleton] at length
  omega

theorem Grapheme.sound_after (last : Option Char) (sound : current.Sound) (cs : List Char) :
    ∀ g ∈ after last current cs, g.Sound := by
  induction cs using skipInduction generalizing last current with
  | nil => simpa [after] using sound
  | cons c rest next skipped =>
    rw [after_cons]
    split_ifs
    · exact skipped last (sound.extend (List.cons_ne_nil c _) _)
    · exact next none (sound.extend (List.cons_ne_nil c []) _)
    · exact next last (sound.extend (List.cons_ne_nil c []) _)
    · exact next last (sound.extend (List.cons_ne_nil c []) _)
    · exact List.forall_mem_cons.2 ⟨sound, next (some c) (sound_single c)⟩

theorem sound_graphemes (cs : List Char) : ∀ g ∈ graphemes cs, g.Sound := by
  cases cs with
  | nil => simp [graphemes]
  | cons c rest =>
    rw [graphemes]
    split
    · exact Grapheme.sound_after _ ⟨List.cons_ne_nil c [], fun d _ => Nat.zero_le _⟩ _
    · exact Grapheme.sound_after _ (Grapheme.sound_single c) _

theorem Grapheme.pos_after (last : Option Char) (wide : 0 < current.cells) (cs : List Char) :
    ∀ g ∈ after last current cs, 0 < g.cells := by
  induction cs using skipInduction generalizing last current with
  | nil => simpa [after] using wide
  | cons c rest next skipped =>
    rw [after_cons]
    split_ifs with _ _ _ noCells
    · exact skipped last wide
    · exact next none (Nat.succ_pos _)
    · exact next last wide
    · exact next last wide
    · exact List.forall_mem_cons.2 ⟨wide, next (some c) (Nat.pos_of_ne_zero noCells)⟩

theorem Grapheme.pos_tail_after (last : Option Char) (current : Grapheme) (cs : List Char) :
    ∀ g ∈ (after last current cs).tail, 0 < g.cells := by
  induction cs using skipInduction generalizing last current with
  | nil => simp [after]
  | cons c rest next skipped =>
    rw [after_cons]
    split_ifs with _ _ _ noCells
    · exact skipped last _
    · exact next none _
    · exact next last _
    · exact next last _
    · exact pos_after (some c) (Nat.pos_of_ne_zero noCells) rest

theorem pos_tail_graphemes (cs : List Char) : ∀ g ∈ (graphemes cs).tail, 0 < g.cells := by
  cases cs with
  | nil => simp [graphemes]
  | cons c rest =>
    rw [graphemes]
    split <;> exact Grapheme.pos_tail_after _ _ _

end Graphemes

section Narrow

variable {c : Char} {cs : List Char}

theorem ne_of_narrow {other : Char} (narrow : isNarrow c) (isWide : isNarrow other = false) :
    c ≠ other := by
  rintro rfl
  simp [narrow] at isWide

theorem cell_of_narrow (narrow : isNarrow c) : c ≠ joiner ∧ c ≠ selector ∧ cellWidth c = 1 := by
  refine ⟨ne_of_narrow narrow rfl, ne_of_narrow narrow rfl, ?_⟩
  unfold isNarrow at narrow
  rw [cellWidth, if_pos narrow]

theorem cellsAfter_of_narrow (narrow : ∀ c ∈ cs, isNarrow c) (last : Option Char) :
    cellsAfter last cs = cs.length := by
  induction cs generalizing last with
  | nil => rfl
  | cons c rest ih =>
    obtain ⟨first, others⟩ := List.forall_mem_cons.1 narrow
    cases rest with
    | nil => simp [cellsAfter, cell_of_narrow first]
    | cons d rest => simp [cellsAfter, cell_of_narrow first, ih others (some c), Nat.add_comm]

theorem cellLength_of_narrow (narrow : ∀ c ∈ cs, isNarrow c) : cellLength cs = cs.length :=
  cellsAfter_of_narrow narrow none

theorem Grapheme.after_of_narrow (narrow : ∀ c ∈ cs, isNarrow c) (last : Option Char)
    (current : Grapheme) : after last current cs = current :: cs.map fun c => ⟨[c], 1⟩ := by
  induction cs generalizing last current with
  | nil => rfl
  | cons c rest ih =>
    obtain ⟨first, others⟩ := List.forall_mem_cons.1 narrow
    cases rest with
    | nil => simp [after, cell_of_narrow first]
    | cons d rest => simp [after, cell_of_narrow first, ih others (some c) ⟨[c], 1⟩]

theorem graphemes_of_narrow (narrow : ∀ c ∈ cs, isNarrow c) :
    graphemes cs = cs.map fun c => ⟨[c], 1⟩ := by
  cases cs with
  | nil => rfl
  | cons c rest =>
    obtain ⟨first, others⟩ := List.forall_mem_cons.1 narrow
    simp [graphemes, cell_of_narrow first, Grapheme.after_of_narrow others]

theorem cellTotal_of_narrow (narrow : ∀ c ∈ cs, isNarrow c) :
    cellTotal (graphemes cs) = cs.length := by
  have total (cs : List Char) : cellTotal (cs.map fun c => ⟨[c], 1⟩) = cs.length := by
    induction cs with
    | nil => rfl
    | cons c rest ih => rw [List.map_cons, cellTotal_cons, ih, List.length_cons, Nat.add_comm]
  rw [graphemes_of_narrow narrow, total]

end Narrow

end ApiCatalog.Text
