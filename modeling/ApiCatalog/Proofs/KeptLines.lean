import ApiCatalog.Proofs.CellCounts
import ApiCatalog.Proofs.TableTexts
import Mathlib.Data.List.TakeDrop

/-!
Which texts are wrapped without a change: those with no tabs and no characters that move the cursor,
all of whose lines fit the width. In any other case wrapping shows, because it adds nothing but
blanks and line feeds to a text.
-/

set_option autoImplicit false

namespace ApiCatalog.Wrap

open Text

-- A line fits a width: in cells, and also in characters if it ends with a blank. Its cells may
-- be counted by graphemes, which are fewer if it starts with two joiners.
structure Fits (width : Nat) (line : List Char) : Prop where
  narrow : cellLength line ≤ width ∨
    divide width line = [line] ∧ cellTotal (graphemes line) = width
  ended : line.length ≤ width ∨ ∀ c ∈ line.getLast?, isBlank c = false

def IsStill (text : List Char) : Prop := ∀ c ∈ text, c ≠ '\t' ∧ isControl c = false

structure IsKept (width : Nat) (text : List Char) : Prop where
  still : IsStill text
  fits : ∀ line ∈ text.splitOn '\n', Fits width line

section Cutting

variable {width room : Nat} {line : List Char} {gs : List Grapheme}

theorem fit_eq_charsOf (wide : ∀ g ∈ gs.tail, 0 < g.cells) (some : 0 < room)
    (enough : cellTotal gs ≤ room) : fit room gs = charsOf gs := by
  induction gs generalizing room with
  | nil => rfl
  | cons g rest ih =>
    rw [cellTotal_cons] at enough
    have fits : g.cells ≤ room := by omega
    rw [fit, if_neg (Nat.ne_of_gt some), if_pos fits, charsOf_cons]
    cases rest with
    | nil => rfl
    | cons h more =>
      obtain ⟨first, others⟩ := List.forall_mem_cons.1 wide
      rw [cellTotal_cons] at enough
      rw [ih others (by omega) (by rw [cellTotal_cons]; omega)]

theorem le_of_fit_eq (sound : ∀ g ∈ gs, g.Sound) (same : fit room gs = charsOf gs) :
    cellTotal gs ≤ room := by
  induction gs generalizing room with
  | nil => exact Nat.zero_le room
  | cons g rest ih =>
    obtain ⟨first, others⟩ := List.forall_mem_cons.1 sound
    rw [fit, charsOf_cons] at same
    split at same
    · exact absurd (List.append_eq_nil_iff.1 same.symm).1 first.held
    next someRoom =>
      split at same
      next fits =>
        have later := ih others (List.append_cancel_left same)
        rw [cellTotal_cons]
        omega
      next wide =>
        -- A blank stands for a grapheme that is too wide, which is no blank itself.
        rcases List.append_eq_singleton_iff.1 same.symm with ⟨none, -⟩ | ⟨single, -⟩
        · exact absurd none first.held
        · have narrow : g.cells ≤ 1 := first.narrow ' ' single
          omega

theorem length_fit_le (sound : ∀ g ∈ gs, g.Sound) :
    (fit room gs).length ≤ (charsOf gs).length := by
  induction gs generalizing room with
  | nil => exact Nat.zero_le _
  | cons g rest ih =>
    obtain ⟨first, others⟩ := List.forall_mem_cons.1 sound
    have held := List.length_pos_iff.2 first.held
    rw [fit, charsOf_cons, List.length_append]
    split_ifs
    · exact Nat.zero_le _
    · rw [List.length_append]
      exact Nat.add_le_add_left (ih others) _
    · simp only [List.length_singleton]
      omega

theorem crop_of_narrow (narrow : cellLength line ≤ width) : crop width line = .ok line := by
  rw [crop, if_pos narrow]

theorem crop_of_total (some : 0 < width) (total : cellTotal (graphemes line) = width) :
    crop width line = .ok line := by
  unfold crop
  split
  · rfl
  · have fits := fit_eq_charsOf (pos_tail_graphemes line) some (Nat.le_of_eq total)
    simp only [total, Nat.le_refl, if_true, fits, charsOf_graphemes]

theorem crop_eq_ok {kept : List Char} (cropped : crop width line = .ok kept) :
    kept.length ≤ line.length ∧
      (kept = line → cellLength line ≤ width ∨ cellTotal (graphemes line) = width) := by
  unfold crop at cropped
  split at cropped
  next narrow =>
    cases cropped
    exact ⟨Nat.le_refl _, fun _ => .inl narrow⟩
  next =>
    dsimp only at cropped
    split at cropped
    next enough =>
      have sound := sound_graphemes line
      cases cropped
      refine ⟨(length_fit_le sound).trans_eq (by rw [charsOf_graphemes]), fun same => .inr ?_⟩
      have whole : fit width (graphemes line) = charsOf (graphemes line) := by
        rw [charsOf_graphemes, same]
      exact Nat.le_antisymm (le_of_fit_eq sound whole) enough
    next => cases cropped

end Cutting

section Breaking

variable {width : Nat} {line : List Char} {words : List (List Char)} {layout : Layout}

theorem flatten_cutAt (position : Nat) (line : List Char) (places : List Nat) :
    (cutAt position line places).flatten = line := by
  induction places generalizing position line with
  | nil => simp [cutAt]
  | cons place rest ih => rw [cutAt, List.flatten_cons, ih, List.take_append_drop]

theorem flatten_divide (width : Nat) (line : List Char) : (divide width line).flatten = line :=
  flatten_cutAt _ _ _

theorem wordsFrom_cons (c : Char) (rest word : List Char) :
    wordsFrom (c :: rest) word =
      if word.head?.any isBlank && !isBlank c && !word.all isBlank then
        word.reverse :: wordsFrom rest [c]
      else wordsFrom rest (c :: word) := by
  cases word <;> rfl

theorem flatten_wordsFrom (cs word : List Char) :
    (wordsFrom cs word).flatten <+: word.reverse ++ cs := by
  induction cs generalizing word with
  | nil =>
    rw [wordsFrom]
    split <;> simp
  | cons c rest ih =>
    rw [wordsFrom_cons]
    split
    · rw [List.flatten_cons]
      exact (List.prefix_append_right_inj _).2 (ih [c])
    · simpa using ih (c :: word)

-- Only the last word may end with something else.
theorem blank_of_mem_dropLast (cs word : List Char) :
    ∀ part ∈ (wordsFrom cs word).dropLast, ∀ c ∈ part.getLast?, isBlank c := by
  induction cs generalizing word with
  | nil =>
    rw [wordsFrom]
    split <;> simp
  | cons c rest ih =>
    rw [wordsFrom_cons]
    split
    next ended =>
      intro part member
      simp only [Bool.and_eq_true] at ended
      have later := ih [c]
      cases more : wordsFrom rest [c] with
      | nil => simp [more] at member
      | cons next others =>
        rw [more] at member later
        rcases List.mem_cons.1 member with rfl | found
        · intro d isLast
          rw [List.getLast?_reverse] at isLast
          simpa [Option.mem_def.1 isLast] using ended.1.1
        · exact later part found
    next => exact ih (c :: word)

theorem foldl_add_breaks (unbroken : layout.breaks = [])
    (fits : ∀ before word after, words = before ++ word :: after →
      layout.used + cellsOfParts before + cellLength (trimEnd word) ≤ width) :
    (words.foldl (Layout.add width) layout).breaks = [] := by
  induction words generalizing layout with
  | nil => exact unbroken
  | cons word rest ih =>
    have first : layout.used + cellLength (trimEnd word) ≤ width := by
      simpa [cellsOfParts] using fits [] word rest rfl
    refine ih ?_ fun before next after split => ?_
    · simpa [Layout.add, first] using unbroken
    · have later := fits (word :: before) next after (by rw [split]; rfl)
      simp only [Layout.add, first, if_true]
      rw [cellsOfParts] at later
      omega

theorem isPrefix_trimEnd (cs : List Char) : trimEnd cs <+: cs := by
  have suffix := List.dropWhile_suffix isBlank (l := cs.reverse)
  rw [← List.reverse_prefix, List.reverse_reverse] at suffix
  exact suffix

-- A line whose cells fit is not broken.
theorem divide_of_narrow (narrow : cellLength line ≤ width) : divide width line = [line] := by
  have unbroken : ((Wrap.words line).foldl (Layout.add width) {}).breaks = [] := by
    refine foldl_add_breaks rfl fun before word after split => ?_
    have inside : before.flatten ++ word <+: line := by
      have all : (Wrap.words line).flatten <+: line := flatten_wordsFrom line []
      rw [split, List.flatten_append, List.flatten_cons, ← List.append_assoc] at all
      exact (List.prefix_append _ _).trans all
    have ends : ∀ part ∈ before, ∀ c ∈ part.getLast?, c ≠ joiner := by
      rintro part member c isLast rfl
      have blank := blank_of_mem_dropLast line [] part (by
        have parts : wordsFrom line [] = before ++ word :: after := split
        rw [parts, List.dropLast_append_cons]
        exact List.mem_append_left _ member) joiner isLast
      exact absurd blank (by decide)
    have trimmed := cellLength_le_of_prefix (isPrefix_trimEnd word)
    have total := @cellsOfParts_le word before ends
    have whole := cellLength_le_of_prefix inside
    have start : (Layout.used {}) = 0 := rfl
    omega
  rw [divide, unbroken]
  rfl

theorem trimExcess_eq_self_iff :
    trimExcess width line = line ↔
      line.length ≤ width ∨ ∀ c ∈ line.getLast?, isBlank c = false := by
  have none : (line.reverse.takeWhile isBlank).length = 0 ↔
      ∀ c ∈ line.getLast?, isBlank c = false := by
    rw [← List.head?_reverse]
    cases line.reverse <;> simp [List.takeWhile_cons, apply_ite]
  rw [← none, trimExcess, List.take_eq_self_iff]
  omega

theorem divide_ne_nil (width : Nat) (line : List Char) : divide width line ≠ [] := by
  unfold divide
  cases ((Wrap.words line).foldl (Layout.add width) {}).breaks.reverse <;> simp [cutAt]

end Breaking

section Lines

variable {width : Nat} {line : List Char}

theorem Fits.wrapLine (fits : Fits width line) (some : 0 < width) (noTabs : '\t' ∉ line) :
    wrapLine width line = .ok [line] := by
  have whole : divide width line = [line] := by
    rcases fits.narrow with narrow | ⟨whole, -⟩
    · exact divide_of_narrow narrow
    · exact whole
  have cropped : crop width line = .ok line := by
    rcases fits.narrow with narrow | ⟨-, total⟩
    · exact crop_of_narrow narrow
    · exact crop_of_total some total
  rw [Wrap.wrapLine, List.splitOn_eq_singleton noTabs, expandTabs, whole, mapM_eq_ok]
  exact .cons (by rwa [trimExcess_eq_self_iff.2 fits.ended]) .nil

theorem fits_of_wrapLine (noTabs : '\t' ∉ line) (kept : wrapLine width line = .ok [line]) :
    Fits width line := by
  rw [wrapLine, List.splitOn_eq_singleton noTabs, expandTabs, mapM_eq_ok] at kept
  obtain ⟨part, others, cropped, none, parts⟩ := List.forall₂_cons_right_iff.1 kept
  cases none
  have flat := flatten_divide width line
  obtain rfl : part = line := by simpa [parts] using flat
  obtain ⟨shorter, fits⟩ := crop_eq_ok cropped
  have untrimmed : trimExcess width part = part := (List.take_prefix _ part).eq_of_length_le shorter
  rw [untrimmed] at fits
  exact ⟨(fits rfl).imp_right fun total => ⟨parts, total⟩, trimExcess_eq_self_iff.1 untrimmed⟩

theorem wrapLine_ne_nil {parts : List (List Char)} (wrapped : wrapLine width line = .ok parts) :
    parts ≠ [] := by
  rintro rfl
  exact divide_ne_nil _ _ (List.forall₂_nil_right_iff.1 (mapM_eq_ok.1 wrapped))

end Lines

section Counts

variable {x : Char} {width : Nat}

theorem count_fit_le (notBlank : x ≠ ' ') (room : Nat) (gs : List Grapheme) :
    (fit room gs).count x ≤ (charsOf gs).count x := by
  induction gs generalizing room with
  | nil => exact Nat.zero_le _
  | cons g rest ih =>
    rw [fit, charsOf_cons, List.count_append]
    split_ifs
    · exact Nat.zero_le _
    · rw [List.count_append]
      exact Nat.add_le_add_left (ih _) _
    · rw [List.count_singleton, if_neg (by simpa using notBlank.symm)]
      exact Nat.zero_le _

theorem count_crop_le (notBlank : x ≠ ' ') {line kept : List Char}
    (cropped : crop width line = .ok kept) : kept.count x ≤ line.count x := by
  unfold crop at cropped
  split at cropped
  · cases cropped
    exact Nat.le_refl _
  · dsimp only at cropped
    split at cropped
    · cases cropped
      exact (count_fit_le notBlank width _).trans_eq (by rw [charsOf_graphemes])
    · cases cropped

theorem count_expandTabs (notBlank : x ≠ ' ') (column : Nat) (parts : List (List Char)) :
    (expandTabs column parts).count x = parts.flatten.count x := by
  induction parts generalizing column with
  | nil => rfl
  | cons part rest ih =>
    cases rest with
    | nil => simp [expandTabs]
    | cons next rest =>
      have none (n : Nat) : (List.replicate n ' ').count x = 0 := by
        simp [List.count_replicate, notBlank.symm]
      rw [expandTabs.eq_3 column part _ (List.cons_ne_nil next rest)]
      simp [ih, none, notBlank.symm]

theorem flatten_splitOn (a : Char) (cs : List Char) :
    (cs.splitOn a).flatten = cs.filter (· != a) := by
  induction cs with
  | nil => simp
  | cons c cs ih =>
    obtain ⟨part, parts, split⟩ := List.exists_cons_of_ne_nil (List.splitOn_ne_nil a cs)
    rw [split] at ih
    rw [List.splitOn_cons_eq_if_modifyHead, split, List.filter_cons, ← ih]
    by_cases same : c = a <;> simp [same]

theorem count_flatten_le {parts kept : List (List Char)}
    (fewer : List.Forall₂ (fun part kept => kept.count x ≤ part.count x) parts kept) :
    kept.flatten.count x ≤ parts.flatten.count x := by
  induction fewer with
  | nil => exact Nat.le_refl _
  | cons first _ ih =>
    rw [List.flatten_cons, List.flatten_cons, List.count_append, List.count_append]
    exact Nat.add_le_add first ih

theorem count_wrapLine_le (notBlank : x ≠ ' ') {line : List Char} {lines : List (List Char)}
    (wrapped : wrapLine width line = .ok lines) :
    lines.flatten.count x ≤ (line.filter (· != '\t')).count x := by
  have fewer := (mapM_eq_ok.1 wrapped).imp fun part kept cropped =>
    (count_crop_le notBlank cropped).trans ((List.take_prefix _ part).sublist.count_le x)
  refine (count_flatten_le fewer).trans_eq ?_
  rw [flatten_divide, count_expandTabs notBlank, flatten_splitOn]

theorem count_mapM_wrapLine_le (notBlank : x ≠ ' ') {lines : List (List Char)}
    {parts : List (List (List Char))} (wrapped : lines.mapM (wrapLine width) = .ok parts) :
    parts.flatten.flatten.count x ≤ (lines.flatten.filter (· != '\t')).count x := by
  rw [List.flatten_flatten, List.filter_flatten]
  exact count_flatten_le <| List.forall₂_map_left_iff.2 <| List.forall₂_map_right_iff.2 <|
    (mapM_eq_ok.1 wrapped).imp fun _ _ => count_wrapLine_le notBlank

theorem count_wrap_le (notBlank : x ≠ ' ') (notFeed : x ≠ '\n') {text shown : List Char}
    (wrapped : wrap width text = .ok shown) :
    shown.count x ≤ (text.filter fun c => c != '\t' && !isControl c).count x := by
  obtain ⟨parts, lines, same⟩ := bind_eq_ok.1 wrapped
  cases same
  have inside : (['\n'].intercalate parts.flatten).count x = parts.flatten.flatten.count x := by
    cases parts.flatten with
    | nil => rfl
    | cons line lines =>
      have apart : ['\n'].count x = 0 := List.count_eq_zero.2 (by simpa using notFeed)
      rw [count_intercalate, apart, Nat.mul_zero, Nat.add_zero]
  rw [inside]
  refine (count_mapM_wrapLine_le notBlank lines).trans ?_
  rw [flatten_splitOn, ← List.filter_filter]
  exact (List.filter_sublist.filter _).count_le x

end Counts

section Texts

variable {width : Nat} {text : List Char}

theorem length_le_flatten {lines : List (List Char)} {parts : List (List (List Char))}
    {R : List Char → List (List Char) → Prop} (related : List.Forall₂ R lines parts)
    (held : ∀ line part, R line part → part ≠ []) : lines.length ≤ parts.flatten.length := by
  induction related with
  | nil => exact Nat.le_refl _
  | cons first rest ih =>
    have some := List.length_pos_iff.2 (held _ _ first)
    rw [List.length_cons, List.flatten_cons, List.length_append]
    omega

-- No line has fewer than one part, so none has more.
theorem forall₂_singleton {lines : List (List Char)} {parts : List (List (List Char))}
    {R : List Char → List (List Char) → Prop} (related : List.Forall₂ R lines parts)
    (held : ∀ line part, R line part → part ≠ []) (same : parts.flatten = lines) :
    ∀ line ∈ lines, R line [line] := by
  induction related with
  | nil => simp
  | cons first rest ih =>
    rename_i line part lines parts
    obtain ⟨shown, more, rfl⟩ := List.exists_cons_of_ne_nil (held _ _ first)
    rw [List.flatten_cons, List.cons_append] at same
    obtain ⟨rfl, later⟩ := List.cons.inj same
    have least := length_le_flatten rest held
    have lengths := congrArg List.length later
    rw [List.length_append] at lengths
    obtain rfl : more = [] := List.length_eq_zero_iff.1 (by omega)
    exact List.forall_mem_cons.2 ⟨first, ih later⟩

theorem IsStill.filter_eq (still : IsStill text) : text.filter (!isControl ·) = text := by
  rw [List.filter_eq_self]
  intro c member
  rw [(still c member).2]
  rfl

theorem IsStill.noTabs (still : IsStill text) {line : List Char}
    (isLine : line ∈ text.splitOn '\n') : '\t' ∉ line := by
  intro member
  have inside : '\t' ∈ (text.splitOn '\n').flatten := List.mem_flatten.2 ⟨line, isLine, member⟩
  rw [flatten_splitOn] at inside
  exact (still '\t' (List.mem_filter.1 inside).1).1 rfl

theorem isStill_of_wrap (kept : wrap width text = .ok text) : IsStill text := by
  intro c member
  by_cases blank : c = ' ' ∨ c = '\n'
  · rcases blank with rfl | rfl <;> decide
  · obtain ⟨notBlank, notFeed⟩ := not_or.1 blank
    have least := (List.count_pos_iff.2 member).trans_le (count_wrap_le notBlank notFeed kept)
    have visible := (List.mem_filter.1 (List.count_pos_iff.1 least)).2
    simpa using visible

-- Wrapping leaves a text as it is exactly if nothing in it moves, and all its lines fit.
theorem wrap_eq_self_iff (some : 0 < width) :
    wrap width text = .ok text ↔ IsKept width text := by
  constructor
  · intro kept
    have still := isStill_of_wrap kept
    refine ⟨still, fun line isLine => fits_of_wrapLine (still.noTabs isLine) ?_⟩
    rw [wrap, still.filter_eq] at kept
    obtain ⟨parts, wrapped, shown⟩ := bind_eq_ok.1 kept
    obtain shown : ['\n'].intercalate parts.flatten = text := Except.ok.inj shown
    have related := mapM_eq_ok.1 wrapped
    have held (line : List Char) (part : List (List Char)) :
        wrapLine width line = .ok part → part ≠ [] := wrapLine_ne_nil
    have noFeeds : ∀ part ∈ parts.flatten, '\n' ∉ part := by
      rw [← count_flatten_eq_zero, ← Nat.le_zero]
      refine (count_mapM_wrapLine_le (by decide) wrapped).trans_eq (List.count_eq_zero.2 ?_)
      rw [flatten_splitOn]
      simp
    have shownLines : parts.flatten ≠ [] := by
      rw [← List.length_pos_iff]
      exact (List.length_pos_iff.2 (List.splitOn_ne_nil _ _)).trans_le
        (length_le_flatten related held)
    refine forall₂_singleton related held ?_ line isLine
    rw [← shown, List.splitOn_intercalate '\n' noFeeds shownLines]
  · rintro ⟨still, fits⟩
    have lines : (text.splitOn '\n').mapM (wrapLine width) =
        .ok ((text.splitOn '\n').map fun line => [line]) := by
      rw [mapM_eq_ok, List.forall₂_map_right_iff, List.forall₂_same]
      exact fun line isLine => (fits line isLine).wrapLine some (still.noTabs isLine)
    have flat : ((text.splitOn '\n').map fun line => [line]).flatten = text.splitOn '\n' := by
      rw [← List.flatMap_def, List.flatMap_singleton']
    rw [wrap, still.filter_eq, lines]
    simp only [bind, Except.bind, flat, List.intercalate_splitOn]
    rfl

end Texts

section Narrow

theorem crop_isOk (width : Nat) {line : List Char} (narrow : ∀ c ∈ line, isNarrow c) :
    (crop width line).isOk := by
  simp only [crop, cellLength_of_narrow narrow, cellTotal_of_narrow narrow]
  split
  · rfl
  · rw [if_pos (by omega)]
    rfl

theorem subset_of_mem_cutAt {places : List Nat} {position : Nat} {line part : List Char}
    (isPart : part ∈ cutAt position line places) : part ⊆ line := by
  induction places generalizing position line with
  | nil =>
    rw [List.mem_singleton.1 isPart]
    exact List.Subset.refl _
  | cons place rest ih =>
    rcases List.mem_cons.1 isPart with rfl | later
    · exact List.take_subset _ _
    · exact List.Subset.trans (ih later) (List.drop_subset _ _)

theorem mapM_isOk {E A B : Type} {f : A → Except E B} {as : List A}
    (succeeds : ∀ a ∈ as, (f a).isOk) : (as.mapM f).isOk := by
  induction as with
  | nil => rfl
  | cons a rest ih =>
    obtain ⟨first, others⟩ := List.forall_mem_cons.1 succeeds
    obtain ⟨b, first⟩ := exists_of_isOk first
    obtain ⟨bs, later⟩ := exists_of_isOk (ih others)
    rw [List.mapM_cons, first, later]
    rfl

-- Only characters of other widths can make a line too long for its graphemes.
theorem wrap_isOk (width : Nat) {text : List Char} (narrow : ∀ c ∈ text, isNarrow c) :
    (wrap width text).isOk := by
  have absent {other : Char} (isWide : isNarrow other = false) : other ∉ text := fun member =>
    ne_of_narrow (narrow other member) isWide rfl
  have noControl : text.filter (!isControl ·) = text := by
    rw [List.filter_eq_self]
    intro c member
    have isWide : ['\x07', '\x08', '\x0b', '\x0c', '\r'].all (!isNarrow ·) := by decide
    simp only [isControl, Bool.not_eq_true', List.contains_eq_mem, decide_eq_false_iff_not]
    intro control
    exact absent (by simpa using List.all_eq_true.1 isWide c control) member
  have oneLine : (wrapLine width text).isOk := by
    unfold wrapLine
    rw [List.splitOn_eq_singleton (absent rfl), expandTabs]
    refine mapM_isOk fun part isPart => crop_isOk width fun c member => ?_
    exact narrow c (subset_of_mem_cutAt isPart (List.take_subset _ _ member))
  obtain ⟨parts, wrapped⟩ := exists_of_isOk oneLine
  rw [wrap, noControl, List.splitOn_eq_singleton (absent rfl), List.mapM_cons, wrapped]
  rfl

theorem fits_of_narrow {width : Nat} {line : List Char} (narrow : ∀ c ∈ line, isNarrow c) :
    Fits width line ↔ line.length ≤ width := by
  constructor
  · intro fits
    have enough := fits.narrow
    rw [cellLength_of_narrow narrow, cellTotal_of_narrow narrow] at enough
    exact enough.elim id fun total => total.2.le
  · intro enough
    exact ⟨.inl (by rwa [cellLength_of_narrow narrow]), .inl enough⟩

end Narrow

end ApiCatalog.Wrap
