import ApiCatalog.Proofs.Diagnostics
import ApiCatalog.Proofs.KeptLines
import ApiCatalog.Proofs.StyledMarkup
import ApiCatalog.Report.Standard

/-!
The standard painter is such a one as is known.
-/

set_option autoImplicit false

namespace ApiCatalog

namespace Painter

def layOut (width : Nat) (text : List Char) : Except Crash (List Char) :=
  if width = 0 then .ok []
  else ((Wrap.wrap width text).mapError fun fault => .foreign fault.name).map (· ++ ['\n'])

end Painter

def Typesetter.standard : Typesetter where
  emoji := Emoji.replaceCodes
  lay := Painter.layOut
  fits := Wrap.Fits

namespace Painter

open Markup

variable {width : Nat} {text shown : List Char}

section Printing

variable {r : Rendering}

theorem printMarkup_eq (rendered : render text = .ok r)
    (styles : ∀ divided, r.checkStyles divided = .ok ()) :
    printMarkup width text = layOut width r.text := by
  rw [printMarkup, readMarkup, rendered, layOut]
  simp only [mapError_ok, bind, Except.bind]
  split
  · rfl
  · cases Wrap.wrap width r.text with
    | error fault => rfl
    | ok lines =>
      simp only [mapError_ok, styles]
      rfl

theorem count_printMarkup_le (printed : printMarkup width text = .ok shown) {mark : Char}
    (isMark : mark ∈ marks) : shown.count mark ≤ (Markup.shown (pieces text)).count mark := by
  have apart : ∀ mark ∈ marks, mark ≠ ' ' ∧ mark ≠ '\n' := by simp [marks]
  obtain ⟨notBlank, notFeed⟩ := apart mark isMark
  obtain ⟨r, read, printed⟩ := bind_eq_ok.1 printed
  have rendered := count_render_le (mapError_eq_ok.1 read) isMark
  dsimp only at printed
  split at printed
  · cases printed
    exact Nat.zero_le _
  · obtain ⟨lines, wrapped, styled⟩ := bind_eq_ok.1 printed
    obtain ⟨-, -, same⟩ := bind_eq_ok.1 styled
    cases same
    have fewer := (Wrap.count_wrap_le notBlank notFeed (mapError_eq_ok.1 wrapped)).trans
      (List.filter_sublist.count_le mark)
    have last : ['\n'].count mark = 0 := List.count_eq_zero.2 (by simpa using notFeed)
    rw [List.count_append, last]
    omega

end Printing

theorem print_untagged (width : Nat) (untagged : IsUntagged text) :
    printMarkup width text = layOut width (Emoji.replaceCodes text) := by
  have rendered : render text = .ok { text := Emoji.replaceCodes text } := by
    rw [render, pieces_of_untagged untagged]
    rfl
  exact printMarkup_eq rendered
    (checkStyles_eq (Style.isName_of_mem (by decide : "green" ∈ styleNames))
      (List.forall_mem_nil _))

theorem print_styled (width : Nat) {name : String} {inside behind : List Char}
    (known : name ∈ styleNames) (inner : IsUntagged inside) (ended : inside.getLast? ≠ some '\\')
    (outer : IsUntagged behind) : printMarkup width (styled name.toList inside behind) =
      layOut width (Emoji.replaceCodes inside ++ Emoji.replaceCodes behind) := by
  have isName := Style.isName_of_mem known
  obtain ⟨r, rendered, shown, used⟩ := render_styled isName inner ended outer
  rw [printMarkup_eq rendered (checkStyles_eq isName used), shown]

theorem print_tagged {parts : List (List Char × List Char)} {last : List Char}
    (tags : ∀ part ∈ parts, IsTag part.2) (unescaped : ¬ ['\\', '['] <:+: tagged parts last)
    (printed : printMarkup width (tagged parts last) = .ok shown) :
    shown.count '[' ≤ (aroundTags parts last).count '[' := by
  have start : Scanner.Unslashed {} := ⟨fun _ => rfl, nofun⟩
  have printed := count_printMarkup_le printed (by decide : '[' ∈ marks)
  have finished := Scanner.count_finish_le ((tagged parts last).foldl Scanner.step {}) '['
  have read := Scanner.count_foldl_tagged_le tags unescaped start '['
  have nothing : Scanner.held {} = [] := rfl
  rw [nothing, List.count_nil, Nat.zero_add] at read
  exact printed.trans (finished.trans read)

theorem print_escaped (escaped : ['\\', '['] <:+: text)
    (printed : printMarkup width text = .ok shown) : shown.count '\\' < text.count '\\' := by
  have printed := count_printMarkup_le printed (by decide : '\\' ∈ marks)
  have dropped := Scanner.count_unescaped_lt {} escaped
  have nothing : Scanner.held {} = [] := rfl
  rw [nothing, List.count_nil, Nat.zero_add] at dropped
  exact printed.trans_lt dropped

theorem layOut_eq_ok (laid : layOut width text = .ok shown) :
    width = 0 ∧ shown = [] ∨
      ∃ lines, 0 < width ∧ Wrap.wrap width text = .ok lines ∧ shown = lines ++ ['\n'] := by
  unfold layOut at laid
  split at laid
  next none =>
    cases laid
    exact .inl ⟨none, rfl⟩
  next some =>
    obtain ⟨lines, wrapped, same⟩ := map_eq_ok.1 laid
    exact .inr ⟨lines, Nat.pos_of_ne_zero some, mapError_eq_ok.1 wrapped, same.symm⟩

theorem layOut_of_wrap {lines : List Char} (some : 0 < width)
    (wrapped : Wrap.wrap width text = .ok lines) : layOut width text = .ok (lines ++ ['\n']) := by
  rw [layOut, if_neg (Nat.ne_of_gt some), wrapped]
  rfl

theorem layOut_eq_iff (width : Nat) (text : List Char) :
    layOut width text = .ok (text ++ ['\n']) ↔ Typesetter.standard.Keeps width text := by
  constructor
  · intro laid
    rcases layOut_eq_ok laid with ⟨-, nothing⟩ | ⟨lines, some, wrapped, same⟩
    · simp at nothing
    · obtain rfl : text = lines := List.append_cancel_right same
      obtain ⟨still, fits⟩ := (Wrap.wrap_eq_self_iff some).1 wrapped
      exact ⟨some, still, fits⟩
  · rintro ⟨some, still, fits⟩
    exact layOut_of_wrap some ((Wrap.wrap_eq_self_iff some).2 ⟨still, fits⟩)

theorem count_layOut_le (laid : layOut width text = .ok shown) :
    shown.count ':' ≤ text.count ':' := by
  rcases layOut_eq_ok laid with ⟨-, rfl⟩ | ⟨lines, -, wrapped, rfl⟩
  · exact Nat.zero_le _
  · have fewer := (Wrap.count_wrap_le (by decide) (by decide) wrapped).trans
      (List.filter_sublist.count_le ':')
    rwa [List.count_append, (by decide : ['\n'].count ':' = 0)]

theorem layOut_isOk (width : Nat) (narrow : ∀ c ∈ text, Text.isNarrow c) :
    (layOut width text).isOk := by
  rcases Nat.eq_zero_or_pos width with rfl | some
  · rfl
  · obtain ⟨lines, wrapped⟩ := exists_of_isOk (Wrap.wrap_isOk width narrow)
    rw [layOut_of_wrap some wrapped]
    rfl

theorem laws_standard : standard.Laws .standard where
  print_untagged width _ := print_untagged width
  print_styled width _ _ _ := print_styled width
  print_tagged _ _ _ _ := print_tagged
  print_escaped _ _ _ := print_escaped
  emoji_few _ := Emoji.replaceCodes_eq
  emoji_colons := Emoji.replaceCodes_eq_or_lt
  emoji_cons_blank := Emoji.replaceCodes_cons_blank
  lay_colons _ _ _ := count_layOut_le
  lay_narrow width _ := layOut_isOk width
  lay_eq_iff := layOut_eq_iff
  fits_narrow _ _ := Wrap.fits_of_narrow

end Painter

-- A closing tag without an opening one.
theorem Console.diagnostic_unopened {c : Console} (color : c.color) {message : String}
    {before tag rest : List Char} (unmarked : ∀ c ∈ before, Markup.isUnmarked c)
    (inner : ∀ c ∈ tag, Markup.isInner c)
    (text : message.toList = before ++ Markup.bracketed ('/' :: tag) ++ rest) :
    (c.diagnostic .standard .error message).isOk = false := by
  have unmarked' : ∀ c ∈ ' ' :: before, Markup.isUnmarked c :=
    List.forall_mem_cons.2 ⟨by decide, unmarked⟩
  have label := List.all_eq_true.1 Severity.isLabelled_error.label.unmarked
  obtain ⟨fault, failed⟩ := Markup.render_unopened Style.isName_boldRed
    (Markup.isUntagged_of_unmarked label) (Markup.ended_of_unmarked label)
    (Markup.isUntagged_of_unmarked unmarked') (Markup.ended_of_unmarked unmarked') inner rest
  have marked : (Severity.markup message .error).toList =
      Markup.styled "bold red".toList "Error:".toList (' ' :: before) ++
        Markup.bracketed ('/' :: tag) ++ rest := by
    rw [Severity.isLabelled_error.markup, text]
    simp [Markup.styled, Markup.tagged]
  have shown : ¬ (!c.isShown .error) = true := Bool.false_ne_true
  rw [diagnostic, if_neg shown, if_pos color, marked]
  simp only [Painter.standard, Painter.printMarkup, Painter.readMarkup, failed]
  rfl

end ApiCatalog
