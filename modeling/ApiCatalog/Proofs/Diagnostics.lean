import ApiCatalog.Proofs.PainterLaws
import ApiCatalog.Proofs.Results
import Mathlib.Tactic.Common

set_option autoImplicit false

namespace ApiCatalog

namespace Markup

-- Characters that stand for themselves.
def isUnmarked (c : Char) : Bool := Text.isNarrow c && c != '[' && c != '\\'

theorem isNarrow_of_unmarked {c : Char} (unmarked : isUnmarked c) : Text.isNarrow c := by
  simp only [isUnmarked, Bool.and_eq_true] at unmarked
  exact unmarked.1.1

theorem isUntagged_of_unmarked {text : List Char} (unmarked : ∀ c ∈ text, isUnmarked c) :
    IsUntagged text :=
  isUntagged_of_not_mem fun bracket => absurd (unmarked '[' bracket) (by decide)

theorem ended_of_unmarked {text : List Char} (unmarked : ∀ c ∈ text, isUnmarked c) :
    text.getLast? ≠ some '\\' :=
  fun last => absurd (unmarked '\\' (List.mem_of_getLast? last)) (by decide)

end Markup

-- A text that means nothing but itself in markup, and how many colons it has.
structure IsPlain (text : String) (colons : Nat) : Prop where
  unmarked : text.toList.all Markup.isUnmarked
  count : text.toList.count ':' = colons

theorem IsPlain.append {text more : String} {m n : Nat} (first : IsPlain text m)
    (second : IsPlain more n) : IsPlain (text ++ more) (m + n) where
  unmarked := by rw [String.toList_append, List.all_append, first.unmarked, second.unmarked]; rfl
  count := by rw [String.toList_append, List.count_append, first.count, second.count]

theorem isDigit_of_mem_toString {n : Nat} {c : Char} (member : c ∈ (toString n).toList) :
    c.isDigit := by
  rw [Nat.toString_eq_repr, Nat.repr, String.toList_ofList] at member
  exact Nat.isDigit_of_mem_toDigits (by decide) (by decide) member

theorem isPlain_toString (n : Nat) : IsPlain (toString n) 0 := by
  refine ⟨List.all_eq_true.2 fun c member => ?_, List.count_eq_zero.2 fun member => ?_⟩
  · have all : ∀ code ≤ '9'.toNat,
        (Char.ofNat code).isDigit → Markup.isUnmarked (Char.ofNat code) := by
      decide
    have small : c.toNat ≤ '9'.toNat := by
      have isDigit := isDigit_of_mem_toString member
      simp only [Char.isDigit, Bool.and_eq_true, decide_eq_true_eq] at isDigit
      exact isDigit.2
    have unmarked := all c.toNat small
    rw [Char.ofNat_toNat] at unmarked
    exact unmarked (isDigit_of_mem_toString member)
  · exact absurd (isDigit_of_mem_toString member) (by decide)

namespace Severity

-- A diagnostic starts with a label in a style.
structure IsLabelled (severity : Severity) (name label : String) : Prop where
  markup (message : String) :
    (severity.markup message).toList =
      Markup.styled name.toList label.toList (' ' :: message.toList)
  plain (message : String) :
    (severity.plainText message).toList = label.toList ++ ' ' :: message.toList
  known : name ∈ Markup.styleNames
  label : IsPlain label 1

theorem isLabelled_warning : IsLabelled .warning "yellow" "Warning:" where
  markup message := by
    have text : Severity.markup message .warning = "[yellow]Warning:[/yellow] " ++ message := rfl
    simp [text, Markup.styled, Markup.tagged, Markup.bracketed]
  plain message := by
    have text : plainText message .warning = "Warning: " ++ message := rfl
    simp [text]
  known := by decide
  label := ⟨by decide, by decide⟩

theorem isLabelled_error : IsLabelled .error "bold red" "Error:" where
  markup message := by
    have text : Severity.markup message .error = "[bold red]Error:[/bold red] " ++ message := rfl
    simp [text, Markup.styled, Markup.tagged, Markup.bracketed]
  plain message := by
    have text : plainText message .error = "Error: " ++ message := rfl
    simp [text]
  known := by decide
  label := ⟨by decide, by decide⟩

theorem markup_success (message : String) : (markup message .success).toList =
    Markup.styled "green".toList message.toList [] := by
  have text : markup message .success = "[green]" ++ message ++ "[/green]" := rfl
  simp [text, Markup.styled, Markup.tagged, Markup.bracketed]

end Severity

section Written

variable {p : Painter} {t : Typesetter} (laws : p.Laws t)

include laws

theorem Painter.Laws.print_isOk {name : String} {inside behind : List Char} (width : Nat)
    (known : name ∈ Markup.styleNames) (unmarked : ∀ c ∈ inside, Markup.isUnmarked c)
    (unmarked' : ∀ c ∈ behind, Markup.isUnmarked c) (few : inside.count ':' ≤ 1)
    (few' : behind.count ':' ≤ 1) :
    (p.print width (Markup.styled name.toList inside behind)).isOk := by
  have narrow : ∀ c ∈ inside ++ behind, Text.isNarrow c := fun c member =>
    Markup.isNarrow_of_unmarked ((List.mem_append.1 member).elim (unmarked c) (unmarked' c))
  rw [laws.print_styled width name inside behind known (Markup.isUntagged_of_unmarked unmarked)
    (Markup.ended_of_unmarked unmarked) (Markup.isUntagged_of_unmarked unmarked'),
    laws.emoji_few inside few, laws.emoji_few behind few']
  exact laws.lay_narrow width _ narrow

theorem Severity.IsLabelled.print_isOk {severity : Severity} {name label message : String}
    {colons : Nat} (isLabelled : severity.IsLabelled name label) (plain : IsPlain message colons)
    (few : colons ≤ 1) (width : Nat) : (p.print width (severity.markup message).toList).isOk := by
  obtain ⟨unmarked, rfl⟩ := plain
  have first := isLabelled.label
  rw [isLabelled.markup]
  refine laws.print_isOk width isLabelled.known (List.all_eq_true.1 first.unmarked)
    (List.forall_mem_cons.2 ⟨by decide, List.all_eq_true.1 unmarked⟩) first.count.le ?_
  rwa [List.count_cons_of_ne (by decide)]

theorem Console.diagnostic_isOk (c : Console) {severity : Severity} {message : String}
    {colons : Nat} (plain : IsPlain message colons) (few : colons ≤ 1)
    (isMarked : severity ∈ [.success, .warning, .error]) :
    (c.diagnostic p severity message).isOk := by
  have printed : (p.print c.width (severity.markup message).toList).isOk := by
    cases severity with
    | success =>
      rw [Severity.markup_success]
      exact laws.print_isOk c.width (by decide) (List.all_eq_true.1 plain.unmarked)
        (List.forall_mem_nil _) (plain.count.trans_le few) (Nat.zero_le _)
    | warning => exact Severity.isLabelled_warning.print_isOk laws plain few c.width
    | error => exact Severity.isLabelled_error.print_isOk laws plain few c.width
    | info => simp at isMarked
    | debug => simp at isMarked
  obtain ⟨text, printed⟩ := exists_of_isOk printed
  rw [diagnostic, printed]
  split_ifs <;> rfl

end Written

end ApiCatalog
