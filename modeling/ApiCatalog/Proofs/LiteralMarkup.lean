import ApiCatalog.Proofs.MarkupMarks
import Mathlib.Data.List.Induction

/-!
Text without tags is read as text, on its own and in front of a tag.
-/

set_option autoImplicit false

namespace ApiCatalog.Markup

section Untagged

variable {cs : List Char}

theorem IsUntagged.ne_concat (isUntagged : IsUntagged (cs ++ ['['])) : cs.getLast? ≠ some '\\' := by
  intro last
  obtain ⟨before, rfl⟩ := List.getLast?_eq_some_iff.1 last
  exact isUntagged.unescaped ⟨before, [], by simp⟩

theorem IsUntagged.concat_bracket (isUntagged : IsUntagged cs) (last : cs.getLast? ≠ some '\\') :
    IsUntagged (cs ++ ['[']) where
  untagged tag isTag found := by
    rcases List.infix_concat_iff.1 found with ends | inside
    · have closing : [']'] <:+ cs ++ ['['] := (List.suffix_append ('[' :: tag) [']']).trans ends
      obtain ⟨before, same⟩ := closing
      exact absurd (List.append_inj' same rfl).2 (by decide)
    · exact isUntagged.untagged tag isTag inside
  unescaped escaped := by
    rcases List.infix_concat_iff.1 escaped with ends | inside
    · have split : ['\\', '['] = ['\\'] ++ ['['] := rfl
      rw [split, List.suffix_append_self_iff] at ends
      obtain ⟨before, rfl⟩ := ends
      exact last List.getLast?_concat
    · exact isUntagged.unescaped inside

end Untagged

namespace Scanner

def unread (s : Scanner) : List Char :=
  List.replicate s.slashes '\\' ++ (s.body.map ('[' :: ·.reverse)).getD []

-- A text has been read as nothing but text, after some pieces and some other text. What may
-- become a tag has no backslash in front of it.
structure HasRead (pieces : List Piece) (text cs : List Char) (s : Scanner) : Prop where
  pieces : s.pieces = pieces
  text : ∃ read, cs = read ++ s.unread ∧ s.text = read.reverse ++ text
  unescaped : s.body ≠ none → s.slashes = 0
  starts : ∀ d body, s.body = some (d :: body) →
    ∃ c rest, (d :: body).reverse = c :: rest ∧ startsTag c ∧ ∀ e ∈ rest, isInner e

section HasRead

variable {pieces : List Piece} {text cs body : List Char} {s : Scanner} {c : Char}

theorem HasRead.plainBracket (hasRead : HasRead pieces text cs s) (opened : s.body = some body) :
    HasRead pieces text cs (s.plainBracket body) where
  pieces := hasRead.pieces
  text := by
    obtain ⟨read, whole, placed⟩ := hasRead.text
    have none := hasRead.unescaped (by simp [opened])
    refine ⟨cs, by simp [unread, Scanner.plainBracket], ?_⟩
    simp [Scanner.plainBracket, whole, placed, none, unread, opened]
  unescaped opened := absurd rfl opened
  starts _ _ opened := by cases opened

-- In front of a bracket no backslash is waiting.
theorem HasRead.slashes_eq (hasRead : HasRead pieces text cs s) (closed : s.body = none)
    (isUntagged : IsUntagged (cs ++ ['['])) : s.slashes = 0 := by
  obtain ⟨read, whole, -⟩ := hasRead.text
  cases slashes : s.slashes with
  | zero => rfl
  | succ n =>
    refine absurd ?_ isUntagged.ne_concat
    simp [whole, unread, closed, slashes, List.replicate_succ', ← List.append_assoc]

theorem HasRead.stepPlain (hasRead : HasRead pieces text cs s) (closed : s.body = none)
    (isUntagged : IsUntagged (cs ++ [c])) : HasRead pieces text (cs ++ [c]) (s.stepPlain c) := by
  obtain ⟨read, whole, placed⟩ := hasRead.text
  unfold Scanner.stepPlain
  split_ifs with isSlash isBracket
  · refine ⟨hasRead.pieces, ⟨read, ?_, placed⟩, fun opened => absurd closed opened,
      fun d body opened => by simp [closed] at opened⟩
    simp [whole, unread, closed, isSlash, List.replicate_succ']
  · have none : s.slashes = 0 := hasRead.slashes_eq closed (isBracket ▸ isUntagged)
    refine ⟨hasRead.pieces, ⟨read, ?_, placed⟩, fun _ => none, fun d body opened => by cases opened⟩
    simp [whole, unread, closed, none, isBracket]
  · refine ⟨hasRead.pieces, ⟨cs ++ [c], ?_, ?_⟩, fun opened => absurd closed opened,
      fun d body opened => by simp [closed] at opened⟩
    · simp [unread, closed]
    · simp [whole, placed, unread, closed]

theorem HasRead.step (hasRead : HasRead pieces text cs s) (isUntagged : IsUntagged (cs ++ [c])) :
    HasRead pieces text (cs ++ [c]) (s.step c) := by
  have grows (body : List Char) (opened : s.body = some body)
      (starts : ∃ first rest, (c :: body).reverse = first :: rest ∧ startsTag first ∧
        ∀ e ∈ rest, isInner e) :
      HasRead pieces text (cs ++ [c]) { s with body := some (c :: body) } := by
    obtain ⟨read, whole, placed⟩ := hasRead.text
    refine ⟨hasRead.pieces, ⟨read, by simp [whole, unread, opened], placed⟩,
      fun _ => hasRead.unescaped (by simp [opened]), fun d more same => ?_⟩
    obtain ⟨rfl, rfl⟩ := List.cons.inj (Option.some.inj same)
    exact starts
  have step := s.steps c
  generalize s.step c = next at step ⊢
  cases step with
  | plain closed => exact hasRead.stepPlain closed isUntagged
  | dropped opened starts => exact (hasRead.plainBracket opened).stepPlain rfl isUntagged
  | begun opened starts =>
    exact grows [] opened ⟨c, [], rfl, starts, List.forall_mem_nil _⟩
  | grown d body opened inner =>
    obtain ⟨first, rest, turned, starts, others⟩ := hasRead.starts d body opened
    refine grows (d :: body) opened ⟨first, rest ++ [c], ?_, starts, ?_⟩
    · rw [List.reverse_cons, turned, List.cons_append]
    · exact List.forall_mem_append.2 ⟨others, List.forall_mem_singleton.2 inner⟩
  | finished d body opened ends =>
    obtain ⟨first, rest, turned, starts, inner⟩ := hasRead.starts d body opened
    obtain ⟨read, whole, -⟩ := hasRead.text
    have none := hasRead.unescaped (by simp [opened])
    refine absurd ⟨read, [], ?_⟩ (isUntagged.untagged (first :: rest) ⟨starts, inner⟩)
    simp [whole, unread, opened, none, turned, ends, bracketed]
  | reopened d body opened opens =>
    have plain := hasRead.plainBracket opened
    have noSlash : d ≠ '\\' := by
      rintro rfl
      obtain ⟨read, whole, -⟩ := hasRead.text
      have split : cs = read ++ List.replicate s.slashes '\\' ++ '[' :: body.reverse ++ ['\\'] := by
        simp [whole, unread, opened]
      exact (opens ▸ isUntagged).ne_concat (by rw [split, List.getLast?_concat])
    have reopen : s.reopen (d :: body) = (s.plainBracket (d :: body)).stepPlain '[' := by
      simp [Scanner.reopen, noSlash, Scanner.stepPlain, Scanner.plainBracket]
    rw [reopen, ← opens]
    exact plain.stepPlain rfl isUntagged

theorem hasRead_foldl (pieces : List Piece) (text : List Char) (isUntagged : IsUntagged cs) :
    HasRead pieces text cs (cs.foldl Scanner.step { pieces, text }) := by
  induction cs using List.reverseRecOn with
  | nil => exact ⟨rfl, ⟨[], rfl, rfl⟩, fun _ => rfl, fun d body opened => by cases opened⟩
  | append_singleton cs c ih =>
    rw [List.foldl_append]
    exact (ih (isUntagged.of_infix ⟨[], [c], rfl⟩)).step isUntagged

theorem finish_foldl (pieces : List Piece) (text : List Char) (isUntagged : IsUntagged cs) :
    (cs.foldl Scanner.step { pieces, text }).finish =
      pieces.reverse ++ [.text (text.reverse ++ cs)] := by
  have closed {s : Scanner} (hasRead : HasRead pieces text cs s) (closed : s.body = none) :
      s.finish = pieces.reverse ++ [.text (text.reverse ++ cs)] := by
    obtain ⟨read, whole, placed⟩ := hasRead.text
    simp [finish, closed, hasRead.pieces, whole, placed, unread]
  have hasRead := hasRead_foldl pieces text isUntagged
  cases opened : (cs.foldl Scanner.step { pieces, text }).body with
  | none => exact closed hasRead opened
  | some body =>
    rw [finish_opened opened]
    exact closed (hasRead.plainBracket opened) rfl

theorem foldl_append_bracketed (pieces : List Piece) (text : List Char) (isUntagged : IsUntagged cs)
    (last : cs.getLast? ≠ some '\\') {rest : List Char} (starts : startsTag c)
    (inner : ∀ d ∈ rest, isInner d) :
    (cs ++ bracketed (c :: rest)).foldl Scanner.step { pieces, text } =
      { pieces :=
          .tag (.ofText (c :: rest)) :: .text [] :: .text (text.reverse ++ cs) :: pieces } := by
  have hasRead := hasRead_foldl pieces text (isUntagged.concat_bracket last)
  rw [List.foldl_append, List.foldl_cons, List.foldl_nil] at hasRead
  have opened := body_step_bracket (cs.foldl Scanner.step { pieces, text })
  have none := hasRead.unescaped (by simp [opened])
  obtain ⟨read, whole, placed⟩ := hasRead.text
  obtain rfl : cs = read := by simpa [unread, opened, none] using whole
  rw [List.foldl_append, foldl_bracketed _ starts inner, finishTag, none, placed, hasRead.pieces]
  simp

end HasRead

end Scanner

theorem pieces_of_untagged {cs : List Char} (isUntagged : IsUntagged cs) :
    pieces cs = [.text cs] :=
  Scanner.finish_foldl [] [] isUntagged

end ApiCatalog.Markup
