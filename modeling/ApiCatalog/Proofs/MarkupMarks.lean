import ApiCatalog.Proofs.PainterLaws
import ApiCatalog.Proofs.Results
import ApiCatalog.Report.Markup
import Mathlib.Tactic.Common

/-!
Markup never adds a bracket, a backslash or a colon to what it shows. It drops tags, backslashes
that are in front of brackets, and codes.
-/

set_option autoImplicit false

namespace ApiCatalog.Markup

def marks : List Char := ['[', '\\', ':']

def Piece.shown : Piece → List Char
  | .text cs => cs
  | .tag _ => []

def shown (pieces : List Piece) : List Char := pieces.flatMap Piece.shown

namespace Scanner

-- What has been read since the last text, but not placed yet.
def waiting (s : Scanner) : List Char :=
  List.replicate s.slashes '\\' ++ (s.body.map ('[' :: ·)).getD []

-- All that can still be shown of what has been read, in no order.
def held (s : Scanner) : List Char := shown s.pieces ++ (s.text ++ s.waiting)

-- A bracket makes plain text of what could have become a tag. Backslashes before it are kept
-- apart.
def reopen (s : Scanner) (body : List Char) : Scanner :=
  let slashes := (body.takeWhile (· == '\\')).length
  { s.plainBracket (body.drop slashes) with slashes, body := some [] }

inductive Steps (s : Scanner) (c : Char) : Scanner → Prop
  | plain (closed : s.body = none) : Steps s c (s.stepPlain c)
  | dropped (opened : s.body = some []) (starts : startsTag c = false) :
    Steps s c ((s.plainBracket []).stepPlain c)
  | begun (opened : s.body = some []) (starts : startsTag c) :
    Steps s c { s with body := some [c] }
  | grown (d : Char) (body : List Char) (opened : s.body = some (d :: body)) (inner : isInner c) :
    Steps s c { s with body := some (c :: d :: body) }
  | finished (d : Char) (body : List Char) (opened : s.body = some (d :: body)) (ends : c = ']') :
    Steps s c (s.finishTag (d :: body))
  | reopened (d : Char) (body : List Char) (opened : s.body = some (d :: body))
    (opens : c = '[') : Steps s c (s.reopen (d :: body))

theorem steps (s : Scanner) (c : Char) : Steps s c (s.step c) := by
  unfold step
  split
  next closed => exact .plain closed
  next opened =>
    split_ifs with starts
    · exact .begun opened starts
    · exact .dropped opened (by simpa using starts)
  next body begun opened =>
    obtain ⟨d, body, rfl⟩ := List.exists_cons_of_ne_nil begun
    split_ifs with ends opens
    · exact .finished d body opened ends
    · exact .reopened d body opened opens
    · exact .grown d body opened (by simp [isInner, ends, opens])

section Counts

variable {s : Scanner} {body : List Char}

theorem count_held_closed (closed : s.body = none) (x : Char) :
    s.held.count x =
      (shown s.pieces).count x + s.text.count x + (List.replicate s.slashes '\\').count x := by
  simp [held, waiting, closed, Nat.add_assoc]

theorem count_held_opened (opened : s.body = some body) (x : Char) :
    s.held.count x =
      (shown s.pieces).count x + s.text.count x + (List.replicate s.slashes '\\').count x +
        ('[' :: body).count x := by
  simp [held, waiting, opened, Nat.add_assoc]

theorem count_slashes {n kept gone : Nat} (sum : n = kept + gone) (x : Char) :
    (List.replicate n '\\').count x =
      (List.replicate kept '\\').count x + (List.replicate gone '\\').count x := by
  rw [sum, ← List.replicate_append_replicate, List.count_append]

theorem count_plainBracket (opened : s.body = some body) (x : Char) :
    (s.plainBracket body).held.count x + (List.replicate (min s.slashes 1) '\\').count x =
      s.held.count x := by
  have slashes := count_slashes (by omega : s.slashes = s.slashes - 1 + min s.slashes 1) x
  rw [count_held_opened opened, count_held_closed rfl]
  simp only [plainBracket, List.count_append, List.count_cons, List.replicate_zero, List.count_nil]
  omega

-- A tag is dropped if an even number of backslashes is in front of it, and one of them if not.
theorem count_finishTag (opened : s.body = some body) (x : Char) :
    if s.slashes % 2 = 1 then
      (s.finishTag body).held.count x + (List.replicate (s.slashes - s.slashes / 2) '\\').count x =
        s.held.count x + [']'].count x
    else
      (s.finishTag body).held.count x + (List.replicate (s.slashes - s.slashes / 2) '\\').count x +
        ('[' :: body).count x = s.held.count x := by
  have slashes := count_slashes
    (by omega : s.slashes = s.slashes / 2 + (s.slashes - s.slashes / 2)) x
  rw [count_held_opened opened, count_held_closed rfl]
  split_ifs with odd
  all_goals
    simp only [finishTag, odd, if_true, if_false, shown, List.flatMap_cons, Piece.shown,
      List.count_append, List.count_cons, List.count_reverse, List.replicate_zero, List.count_nil]
    omega

theorem count_stepPlain (closed : s.body = none) (c x : Char) :
    (s.stepPlain c).held.count x = s.held.count x + [c].count x := by
  rw [count_held_closed closed]
  unfold stepPlain
  split_ifs with isSlash isBracket
  · let next : Scanner := { s with slashes := s.slashes + 1 }
    rw [@count_held_closed next closed, isSlash, @count_slashes next.slashes _ 1 rfl]
    exact (Nat.add_assoc _ _ _).symm
  · rw [count_held_opened rfl, isBracket]
  · let next : Scanner :=
      { s with text := c :: List.replicate s.slashes '\\' ++ s.text, slashes := 0 }
    rw [@count_held_closed next closed]
    simp only [next, List.count_append, List.count_cons, List.replicate_zero, List.count_nil]
    omega

theorem replicate_append_drop (body : List Char) :
    List.replicate (body.takeWhile (· == '\\')).length '\\' ++
      body.drop (body.takeWhile (· == '\\')).length = body := by
  induction body with
  | nil => rfl
  | cons c body ih =>
    by_cases isSlash : c = '\\'
    · simpa [isSlash, List.replicate_succ] using ih
    · simp [isSlash]

theorem count_reopen (opened : s.body = some body) (x : Char) :
    (s.reopen body).held.count x + (List.replicate (min s.slashes 1) '\\').count x =
      s.held.count x + ['['].count x := by
  have slashes := count_slashes (by omega : s.slashes = s.slashes - 1 + min s.slashes 1) x
  have parts := congrArg (List.count x) (replicate_append_drop body)
  rw [List.count_append] at parts
  rw [count_held_opened opened, count_held_opened rfl]
  simp only [reopen, plainBracket, List.count_append, List.count_cons, List.count_nil]
  omega

theorem count_grow (opened : s.body = some body) (c x : Char) :
    { s with body := some (c :: body) }.held.count x = s.held.count x + [c].count x := by
  rw [count_held_opened opened, count_held_opened rfl]
  simp only [List.count_cons, List.count_nil]
  omega

theorem count_step_le (s : Scanner) (c x : Char) :
    (s.step c).held.count x ≤ s.held.count x + [c].count x := by
  have step := s.steps c
  generalize s.step c = next at step ⊢
  cases step with
  | plain closed => exact (count_stepPlain closed c x).le
  | dropped opened starts =>
    rw [count_stepPlain rfl, ← count_plainBracket opened x]
    omega
  | begun opened starts => exact (count_grow opened c x).le
  | grown d body opened inner => exact (count_grow opened c x).le
  | finished d body opened ends =>
    have counts := count_finishTag opened x
    rw [ends]
    split_ifs at counts <;> omega
  | reopened d body opened opens =>
    rw [opens, ← count_reopen opened x]
    omega

theorem count_foldl_le (s : Scanner) (cs : List Char) (x : Char) :
    (cs.foldl step s).held.count x ≤ s.held.count x + cs.count x := by
  induction cs generalizing s with
  | nil => exact Nat.le_refl _
  | cons c rest ih =>
    have first := count_step_le s c x
    have later := ih (s.step c)
    rw [List.foldl_cons, ← List.singleton_append, List.count_append]
    omega

theorem count_finish (closed : s.body = none) (x : Char) :
    (shown s.finish).count x = s.held.count x := by
  have turned : (s.pieces.reverse.flatMap Piece.shown).count x = (shown s.pieces).count x :=
    ((List.reverse_perm s.pieces).flatMap_right Piece.shown).count_eq x
  rw [count_held_closed closed]
  simp only [finish, closed, shown, List.reverse_cons, List.flatMap_append, List.flatMap_cons,
    List.flatMap_nil, Piece.shown, List.count_append, turned, List.count_reverse, List.count_nil]
  omega

theorem finish_opened (opened : s.body = some body) :
    s.finish = (s.plainBracket body).finish := by
  rw [finish, opened]
  rfl

theorem count_finish_le (s : Scanner) (x : Char) : (shown s.finish).count x ≤ s.held.count x := by
  cases opened : s.body with
  | none => exact (count_finish opened x).le
  | some body =>
    rw [finish_opened opened, count_finish rfl, ← count_plainBracket opened x]
    omega

theorem count_run_le (s : Scanner) (cs : List Char) (x : Char) :
    (shown (cs.foldl step s).finish).count x ≤ s.held.count x + cs.count x :=
  (count_finish_le _ x).trans (count_foldl_le s cs x)

theorem count_escaped_lt (opened : s.body = some body) (escaped : 0 < s.slashes)
    (cs : List Char) :
    (shown (cs.foldl step s).finish).count '\\' < s.held.count '\\' + cs.count '\\' := by
  -- It stays in front of the bracket as long as that can become a tag.
  have one : (List.replicate (min s.slashes 1) '\\').count '\\' = 1 := by
    rw [List.count_replicate_self]
    omega
  induction cs generalizing s body with
  | nil =>
    have dropped := count_plainBracket opened '\\'
    rw [List.foldl_nil, finish_opened opened, count_finish rfl]
    omega
  | cons c rest ih =>
    rw [List.foldl_cons, ← List.singleton_append, List.count_append]
    have later (next : Scanner) := count_run_le next rest '\\'
    have step := s.steps c
    generalize s.step c = next at step ⊢
    cases step with
    | plain closed => simp [closed] at opened
    | dropped opened starts =>
      have dropped := count_plainBracket opened '\\'
      have more := later ((s.plainBracket []).stepPlain c)
      rw [count_stepPlain rfl] at more
      omega
    | begun opened starts =>
      have more := @ih { s with body := some [c] } [c] rfl escaped one
      have grown := count_grow opened c '\\'
      omega
    | grown d body opened inner =>
      have more := @ih { s with body := some (c :: d :: body) } _ rfl escaped one
      have grown := count_grow opened c '\\'
      omega
    | finished d body opened ends =>
      have some : 0 < s.slashes - s.slashes / 2 := by omega
      have finished := count_finishTag opened '\\'
      rw [List.count_replicate_self] at finished
      have more := later (s.finishTag (d :: body))
      rw [ends]
      split_ifs at finished <;> omega
    | reopened d body opened opens =>
      have reopened := count_reopen opened '\\'
      have more := later (s.reopen (d :: body))
      rw [opens]
      omega

end Counts

section Tags

variable {s : Scanner} {c : Char} {rest cs : List Char}

theorem body_step_bracket (s : Scanner) : (s.step '[').body = some [] := by
  have step := s.steps '['
  generalize s.step '[' = next at step ⊢
  cases step with
  | plain closed => rfl
  | dropped opened starts => rfl
  | begun opened starts => exact absurd starts (by decide)
  | grown d body opened inner => exact absurd inner (by decide)
  | finished d body opened ends => exact absurd ends (by decide)
  | reopened d body opened opens => rfl

theorem foldl_inner {s : Scanner} {d : Char} {body rest : List Char}
    (opened : s.body = some (d :: body)) (inner : ∀ e ∈ rest, isInner e) :
    rest.foldl step s = { s with body := some (rest.reverse ++ d :: body) } := by
  induction rest generalizing s d body with
  | nil => rw [List.foldl_nil, List.reverse_nil, List.nil_append, ← opened]
  | cons e rest ih =>
    obtain ⟨first, others⟩ := List.forall_mem_cons.1 inner
    simp only [isInner, Bool.and_eq_true, bne_iff_ne] at first
    have step : s.step e = { s with body := some (e :: d :: body) } := by
      simp [Scanner.step, opened, first]
    rw [List.foldl_cons, step, ih rfl others]
    simp

theorem foldl_bracketed (s : Scanner) (starts : startsTag c) (inner : ∀ d ∈ rest, isInner d) :
    (bracketed (c :: rest)).foldl step s = (s.step '[').finishTag (c :: rest).reverse := by
  have opened := body_step_bracket s
  have begun : (s.step '[').step c = { s.step '[' with body := some [c] } := by
    rw [step, opened]
    exact if_pos starts
  have split : bracketed (c :: rest) = '[' :: c :: (rest ++ [']']) := rfl
  have turned : (c :: rest).reverse = rest.reverse ++ [c] := List.reverse_cons
  obtain ⟨d, body, body_eq⟩ := List.exists_cons_of_ne_nil
    (List.append_ne_nil_of_right_ne_nil rest.reverse (List.cons_ne_nil c []))
  rw [split, List.foldl_cons, List.foldl_cons, begun, List.foldl_append, foldl_inner rfl inner,
    turned, body_eq]
  rfl

-- No backslash has been read last.
def Unslashed (s : Scanner) : Prop :=
  (s.body = none → s.slashes = 0) ∧ ∀ d body, s.body = some (d :: body) → d ≠ '\\'

theorem unslashed_step (s : Scanner) (notSlash : c ≠ '\\') : (s.step c).Unslashed := by
  have plain (s : Scanner) (closed : s.body = none) : (s.stepPlain c).Unslashed := by
    unfold stepPlain
    rw [if_neg notSlash]
    split_ifs
    · exact ⟨nofun, nofun⟩
    · exact ⟨fun _ => rfl, fun d body opened => by simp [closed] at opened⟩
  have step := s.steps c
  generalize s.step c = next at step ⊢
  cases step with
  | plain closed => exact plain s closed
  | dropped opened starts => exact plain _ rfl
  | begun opened starts =>
    refine ⟨nofun, fun d body same => ?_⟩
    obtain ⟨rfl, -⟩ := List.cons.inj (Option.some.inj same)
    exact notSlash
  | grown d body opened inner =>
    refine ⟨nofun, fun d body same => ?_⟩
    obtain ⟨rfl, -⟩ := List.cons.inj (Option.some.inj same)
    exact notSlash
  | finished d body opened ends => exact ⟨fun _ => rfl, nofun⟩
  | reopened d body opened opens => exact ⟨nofun, nofun⟩

theorem unslashed_foldl (unslashed : s.Unslashed) (last : cs.getLast? ≠ some '\\') :
    (cs.foldl step s).Unslashed := by
  rcases List.eq_nil_or_concat cs with rfl | ⟨before, c, rfl⟩
  · exact unslashed
  · rw [List.concat_eq_append, List.foldl_append]
    exact unslashed_step _ (by simpa using last)

theorem Unslashed.slashes_step (unslashed : s.Unslashed) : (s.step '[').slashes = 0 := by
  have step := s.steps '['
  generalize s.step '[' = next at step ⊢
  cases step with
  | plain closed => exact unslashed.1 closed
  | dropped opened starts => rfl
  | begun opened starts => exact absurd starts (by decide)
  | grown d body opened inner => exact absurd inner (by decide)
  | finished d body opened ends => exact absurd ends (by decide)
  | reopened d body opened opens => simp [reopen, unslashed.2 d body opened]

theorem count_bracketed (unslashed : s.Unslashed) (starts : startsTag c)
    (inner : ∀ d ∈ rest, isInner d) (x : Char) :
    ((bracketed (c :: rest)).foldl step s).held.count x ≤ s.held.count x := by
  have opened := body_step_bracket s
  have none := unslashed.slashes_step
  let tag : Scanner := { s.step '[' with body := some (c :: rest).reverse }
  have held : tag.held.count x = (s.step '[').held.count x + (c :: rest).count x := by
    rw [count_held_opened opened, @count_held_opened tag _ rfl]
    simp only [tag, List.count_cons, List.count_reverse, List.count_nil]
    omega
  have even : ¬ tag.slashes % 2 = 1 := by simp [tag, none]
  have finished : (bracketed (c :: rest)).foldl step s = tag.finishTag (c :: rest).reverse :=
    foldl_bracketed s starts inner
  have dropped := @count_finishTag tag (c :: rest).reverse rfl x
  have before := count_step_le s '[' x
  rw [if_neg even, held, List.count_cons, List.count_reverse] at dropped
  rw [List.count_singleton] at before
  rw [finished]
  omega

-- Of a text with tags nothing is held but what is around them.
theorem count_foldl_tagged_le {parts : List (List Char × List Char)} {last : List Char}
    (tags : ∀ part ∈ parts, IsTag part.2) (unescaped : ¬ ['\\', '['] <:+: tagged parts last)
    (unslashed : s.Unslashed) (x : Char) :
    ((tagged parts last).foldl step s).held.count x ≤
      s.held.count x + (aroundTags parts last).count x := by
  induction parts generalizing s with
  | nil => exact count_foldl_le s last x
  | cons part parts ih =>
    obtain ⟨isTag, others⟩ := List.forall_mem_cons.1 tags
    obtain ⟨before, tag⟩ := part
    obtain ⟨c, rest, rfl, starts, inner⟩ := isTag.exists_cons
    have split : tagged ((before, c :: rest) :: parts) last =
        before ++ (bracketed (c :: rest) ++ tagged parts last) := by
      simp [tagged]
    have around : aroundTags ((before, c :: rest) :: parts) last =
        before ++ aroundTags parts last := by
      simp [aroundTags]
    have ended : before.getLast? ≠ some '\\' := by
      intro slash
      obtain ⟨front, rfl⟩ := List.getLast?_eq_some_iff.1 slash
      exact unescaped ⟨front, c :: rest ++ [']'] ++ tagged parts last,
        by rw [split]; simp [bracketed]⟩
    have read := unslashed_foldl unslashed ended
    have dropped := count_bracketed read starts inner x
    have closed : ((bracketed (c :: rest)).foldl step (before.foldl step s)).Unslashed :=
      unslashed_foldl read (by rw [bracketed, List.getLast?_concat]; decide)
    have inside : tagged parts last <:+: tagged ((before, c :: rest) :: parts) last :=
      ⟨before ++ bracketed (c :: rest), [], by rw [split, List.append_nil, List.append_assoc]⟩
    have later := ih others (fun escaped => unescaped (escaped.trans inside)) closed
    have first := count_foldl_le s before x
    rw [split, around, List.foldl_append, List.foldl_append, List.count_append]
    omega

theorem step_slash (s : Scanner) :
    (s.step '\\').body = none ∧ 0 < (s.step '\\').slashes ∨
      ∃ body, (s.step '\\').body = some ('\\' :: body) := by
  have step := s.steps '\\'
  generalize s.step '\\' = next at step ⊢
  cases step with
  | plain closed => exact .inl ⟨closed, Nat.succ_pos _⟩
  | dropped opened starts => exact .inl ⟨rfl, Nat.succ_pos _⟩
  | begun opened starts => exact absurd starts (by decide)
  | grown d body opened inner => exact .inr ⟨_, rfl⟩
  | finished d body opened ends => exact absurd ends (by decide)
  | reopened d body opened opens => exact absurd opens (by decide)

theorem slashes_step_bracket
    (slash : s.body = none ∧ 0 < s.slashes ∨ ∃ body, s.body = some ('\\' :: body)) :
    0 < (s.step '[').slashes := by
  rcases slash with ⟨closed, some⟩ | ⟨body, opened⟩
  · rw [step, closed]
    exact some
  · rw [step, opened]
    exact Nat.succ_pos _

theorem count_unescaped_lt (s : Scanner) (escaped : ['\\', '['] <:+: cs) :
    (shown (cs.foldl step s).finish).count '\\' < s.held.count '\\' + cs.count '\\' := by
  obtain ⟨before, behind, rfl⟩ := escaped
  have read := count_foldl_le s (before ++ ['\\', '[']) '\\'
  rw [List.foldl_append, List.count_append, ← Nat.add_assoc]
  rw [List.foldl_append] at read ⊢
  have dropped := count_escaped_lt (body_step_bracket _)
    (slashes_step_bracket (step_slash (before.foldl step s))) behind
  exact dropped.trans_le (Nat.add_le_add_right read _)

end Tags

end Scanner

end ApiCatalog.Markup

namespace ApiCatalog.Emoji

open Markup

-- It takes two colons to enclose a code.
theorem replaceCodes_eq {text : List Char} (colons : text.count ':' ≤ 1) :
    replaceCodes text = text := by
  by_cases member : ':' ∈ text
  · obtain ⟨before, behind, rfl⟩ := List.append_of_mem member
    simp only [List.count_append, List.count_cons_self] at colons
    have first : ':' ∉ before := List.count_eq_zero.1 (by omega)
    have second : ':' ∉ behind := List.count_eq_zero.1 (by omega)
    rw [replaceCodes, List.splitOn_append_cons_self, List.splitOn_eq_singleton first,
      List.splitOn_eq_singleton second]
    rfl
  · rw [replaceCodes, List.splitOn_eq_singleton member]
    exact List.append_nil text

def joined (parts : List (List Char)) : List Char := parts.flatMap (':' :: ·)

theorem intercalate_eq (first : List Char) (rest : List (List Char)) :
    [':'].intercalate (first :: rest) = first ++ joined rest := by
  induction rest generalizing first with
  | nil => simp [joined]
  | cons next rest ih => simp [List.intercalate_cons_cons, ih, joined]

-- The marks are ASCII characters in this range, which is quicker to check than what they are.
theorem noMarks_names :
    names.all fun emoji => emoji.2.all fun code => code < ':'.toNat || '\\'.toNat < code := by
  decide +kernel

theorem not_mem_named {name emoji : List Char} (named : named? name = some emoji) :
    ∀ mark ∈ marks, mark ∉ emoji := by
  obtain ⟨codes, found, rfl⟩ := Option.map_eq_some_iff.1 named
  obtain ⟨before, behind, split, -⟩ := List.lookup_eq_some_iff.1 found
  have clean := List.all_eq_true.1 noMarks_names _
    (split ▸ List.mem_append_right before List.mem_cons_self)
  intro mark isMark member
  obtain ⟨code, isCode, rfl⟩ := List.mem_map.1 member
  have within : ∀ mark ∈ marks, ':'.toNat ≤ mark.toNat ∧ mark.toNat ≤ '\\'.toNat := by
    simp [marks]
  have outside : code < ':'.toNat ∨ '\\'.toNat < code := by
    simpa using List.all_eq_true.1 clean code isCode
  by_cases valid : code.isValidChar
  · have same : (Char.ofNat code).toNat = code := by
      rw [show Char.ofNat code = Char.ofNatAux code valid from dif_pos valid]
      rfl
    have bounds := within _ isMark
    rw [same] at bounds
    omega
  · have first : Char.ofNat code = Char.ofNat 0 := dif_neg valid
    rw [first] at isMark
    exact absurd isMark (by decide)

theorem not_mem_ofCode {code emoji : List Char} (found : ofCode? code = some emoji) :
    ∀ mark ∈ marks, mark ∉ emoji := by
  unfold ofCode? at found
  split at found
  next ending variant isVariant =>
    obtain ⟨emoji, named, rfl⟩ := Option.map_eq_some_iff.1 found
    have shown : ∀ v ∈ variants, ∀ mark ∈ marks, mark ≠ v.2 := by simp [variants, marks]
    intro mark isMark member
    rcases List.mem_append.1 member with inside | last
    · exact not_mem_named named mark isMark inside
    · exact shown _ (List.mem_of_find?_eq_some isVariant) mark isMark (List.mem_singleton.1 last)
  next => exact not_mem_named found

def replaceCode (code : List Char) : List Char := (ofCode? code).getD (':' :: code ++ [':'])

theorem count_replaceCode_le (code : List Char) {mark : Char} (isMark : mark ∈ marks) :
    (replaceCode code).count mark ≤ (':' :: code ++ [':']).count mark := by
  unfold replaceCode
  cases found : ofCode? code with
  | none => exact Nat.le_refl _
  | some emoji =>
    rw [Option.getD_some, List.count_eq_zero.2 (not_mem_ofCode found mark isMark)]
    exact Nat.zero_le _

theorem replaceCode_eq_or_lt (code : List Char) :
    replaceCode code = ':' :: code ++ [':'] ∨
      (replaceCode code).count ':' < (':' :: code ++ [':']).count ':' := by
  unfold replaceCode
  cases found : ofCode? code with
  | none => exact .inl rfl
  | some emoji =>
    rw [Option.getD_some, List.count_eq_zero.2 (not_mem_ofCode found ':' (by decide))]
    exact .inr (List.count_pos_iff.2 List.mem_cons_self)

theorem joined_cons_cons (code next : List Char) (rest : List (List Char)) :
    joined (code :: next :: rest) = ':' :: code ++ [':'] ++ next ++ joined rest := by
  simp [joined]

theorem count_replaceFrom_le (parts : List (List Char)) {mark : Char} (isMark : mark ∈ marks) :
    (replaceFrom parts).count mark ≤ (joined parts).count mark := by
  induction parts using replaceFrom.induct with
  | case1 => exact Nat.le_refl _
  | case2 last => simp [replaceFrom, joined]
  | case3 code next rest blank ih =>
    rw [replaceFrom, if_pos blank, joined, List.flatMap_cons, List.count_append, List.count_append]
    exact Nat.add_le_add_left ih _
  | case4 code next rest blank ih =>
    have first := count_replaceCode_le code isMark
    rw [replaceFrom, if_neg blank, joined_cons_cons, ← replaceCode]
    simp only [List.count_append] at first ⊢
    omega

theorem replaceFrom_eq_or_lt (parts : List (List Char)) :
    replaceFrom parts = joined parts ∨
      (replaceFrom parts).count ':' < (joined parts).count ':' := by
  induction parts using replaceFrom.induct with
  | case1 => exact .inl rfl
  | case2 last => simp [replaceFrom, joined]
  | case3 code next rest blank ih =>
    rw [replaceFrom, if_pos blank, joined, List.flatMap_cons, List.count_append, List.count_append]
    exact ih.imp (congrArg _) (Nat.add_lt_add_left · _)
  | case4 code next rest blank ih =>
    have later := count_replaceFrom_le rest (by decide : ':' ∈ marks)
    rw [replaceFrom, if_neg blank, joined_cons_cons, ← replaceCode]
    rcases replaceCode_eq_or_lt code with same | less
    · refine ih.imp (fun same' => by rw [same, same']) fun less => ?_
      rw [same]
      simp only [List.count_append]
      omega
    · simp only [List.count_append] at less ⊢
      exact .inr (by omega)

theorem count_replaceCodes_le (text : List Char) {mark : Char} (isMark : mark ∈ marks) :
    (replaceCodes text).count mark ≤ text.count mark := by
  obtain ⟨first, rest, split⟩ := List.exists_cons_of_ne_nil (List.splitOn_ne_nil ':' text)
  have whole : [':'].intercalate (text.splitOn ':') = text := List.intercalate_splitOn ':'
  rw [split, intercalate_eq] at whole
  rw [replaceCodes, split, ← whole, List.count_append, List.count_append]
  exact Nat.add_le_add_left (count_replaceFrom_le rest isMark) _

theorem replaceCodes_eq_or_lt (text : List Char) :
    replaceCodes text = text ∨ (replaceCodes text).count ':' < text.count ':' := by
  obtain ⟨first, rest, split⟩ := List.exists_cons_of_ne_nil (List.splitOn_ne_nil ':' text)
  have whole : [':'].intercalate (text.splitOn ':') = text := List.intercalate_splitOn ':'
  rw [split, intercalate_eq] at whole
  rw [replaceCodes, split, ← whole, List.count_append, List.count_append]
  exact (replaceFrom_eq_or_lt rest).imp (congrArg _) (Nat.add_lt_add_left · _)

theorem replaceCodes_cons_blank (text : List Char) :
    replaceCodes (' ' :: text) = ' ' :: replaceCodes text := by
  obtain ⟨first, rest, split⟩ := List.exists_cons_of_ne_nil (List.splitOn_ne_nil ':' text)
  rw [replaceCodes, replaceCodes, List.splitOn_cons_eq_if_modifyHead, split]
  simp

end ApiCatalog.Emoji

namespace ApiCatalog.Markup

section Renderings

variable {r next : Rendering} {cs : List Char}

theorem exists_close {name : List Char} (closed : r.closeNamed name = .ok next) :
    ∃ tag, r.close tag = .ok next := by
  unfold Rendering.closeNamed at closed
  dsimp only at closed
  split at closed
  · rw [pure_bind] at closed
    split at closed
    next tag _ => exact ⟨tag, closed⟩
    next => cases closed
  · obtain ⟨name, -, closes⟩ := bind_eq_ok.1 closed
    rw [pure_bind] at closes
    split at closes
    next tag _ => exact ⟨tag, closes⟩
    next => cases closes

theorem text_close {tag : OpenTag} (closed : r.close tag = .ok next) : next.text = r.text := by
  unfold Rendering.close at closed
  dsimp only at closed
  split_ifs at closed <;> cases closed <;> rfl

theorem text_add {piece : Piece} (added : r.add piece = .ok next) :
    next.text = r.text ++ Emoji.replaceCodes piece.shown := by
  unfold Rendering.add at added
  split at added
  · cases added
    rfl
  · obtain ⟨tag, closed⟩ := exists_close added
    rw [text_close closed]
    exact (List.append_nil _).symm
  · obtain ⟨name, -, same⟩ := bind_eq_ok.1 added
    cases same
    exact (List.append_nil _).symm

theorem text_foldlM {pieces : List Piece} (added : pieces.foldlM Rendering.add r = .ok next) :
    next.text = r.text ++ pieces.flatMap (Emoji.replaceCodes ·.shown) := by
  induction pieces generalizing r with
  | nil =>
    cases added
    simp
  | cons piece pieces ih =>
    rw [List.foldlM_cons] at added
    obtain ⟨middle, first, rest⟩ := bind_eq_ok.1 added
    rw [ih rest, text_add first, List.flatMap_cons, List.append_assoc]

theorem count_render_le (rendered : render cs = .ok r) {mark : Char} (isMark : mark ∈ marks) :
    r.text.count mark ≤ (shown (pieces cs)).count mark := by
  rw [text_foldlM rendered, List.nil_append, shown]
  generalize pieces cs = pieces
  induction pieces with
  | nil => exact Nat.le_refl _
  | cons piece pieces ih =>
    rw [List.flatMap_cons, List.flatMap_cons, List.count_append, List.count_append]
    exact Nat.add_le_add (Emoji.count_replaceCodes_le piece.shown isMark) ih

end Renderings

end ApiCatalog.Markup
