import ApiCatalog.Proofs.Tilings

/-!
Where a line comment can be put into a text, and which tokens the text then has.
-/

set_option autoImplicit false

namespace ApiCatalog

open Text

section Lexemes

variable {c : Char} {before rest : List Char}

-- A run of characters that slashes can be part of ends before a slash only if another character
-- ends it.
theorem takeWhile_slash {p : Char → Bool} (goesOn : p '/')
    (ends : ((before ++ '/' :: rest).takeWhile p).length ≤ before.length) :
    (before.takeWhile p).length < before.length ∧
      ∀ other, (before ++ other).takeWhile p = before.takeWhile p := by
  have stops : (before.takeWhile p).length ≠ before.length := by
    intro whole
    rw [List.takeWhile_append, if_pos whole, List.takeWhile_cons, if_pos goesOn] at ends
    simp only [List.length_append, List.length_cons] at ends
    omega
  have within := (List.takeWhile_prefix p (l := before)).length_le
  refine ⟨by omega, fun other => ?_⟩
  rw [List.takeWhile_append, if_neg stops]

theorem takeWhile_before_slash {p : Char → Bool} (stops : p '/' = false) (before rest : List Char) :
    (before ++ '/' :: rest).takeWhile p = before.takeWhile p := by
  rw [List.takeWhile_append]
  split
  · rename_i whole
    have all := (List.takeWhile_prefix p (l := before)).eq_of_length whole
    simp [stops, all]
  · rfl

namespace Lexeme

theorem quoted_slash (isQuote : isQuote c)
    (ends : (Lexeme.quoted c (before ++ '/' :: rest)).tail.length ≤ before.length)
    (other : List Char) : Lexeme.quoted c (before ++ other) = Lexeme.quoted c before := by
  have goesOn : ('/' != c) = true := by
    rw [bne_iff_ne]
    rintro rfl
    cases isQuote
  simp only [Lexeme.quoted, List.length_append] at ends
  have run : ((before ++ '/' :: rest).takeWhile (· != c)).length ≤ before.length := by omega
  obtain ⟨shorter, same⟩ := takeWhile_slash goesOn run
  have held : before.drop (before.takeWhile (· != c)).length ≠ [] := by
    simpa using shorter
  simp only [Lexeme.quoted, same, List.drop_append_of_le_length shorter.le,
    List.take_append_of_le_length (List.length_pos_iff.2 held)]

theorem comment_slash
    (ends : (Lexeme.comment (before ++ '/' :: rest)).tail.length ≤ before.length + 1)
    (other : List Char) : Lexeme.comment (before ++ other) = Lexeme.comment before := by
  simp only [Lexeme.comment, List.length_cons] at ends
  have run : ((before ++ '/' :: rest).takeWhile (· != '\n')).length ≤ before.length := by omega
  obtain ⟨-, same⟩ := takeWhile_slash rfl run
  simp only [Lexeme.comment, same]

theorem docParts_slash
    (ends : (docParts (before ++ '/' :: rest)).1.length +
      (docParts (before ++ '/' :: rest)).2.length ≤ before.length)
    (other : List Char) : docParts (before ++ other) = docParts before := by
  induction before with
  | nil => simp [docParts] at ends
  | cons d more ih =>
    by_cases closes : d = '*' ∧ ∃ tail, more = '/' :: tail
    · obtain ⟨rfl, tail, rfl⟩ := closes
      rfl
    · -- Without its slash, a star at the end would be closed by the one that follows.
      have goesOn (next : List Char) : ∀ tail, d = '*' → more ++ next = '/' :: tail → False := by
        rintro tail rfl starts
        cases more with
        | nil => simp [docParts] at ends
        | cons e more =>
          obtain ⟨rfl, -⟩ := List.cons.inj starts
          exact closes ⟨rfl, more, rfl⟩
      rw [List.cons_append, docParts.eq_3 _ _ (goesOn _)] at ends
      simp only [List.length_cons] at ends
      have alone := goesOn []
      rw [List.append_nil] at alone
      rw [List.cons_append, docParts.eq_3 _ _ (goesOn other), docParts.eq_3 _ _ alone,
        ih (by omega)]

theorem docComment_slash
    (ends : (Lexeme.docComment (before ++ '/' :: rest)).tail.length ≤ before.length + 2)
    (other : List Char) : Lexeme.docComment (before ++ other) = Lexeme.docComment before := by
  simp only [Lexeme.docComment, List.length_cons, List.length_append] at ends
  have parts : (docParts (before ++ '/' :: rest)).1.length +
      (docParts (before ++ '/' :: rest)).2.length ≤ before.length := by omega
  simp only [Lexeme.docComment, docParts_slash parts]

theorem decimalRun_slash (before rest : List Char) :
    decimalRun (before ++ '/' :: rest) = decimalRun before := by
  have whole : (before ++ '/' :: rest).takeWhile Char.isDigit = before.takeWhile Char.isDigit :=
    takeWhile_before_slash rfl before rest
  have within := (List.takeWhile_prefix Char.isDigit (l := before)).length_le
  simp only [decimalRun, whole, List.drop_append_of_le_length within]
  cases before.drop (before.takeWhile Char.isDigit).length with
  | nil => rfl
  | cons d more =>
    by_cases isPoint : d = '.'
    · subst isPoint
      simp [takeWhile_before_slash]
    · simp [isPoint]

theorem startsNumber_slash (c : Char) (before rest : List Char) :
    startsNumber c (before ++ '/' :: rest) = startsNumber c before := by
  by_cases isMinus : c = '-'
  · subst isMinus
    cases before <;> rfl
  · simp [startsNumber, isMinus]

theorem number_slash (c : Char) (before rest : List Char) :
    Lexeme.number c (before ++ '/' :: rest) = Lexeme.number c before := by
  by_cases isMinus : c = '-'
  · subst isMinus
    simp [Lexeme.number, decimalRun_slash]
  · have run := decimalRun_slash (c :: before) rest
    rw [List.cons_append] at run
    simp [Lexeme.number, run]

theorem word_slash (ends : (Lexeme.word c (before ++ '/' :: rest)).tail.length ≤ before.length)
    (other : List Char) : Lexeme.word c (before ++ '/' :: other) = Lexeme.word c before := by
  unfold Lexeme.word at ends ⊢
  simp only [startsNumber_slash, number_slash] at ends ⊢
  split
  · rfl
  · rename_i noNumber
    split
    · rename_i inside
      simp only [noNumber, inside, Lexeme.identifier] at ends
      obtain ⟨-, same⟩ := takeWhile_slash rfl ends
      simp only [Lexeme.identifier, same]
    · rfl

end Lexeme

theorem lexeme_slash (ends : (lexeme c (before ++ '/' :: rest)).tail.length ≤ before.length)
    (other : List Char) : lexeme c (before ++ '/' :: other) = lexeme c before := by
  cases isMark : punctuation? c with
  | some kind => simp [lexeme, isMark]
  | none =>
    by_cases quoted : isQuote c
    · simp only [lexeme, isMark, quoted, if_true] at ends ⊢
      exact Lexeme.quoted_slash quoted ends _
    · by_cases comment : c = '/' ∧ ∃ more, before = '/' :: more
      · obtain ⟨rfl, more, rfl⟩ := comment
        exact Lexeme.comment_slash ends _
      · by_cases doc : c = '/' ∧ ∃ more, before = '*' :: '*' :: more
        · obtain ⟨rfl, more, rfl⟩ := doc
          exact Lexeme.docComment_slash ends _
        · have held : c = '/' → before ≠ [] := by
            rintro rfl rfl
            exact absurd ends (Nat.not_succ_le_zero _)
          have plain (next : List Char) (starts : next = [] ∨ ∃ tail, next = '/' :: tail) :
              lexeme c (before ++ next) = .word c (before ++ next) := by
            refine lexeme_plain isMark (by simpa using quoted) ?_ ?_
            · rintro tail rfl same
              obtain ⟨d, more, rfl⟩ := List.exists_cons_of_ne_nil (held rfl)
              obtain ⟨rfl, -⟩ := List.cons.inj same
              exact comment ⟨rfl, more, rfl⟩
            · rintro tail rfl same
              obtain ⟨d, more, rfl⟩ := List.exists_cons_of_ne_nil (held rfl)
              obtain ⟨rfl, follows⟩ := List.cons.inj same
              cases more with
              | nil => rcases starts with rfl | ⟨_, rfl⟩ <;> cases follows
              | cons e more =>
                obtain ⟨rfl, -⟩ := List.cons.inj follows
                exact doc ⟨rfl, more, rfl⟩
          have alone := plain [] (.inl rfl)
          rw [List.append_nil] at alone
          rw [plain _ (.inr ⟨rest, rfl⟩)] at ends
          rw [plain _ (.inr ⟨other, rfl⟩), alone]
          exact Lexeme.word_slash ends other

end Lexemes

def Token.down (t : Token) : Token := { t with line := t.line + 1 }

section Scanning

variable {c : Char}

theorem scanFrom_inked (inked : isBlank c = false) (line : Nat) (rest : List Char) :
    scanFrom line (c :: rest) =
      (scanFrom (line + (c :: (lexeme c rest).tail).count '\n')
        (rest.drop (lexeme c rest).tail.length)).map
          (⟨(lexeme c rest).kind, String.ofList (lexeme c rest).literal, line⟩ :: ·) id := by
  have starts : (c :: rest).dropWhile isBlank = c :: rest := by simp [inked]
  rw [scanFrom_next starts]
  simp [inked]

theorem scanFrom_down (line : Nat) (cs : List Char) :
    scanFrom (line + 1) cs = (scanFrom line cs).map (List.map Token.down) (· + 1) := by
  match cs with
  | [] => rw [scanFrom_nil, scanFrom_nil]; rfl
  | c :: rest =>
    cases blank : isBlank c with
    | true =>
      rw [scanFrom_blank blank, scanFrom_blank blank, Nat.add_right_comm]
      exact scanFrom_down _ rest
    | false =>
      rw [scanFrom_inked blank, scanFrom_inked blank, Nat.add_right_comm, scanFrom_down]
      rfl
termination_by cs.length

theorem scanFrom_lineComment {body : List Char} (oneLine : '\n' ∉ body) (line : Nat)
    (rest : List Char) :
    scanFrom line ('/' :: '/' :: (body ++ '\n' :: rest)) =
      (scanFrom (line + 1) rest).map (⟨.comment, String.ofList (trim body), line⟩ :: ·) id := by
  have found : lexeme '/' ('/' :: body ++ '\n' :: rest) = ⟨.comment, trim body, '/' :: body⟩ :=
    Lexeme.comment_append oneLine (by simp)
  have token := scanFrom_token rfl found line
  rw [scanFrom_blank (c := '\n') rfl] at token
  simpa [List.count_eq_zero.2 oneLine] using token

theorem slash_no_comment (line skipped : Nat) :
    ∀ t ∈ (scanFrom line (['/'].drop skipped)).1, t.kind ≠ .comment := by
  cases skipped with
  | zero =>
    rw [List.drop_zero, scanFrom_inked rfl, List.drop_nil, scanFrom_nil]
    intro t found
    obtain rfl := List.mem_singleton.1 found
    change (lexeme '/' []).kind ≠ .comment
    decide
  | succ skipped =>
    rw [List.drop_succ_cons, List.drop_nil, scanFrom_nil]
    nofun

theorem scanFrom_slashes {before : List Char} {line : Nat}
    (opens : (scanFrom line (before ++ ['/', '/'])).1 =
      (scanFrom line before).1 ++ [⟨.comment, "", (scanFrom line before).2⟩]) (rest : List Char) :
    scanFrom line (before ++ '/' :: '/' :: rest) =
      (scanFrom (scanFrom line before).2 ('/' :: '/' :: rest)).map
        ((scanFrom line before).1 ++ ·) id := by
  match before with
  | [] =>
    rw [scanFrom_nil, List.nil_append]
    simp [Prod.map]
  | c :: more =>
    cases blank : isBlank c with
    | true =>
      rw [List.cons_append, scanFrom_blank blank, scanFrom_blank blank] at opens ⊢
      exact scanFrom_slashes opens rest
    | false =>
      rw [List.cons_append, scanFrom_inked blank, scanFrom_inked blank line more] at opens
      by_cases ends : (lexeme c (more ++ ['/', '/'])).tail.length ≤ more.length
      · have same := lexeme_slash ends
        rw [same] at ends
        rw [same, List.drop_append_of_le_length ends] at opens
        rw [List.cons_append, scanFrom_inked blank, scanFrom_inked blank line more, same,
          List.drop_append_of_le_length ends, scanFrom_slashes (by simpa [Prod.map] using opens)]
        rfl
      · -- The token takes in the first slash, so that at most the second one is left.
        exfalso
        obtain ⟨skipped, size⟩ := Nat.exists_eq_add_of_lt (Nat.lt_of_not_le ends)
        have left : (more ++ ['/', '/']).drop (more.length + skipped + 1) = ['/'].drop skipped := by
          have length : more.length + skipped + 1 = (more ++ ['/']).length + skipped := by
            rw [List.length_append, List.length_singleton]
            omega
          rw [List.append_cons, length, List.drop_length_add_append]
        rw [size, left] at opens
        simp only [Prod.map, List.cons_append, List.cons.injEq] at opens
        exact slash_no_comment _ skipped _ (opens.2 ▸ List.mem_concat_self) rfl
termination_by before.length

end Scanning

def tokensAfter (before after : String) : List Token :=
  (scanFrom (TokenStream.ofText before).endLine after.toList).1

/-- A place between two tokens of a text where slashes start a comment: after an identifier and no
blank, say, they would belong to the identifier. -/
structure CommentPlace (before after : String) : Prop where
  apart : (TokenStream.ofText (before ++ after)).tokens =
    (TokenStream.ofText before).tokens ++ tokensAfter before after
  opens : (TokenStream.ofText (before ++ "//")).tokens =
    (TokenStream.ofText before).tokens ++ [⟨.comment, "", (TokenStream.ofText before).endLine⟩]

theorem CommentPlace.tokens_eq {before after comment : String} (place : CommentPlace before after)
    (oneLine : '\n' ∉ comment.toList) :
    (TokenStream.ofText (before ++ "//" ++ comment ++ "\n" ++ after)).tokens =
      (TokenStream.ofText before).tokens ++
        ⟨.comment, String.ofList (trim comment.toList), (TokenStream.ofText before).endLine⟩ ::
        (tokensAfter before after).map Token.down := by
  have opens : (scanFrom 1 (before.toList ++ ['/', '/'])).1 = (scanFrom 1 before.toList).1 ++
      [⟨.comment, "", (scanFrom 1 before.toList).2⟩] := by
    simpa [TokenStream.ofText] using place.opens
  have spelled : (before ++ "//" ++ comment ++ "\n" ++ after).toList =
      before.toList ++ '/' :: '/' :: (comment.toList ++ '\n' :: after.toList) := by
    simp
  simp only [TokenStream.ofText, tokensAfter, spelled, scanFrom_slashes opens,
    scanFrom_lineComment oneLine, scanFrom_down, Prod.map]

end ApiCatalog
