import ApiCatalog.Token.Lexeme
import Mathlib.Data.List.Infix
import Mathlib.Data.List.TakeWhile

/-!
How tokens are spelled. A token is found at the head of a text if and only if the text starts with
a spelling of the token that what follows cannot change.
-/

set_option autoImplicit false

namespace ApiCatalog

open Text

inductive IsDecimal : List Char → Prop
  | whole {digits : List Char} (held : digits ≠ []) (isDigit : ∀ c ∈ digits, c.isDigit) :
      IsDecimal digits
  | pointed {digits fraction : List Char} (held : digits ≠ []) (isDigit : ∀ c ∈ digits, c.isDigit)
      (fractional : ∀ c ∈ fraction, c.isDigit) : IsDecimal (digits ++ '.' :: fraction)

inductive IsNumeral : List Char → Prop
  | plain {cs : List Char} (decimal : IsDecimal cs) : IsNumeral cs
  | negative {cs : List Char} (decimal : IsDecimal cs) : IsNumeral ('-' :: cs)

def isWord : List Char → Bool
  | [] => false
  | '/' :: '/' :: _ => false
  | c :: cs => !startsNumber c cs && (c :: cs).all isIdentifierChar

/-- `Spells kind literal spelling rest`: where a text starts with `spelling` and goes on with
`rest`, the spelling is that of a token. -/
inductive Spells : TokenKind → List Char → List Char → List Char → Prop
  | mark {kind : TokenKind} {c : Char} {rest : List Char} (isMark : punctuation? c = some kind) :
      Spells kind [c] [c] rest
  | quoted {quote : Char} {body close rest : List Char} (isQuote : isQuote quote)
      (absent : quote ∉ body) (closed : close = [quote] ∨ close = [] ∧ rest = []) :
      Spells .text body (quote :: (body ++ close)) rest
  | comment {body rest : List Char} (oneLine : '\n' ∉ body) (ends : ∀ c ∈ rest.head?, c = '\n') :
      Spells .comment (trim body) ('/' :: '/' :: body) rest
  | docComment {body close rest : List Char} (unclosed : ¬ ['*', '/'] <:+: body)
      (closed : close = ['*', '/'] ∨ close = [] ∧ rest = []) :
      Spells .docComment (docLiteral body) ('/' :: '*' :: '*' :: (body ++ close)) rest
  | number {literal rest : List Char} (numeral : IsNumeral literal)
      (ends : ∀ c ∈ rest.head?, c.isDigit = false ∧ (c = '.' → '.' ∈ literal)) :
      Spells .number literal literal rest
  | identifier {literal rest : List Char} (word : isWord literal)
      (ends : ∀ c ∈ rest.head?, isIdentifierChar c = false)
      (noDoc : literal = ['/'] → ¬ ['*', '*'] <+: rest) : Spells .identifier literal literal rest
  | unknown {c : Char} {rest : List Char} (inked : isBlank c = false)
      (noMark : punctuation? c = none) (noQuote : isQuote c = false)
      (outside : isIdentifierChar c = false) : Spells .unknown [c] [c] rest

section Characters

def Text.Ranges.codes (ranges : Ranges) : List Nat :=
  ranges.flatMap fun (low, high) => List.range' low (high + 1 - low)

theorem Text.Ranges.mem_codes {ranges : Ranges} {code : Nat} (found : ranges.contains code) :
    code ∈ ranges.codes := by
  induction ranges with
  | nil => simp [Ranges.contains] at found
  | cons range rest ih =>
    obtain ⟨low, high⟩ := range
    simp only [Ranges.contains] at found
    simp only [Ranges.codes, List.flatMap_cons, List.mem_append, List.mem_range'_1]
    split at found
    · simp at found
    · split at found
      · left
        omega
      · exact .inr (ih found)

theorem identifierChar_not_blank {c : Char} (inside : isIdentifierChar c) : isBlank c = false := by
  have outside : ∀ code ∈ blankRanges.codes, isIdentifierChar (Char.ofNat code) = false := by
    decide +kernel
  cases blank : isBlank c with
  | false => rfl
  | true => simp [← outside _ (Ranges.mem_codes blank), inside]

theorem blank_not_identifierChar {c : Char} (blank : isBlank c) : isIdentifierChar c = false := by
  cases inside : isIdentifierChar c with
  | false => rfl
  | true => simp [identifierChar_not_blank inside] at blank

theorem identifierChar_not_mark {c : Char} (inside : isIdentifierChar c) :
    punctuation? c = none := by
  unfold punctuation?
  split
  case h_7 => rfl
  all_goals exact absurd inside (by decide)

theorem identifierChar_not_quote {c : Char} (inside : isIdentifierChar c) : isQuote c = false := by
  have outside : isIdentifierChar '"' = false ∧ isIdentifierChar '\'' = false := by decide
  simp only [isQuote, Bool.or_eq_false_iff, beq_eq_false_iff_ne]
  constructor <;> (rintro rfl; simp [outside] at inside)

theorem digit_identifierChar {c : Char} (isDigit : c.isDigit) : isIdentifierChar c := by
  have inside : ∀ code ∈ List.range' 48 10, isIdentifierChar (Char.ofNat code) := by decide +kernel
  have found : c.toNat ∈ List.range' 48 10 := by
    simp only [Char.isDigit, Bool.and_eq_true, decide_eq_true_eq] at isDigit
    simp only [List.mem_range'_1]
    exact ⟨isDigit.1, Nat.lt_succ_of_le isDigit.2⟩
  simpa using inside _ found

end Characters

section Lexemes

variable {cs rest : List Char} {c : Char}

theorem head?_dropWhile {p : Char → Bool} (found : c ∈ (cs.dropWhile p).head?) : p c = false := by
  have stops := List.head?_dropWhile_not p cs
  rw [found] at stops
  simpa using stops

theorem takeWhile_run {p : Char → Bool} {run rest : List Char} (inside : ∀ c ∈ run, p c)
    (ends : ∀ c ∈ rest.head?, p c = false) : (run ++ rest).takeWhile p = run := by
  rw [List.takeWhile_append_of_pos inside]
  cases rest with
  | nil => simp
  | cons c more => simp [ends c rfl]

theorem Lexeme.quoted_append {quote : Char} {body close : List Char} (absent : quote ∉ body)
    (closed : close = [quote] ∨ close = [] ∧ rest = []) :
    Lexeme.quoted quote (body ++ close ++ rest) = ⟨.text, body, body ++ close⟩ := by
  have ends : ∀ c ∈ (close ++ rest).head?, (c != quote) = false := by
    rcases closed with rfl | ⟨rfl, rfl⟩ <;> simp
  have inside : (body ++ (close ++ rest)).takeWhile (· != quote) = body := by
    refine takeWhile_run (fun c found => ?_) ends
    rw [bne_iff_ne]
    rintro rfl
    exact absent found
  have mark : (close ++ rest).take 1 = close := by
    rcases closed with rfl | ⟨rfl, rfl⟩ <;> rfl
  simp only [Lexeme.quoted, List.append_assoc, inside, List.drop_left, mark]

theorem Lexeme.comment_append {body : List Char} (oneLine : '\n' ∉ body)
    (ends : ∀ c ∈ rest.head?, c = '\n') :
    Lexeme.comment (body ++ rest) = ⟨.comment, trim body, '/' :: body⟩ := by
  have inside : (body ++ rest).takeWhile (· != '\n') = body := by
    refine takeWhile_run (fun c found => ?_) fun c found => by simp [ends c found]
    rw [bne_iff_ne]
    rintro rfl
    exact oneLine found
  rw [Lexeme.comment, inside]

theorem docParts_append {close : List Char} (unclosed : ¬ ['*', '/'] <:+: cs)
    (closed : close = ['*', '/'] ∨ close = [] ∧ rest = []) :
    docParts (cs ++ close ++ rest) = (cs, close) := by
  induction cs with
  | nil => rcases closed with rfl | ⟨rfl, rfl⟩ <;> rfl
  | cons c body ih =>
    -- No end here: the text has none, and its last star would be followed by another one.
    have notYet : ∀ tail, c = '*' → body ++ close ++ rest = '/' :: tail → False := by
      rintro tail rfl isSlash
      cases body with
      | nil => rcases closed with rfl | ⟨rfl, rfl⟩ <;> simp at isSlash
      | cons d more =>
        obtain ⟨rfl, -⟩ := List.cons.inj isSlash
        exact unclosed (List.prefix_append ['*', '/'] more).isInfix
    have inner : ¬ ['*', '/'] <:+: body :=
      fun found => unclosed (found.trans (List.suffix_cons c body).isInfix)
    rw [List.cons_append, List.cons_append, docParts.eq_3 _ _ notYet, ih inner]

theorem Lexeme.docComment_append {close : List Char} (unclosed : ¬ ['*', '/'] <:+: cs)
    (closed : close = ['*', '/'] ∨ close = [] ∧ rest = []) :
    Lexeme.docComment (cs ++ close ++ rest) =
      ⟨.docComment, docLiteral cs, '*' :: '*' :: (cs ++ close)⟩ := by
  rw [Lexeme.docComment, docParts_append unclosed closed]

theorem startsNumber_append (cs : List Char) (ends : ∀ d ∈ rest.head?, d.isDigit = false) :
    startsNumber c (cs ++ rest) = startsNumber c cs := by
  by_cases isMinus : c = '-'
  · subst isMinus
    cases cs with
    | nil =>
      cases rest with
      | nil => rfl
      | cons d more => simpa [startsNumber] using ends d rfl
    | cons d more => rfl
  · simp [startsNumber, isMinus]

theorem lexeme_plain {cs : List Char} (noMark : punctuation? c = none) (noQuote : isQuote c = false)
    (noComment : ∀ tail, c = '/' → cs ≠ '/' :: tail)
    (noDoc : ∀ tail, c = '/' → cs ≠ '*' :: '*' :: tail) : lexeme c cs = .word c cs := by
  simp only [lexeme, noMark, noQuote, Bool.false_eq_true, if_false]

theorem isWord_cons (word : isWord (c :: cs)) :
    (∀ tail, c = '/' → cs = '/' :: tail → False) ∧ startsNumber c cs = false ∧
      isIdentifierChar c ∧ ∀ d ∈ cs, isIdentifierChar d := by
  have bare : ∀ tail, c = '/' → cs = '/' :: tail → False := by
    rintro tail rfl rfl
    simp [isWord] at word
  simpa [isWord.eq_3 _ _ bare] using And.intro bare word

theorem isDigit_of_outside {d : Char} (outside : isIdentifierChar d = false) :
    d.isDigit = false := by
  cases isDigit : d.isDigit with
  | false => rfl
  | true => simp [digit_identifierChar isDigit] at outside

theorem lexeme_word (word : isWord (c :: cs)) (ends : ∀ d ∈ rest.head?, isIdentifierChar d = false)
    (noDoc : c :: cs = ['/'] → ¬ ['*', '*'] <+: rest) :
    lexeme c (cs ++ rest) = ⟨.identifier, c :: cs, cs⟩ := by
  obtain ⟨bare, noNumber, inside, others⟩ := isWord_cons word
  -- A slash alone is a word, unless what follows makes a comment of it.
  have noComment : ∀ tail, c = '/' → cs ++ rest ≠ '/' :: tail := by
    rintro tail rfl starts
    cases cs with
    | nil => exact absurd (ends '/' (by simp_all)) (by decide)
    | cons d more => exact bare more rfl (by simp [(List.cons.inj starts).1])
  have noDocComment : ∀ tail, c = '/' → cs ++ rest ≠ '*' :: '*' :: tail := by
    rintro tail rfl starts
    cases cs with
    | nil => exact noDoc rfl ⟨tail, starts.symm⟩
    | cons d more =>
      have star := others d (by simp)
      rw [(List.cons.inj starts).1] at star
      exact absurd star (by decide)
  have number : startsNumber c (cs ++ rest) = false := by
    rw [startsNumber_append cs fun d found => isDigit_of_outside (ends d found), noNumber]
  rw [lexeme_plain (identifierChar_not_mark inside) (identifierChar_not_quote inside) noComment
    noDocComment]
  simp [Lexeme.word, number, inside, Lexeme.identifier, takeWhile_run others ends]

end Lexemes

section Numerals

variable {c : Char} {cs tail rest : List Char}

theorem IsDecimal.starts (decimal : IsDecimal cs) : ∃ d more, cs = d :: more ∧ d.isDigit := by
  cases decimal with
  | whole held isDigit | pointed held isDigit =>
    obtain ⟨d, more, rfl⟩ := List.exists_cons_of_ne_nil held
    exact ⟨d, _, rfl, isDigit d (by simp)⟩

theorem IsNumeral.ne_nil (numeral : IsNumeral cs) : cs ≠ [] := by
  cases numeral with
  | plain decimal =>
    obtain ⟨d, more, rfl, -⟩ := decimal.starts
    exact List.cons_ne_nil _ _
  | negative decimal => exact List.cons_ne_nil _ _

theorem startsNumber_identifierChar (starts : startsNumber c cs) : isIdentifierChar c := by
  by_cases isMinus : c = '-'
  · subst isMinus
    decide
  · exact digit_identifierChar (by simpa [startsNumber, isMinus] using starts)

theorem decimalRun_append (decimal : IsDecimal cs)
    (ends : ∀ c ∈ rest.head?, c.isDigit = false ∧ (c = '.' → '.' ∈ cs)) :
    decimalRun (cs ++ rest) = cs := by
  cases decimal with
  | whole held isDigit =>
    -- A point would belong to the number.
    have run : (cs ++ rest).takeWhile Char.isDigit = cs :=
      takeWhile_run isDigit fun c found => (ends c found).1
    have noPoint : ∀ more, rest ≠ '.' :: more := by
      rintro more rfl
      exact absurd (isDigit '.' ((ends '.' rfl).2 rfl)) (by decide)
    simp only [decimalRun, run, List.drop_left]
  | @pointed digits fraction held isDigit fractional =>
    have run : (digits ++ '.' :: (fraction ++ rest)).takeWhile Char.isDigit = digits :=
      takeWhile_run isDigit (by rintro _ ⟨⟩; decide)
    have later : (fraction ++ rest).takeWhile Char.isDigit = fraction :=
      takeWhile_run fractional fun c found => (ends c found).1
    rw [List.append_assoc, List.cons_append]
    simp only [decimalRun, run, List.drop_left, later]

theorem Lexeme.number_append (numeral : IsNumeral (c :: tail))
    (ends : ∀ d ∈ rest.head?, d.isDigit = false ∧ (d = '.' → '.' ∈ c :: tail)) :
    startsNumber c (tail ++ rest) ∧
      Lexeme.number c (tail ++ rest) = ⟨.number, c :: tail, tail⟩ := by
  cases numeral with
  | plain decimal =>
    obtain ⟨d, more, same, isDigit⟩ := decimal.starts
    obtain ⟨rfl, rfl⟩ := List.cons.inj same
    have noMinus : c ≠ '-' := by
      rintro rfl
      exact absurd isDigit (by decide)
    have run := decimalRun_append decimal ends
    rw [List.cons_append] at run
    simp [startsNumber, Lexeme.number, noMinus, isDigit, run]
  | negative decimal =>
    obtain ⟨d, more, same, isDigit⟩ := decimal.starts
    have run : decimalRun (tail ++ rest) = tail :=
      decimalRun_append decimal fun c found => by simpa using ends c found
    refine ⟨?_, by simp [Lexeme.number, run]⟩
    subst same
    exact isDigit

theorem exists_run (p : Char → Bool) (cs : List Char) :
    ∃ run rest, cs = run ++ rest ∧ (∀ c ∈ run, p c) ∧ ∀ c ∈ rest.head?, p c = false :=
  ⟨cs.takeWhile p, cs.dropWhile p, List.takeWhile_append_dropWhile.symm,
    fun _ => List.mem_takeWhile_imp, fun _ => head?_dropWhile⟩

theorem exists_decimal (isDigit : c.isDigit) (cs : List Char) :
    ∃ tail rest, cs = tail ++ rest ∧ IsDecimal (c :: tail) ∧
      ∀ d ∈ rest.head?, d.isDigit = false ∧ (d = '.' → '.' ∈ c :: tail) := by
  obtain ⟨digits, after, rfl, inside, ends⟩ := exists_run Char.isDigit cs
  have digits' : ∀ d ∈ c :: digits, d.isDigit := List.forall_mem_cons.2 ⟨isDigit, inside⟩
  by_cases point : ∃ more, after = '.' :: more
  · obtain ⟨more, rfl⟩ := point
    obtain ⟨fraction, rest, rfl, fractional, ends'⟩ := exists_run Char.isDigit more
    refine ⟨digits ++ '.' :: fraction, rest, by simp, .pointed (by simp) digits' fractional, ?_⟩
    exact fun d found => ⟨ends' d found, fun _ => by simp⟩
  · refine ⟨digits, after, rfl, .whole (by simp) digits', fun d found => ⟨ends d found, ?_⟩⟩
    rintro rfl
    exact absurd (List.head?_eq_some_iff.1 found) point

theorem exists_numeral (starts : startsNumber c cs) :
    ∃ tail rest, cs = tail ++ rest ∧ IsNumeral (c :: tail) ∧
      ∀ d ∈ rest.head?, d.isDigit = false ∧ (d = '.' → '.' ∈ c :: tail) := by
  by_cases isMinus : c = '-'
  · subst isMinus
    cases cs with
    | nil => exact absurd starts (by decide)
    | cons d more =>
      obtain ⟨tail, rest, rfl, decimal, ends⟩ := exists_decimal (c := d) starts more
      exact ⟨d :: tail, rest, rfl, .negative decimal, fun e found => by simpa using ends e found⟩
  · have isDigit : c.isDigit := by simpa [startsNumber, isMinus] using starts
    obtain ⟨tail, rest, split, decimal, ends⟩ := exists_decimal isDigit cs
    exact ⟨tail, rest, split, .plain decimal, ends⟩

end Numerals

section Readings

variable {c : Char} {cs : List Char}

theorem exists_docBody (cs : List Char) :
    ∃ body close rest, cs = body ++ close ++ rest ∧ ¬ ['*', '/'] <:+: body ∧
      (close = ['*', '/'] ∨ close = [] ∧ rest = []) := by
  induction cs with
  | nil => exact ⟨[], [], [], rfl, by simp, .inr ⟨rfl, rfl⟩⟩
  | cons c more ih =>
    by_cases closes : c = '*' ∧ ∃ rest, more = '/' :: rest
    · obtain ⟨rfl, rest, rfl⟩ := closes
      exact ⟨[], ['*', '/'], rest, rfl, by simp, .inl rfl⟩
    · obtain ⟨body, close, rest, rfl, unclosed, closed⟩ := ih
      refine ⟨c :: body, close, rest, rfl, ?_, closed⟩
      rw [List.infix_cons_iff]
      rintro (⟨tail, starts⟩ | within)
      · obtain ⟨rfl, rfl⟩ := List.cons.inj starts
        exact closes ⟨rfl, _, rfl⟩
      · exact unclosed within

theorem exists_quoted (quote : isQuote c) (cs : List Char) :
    ∃ literal tail rest, cs = tail ++ rest ∧ Spells .text literal (c :: tail) rest := by
  obtain ⟨body, after, rfl, inside, ends⟩ := exists_run (· != c) cs
  have absent : c ∉ body := fun found => by simpa using inside c found
  cases after with
  | nil => exact ⟨body, body ++ [], [], by simp, .quoted quote absent (.inr ⟨rfl, rfl⟩)⟩
  | cons d rest =>
    obtain rfl : d = c := by simpa using ends d rfl
    exact ⟨body, body ++ [d], rest, by simp, .quoted quote absent (.inl rfl)⟩

theorem exists_comment (cs : List Char) :
    ∃ literal tail rest, cs = tail ++ rest ∧ Spells .comment literal ('/' :: '/' :: tail) rest := by
  obtain ⟨body, rest, rfl, inside, ends⟩ := exists_run (· != '\n') cs
  have oneLine : '\n' ∉ body := fun found => by simpa using inside _ found
  exact ⟨_, body, rest, rfl, .comment oneLine fun d found => by simpa using ends d found⟩

theorem exists_word (inside : isIdentifierChar c) (noNumber : startsNumber c cs = false)
    (noComment : ¬ (c = '/' ∧ ∃ more, cs = '/' :: more))
    (noDoc : ¬ (c = '/' ∧ ∃ more, cs = '*' :: '*' :: more)) :
    ∃ literal tail rest, cs = tail ++ rest ∧ Spells .identifier literal (c :: tail) rest := by
  obtain ⟨run, rest, rfl, others, ends⟩ := exists_run isIdentifierChar cs
  have bare : ∀ tail, c = '/' → run = '/' :: tail → False := by
    rintro tail rfl rfl
    exact noComment ⟨rfl, _, rfl⟩
  have word : isWord (c :: run) := by
    rw [startsNumber_append run fun d found => isDigit_of_outside (ends d found)] at noNumber
    simpa [isWord.eq_3 _ _ bare, noNumber, inside] using others
  refine ⟨_, run, rest, rfl, .identifier word ends ?_⟩
  rintro isSlash ⟨more, rfl⟩
  obtain ⟨rfl, rfl⟩ := List.cons.inj isSlash
  exact noDoc ⟨rfl, more, rfl⟩

end Readings

theorem mark_kind {c : Char} {kind : TokenKind} (isMark : punctuation? c = some kind) :
    kind ∈ [TokenKind.openBrace, .closeBrace, .openParen, .closeParen, .question, .atSign] := by
  unfold punctuation? at isMark
  split at isMark <;> cases isMark <;> decide

theorem mark_inked {c : Char} {kind : TokenKind} (isMark : punctuation? c = some kind) :
    isBlank c = false := by
  unfold punctuation? at isMark
  split at isMark <;> first | decide | cases isMark

theorem quote_cases {c : Char} (quote : isQuote c) : c = '"' ∨ c = '\'' := by
  simpa [isQuote] using quote

namespace Spells

variable {kind : TokenKind} {literal spelling rest : List Char}

theorem lexeme_eq (spells : Spells kind literal spelling rest) :
    ∃ c tail, spelling = c :: tail ∧ isBlank c = false ∧
      lexeme c (tail ++ rest) = ⟨kind, literal, tail⟩ := by
  cases spells with
  | mark isMark =>
    rename_i c
    exact ⟨c, [], rfl, mark_inked isMark, by simp [lexeme, isMark]⟩
  | quoted quote absent closed =>
    have found := Lexeme.quoted_append absent closed
    rcases quote_cases quote with rfl | rfl <;> exact ⟨_, _, rfl, by decide, found⟩
  | comment oneLine ends =>
    exact ⟨_, _, rfl, by decide, Lexeme.comment_append oneLine ends⟩
  | docComment unclosed closed =>
    exact ⟨_, _, rfl, by decide, Lexeme.docComment_append unclosed closed⟩
  | number numeral ends =>
    cases literal with
    | nil => exact absurd rfl numeral.ne_nil
    | cons c tail =>
      obtain ⟨starts, found⟩ := Lexeme.number_append numeral ends
      have inside := startsNumber_identifierChar starts
      have noSlash : c ≠ '/' := by
        rintro rfl
        cases starts
      refine ⟨c, tail, rfl, identifierChar_not_blank inside, ?_⟩
      rw [lexeme_plain (identifierChar_not_mark inside) (identifierChar_not_quote inside)
        (fun _ => (absurd · noSlash)) fun _ => (absurd · noSlash), Lexeme.word, if_pos starts,
        found]
  | identifier word ends noDoc =>
    cases literal with
    | nil => cases word
    | cons c cs =>
      obtain ⟨-, -, inside, -⟩ := isWord_cons word
      exact ⟨c, cs, rfl, identifierChar_not_blank inside, lexeme_word word ends noDoc⟩
  | unknown inked noMark noQuote outside =>
    rename_i c
    have noSlash : c ≠ '/' := by
      rintro rfl
      exact absurd outside (by decide)
    have noMinus : c ≠ '-' := by
      rintro rfl
      exact absurd outside (by decide)
    refine ⟨c, [], rfl, inked, ?_⟩
    rw [List.nil_append, lexeme_plain noMark noQuote (fun _ => (absurd · noSlash))
      fun _ => (absurd · noSlash)]
    simp [Lexeme.word, startsNumber, noMinus, isDigit_of_outside outside, outside]

theorem kind_ne_endOfText (spells : Spells kind literal spelling rest) : kind ≠ .endOfText := by
  rintro rfl
  cases spells with
  | mark isMark => exact absurd (mark_kind isMark) (by decide)

theorem isWord (spells : Spells .identifier literal spelling rest) : isWord literal := by
  cases spells with
  | mark isMark => exact absurd (mark_kind isMark) (by decide)
  | identifier word => exact word

end Spells

-- Every text that starts with no blank starts with the spelling of a token.
theorem exists_spelling {c : Char} (inked : isBlank c = false) (cs : List Char) :
    ∃ kind literal tail rest, cs = tail ++ rest ∧ Spells kind literal (c :: tail) rest := by
  cases isMark : punctuation? c with
  | some kind => exact ⟨kind, [c], [], cs, rfl, .mark isMark⟩
  | none =>
    -- The tests are made in this order: a slash starts comments before words, and a dash numbers.
    by_cases quote : isQuote c
    · exact ⟨_, exists_quoted quote cs⟩
    by_cases comment : c = '/' ∧ ∃ more, cs = '/' :: more
    · obtain ⟨rfl, more, rfl⟩ := comment
      obtain ⟨literal, tail, rest, rfl, spells⟩ := exists_comment more
      exact ⟨_, literal, '/' :: tail, rest, rfl, spells⟩
    by_cases doc : c = '/' ∧ ∃ more, cs = '*' :: '*' :: more
    · obtain ⟨rfl, more, rfl⟩ := doc
      obtain ⟨body, close, rest, rfl, unclosed, closed⟩ := exists_docBody more
      exact ⟨_, _, '*' :: '*' :: (body ++ close), rest, rfl, .docComment unclosed closed⟩
    by_cases number : startsNumber c cs
    · obtain ⟨tail, rest, split, numeral, ends⟩ := exists_numeral number
      exact ⟨_, _, tail, rest, split, .number numeral ends⟩
    by_cases inside : isIdentifierChar c
    · exact ⟨_, exists_word inside (by simpa using number) comment doc⟩
    · have noQuote : isQuote c = false := by simpa using quote
      exact ⟨_, _, [], cs, rfl, .unknown inked isMark noQuote (by simpa using inside)⟩

end ApiCatalog
