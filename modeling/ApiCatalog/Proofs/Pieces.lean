import ApiCatalog.Proofs.Tilings
import Mathlib.Data.List.Forall2

/-!
Texts that are written as one piece per token, and what scanning them gives.
-/

set_option autoImplicit false

namespace ApiCatalog

open Text

inductive Mark
  | openBrace
  | closeBrace
  | openParen
  | closeParen
  | question
  | atSign

namespace Mark

def char : Mark → Char
  | openBrace => '\x7b'
  | closeBrace => '\x7d'
  | openParen => '('
  | closeParen => ')'
  | question => '?'
  | atSign => '@'

@[simp]
def kind : Mark → TokenKind
  | openBrace => .openBrace
  | closeBrace => .closeBrace
  | openParen => .openParen
  | closeParen => .closeParen
  | question => .question
  | atSign => .atSign

end Mark

inductive Piece
  | word (s : String)
  | quoted (s : String)
  | mark (m : Mark)
  | comment (s : String)
  | doc (s : String)

def quoteFor (s : String) : Char := if s.toList.contains '"' then '\'' else '"'

namespace Piece

def kind : Piece → TokenKind
  | word _ => .identifier
  | quoted _ => .text
  | mark m => m.kind
  | comment _ => .comment
  | doc _ => .docComment

def literal : Piece → String
  | word s | quoted s | comment s | doc s => s
  | mark m => String.singleton m.char

@[simp]
theorem kind_word (s : String) : (word s).kind = .identifier := rfl

@[simp]
theorem kind_quoted (s : String) : (quoted s).kind = .text := rfl

@[simp]
theorem kind_mark (m : Mark) : (mark m).kind = m.kind := rfl

@[simp]
theorem kind_comment (s : String) : (comment s).kind = .comment := rfl

@[simp]
theorem literal_word (s : String) : (word s).literal = s := rfl

@[simp]
theorem literal_quoted (s : String) : (quoted s).literal = s := rfl

@[simp]
theorem literal_comment (s : String) : (comment s).literal = s := rfl

-- A star before the text of a doc comment keeps those apart that the text starts with.
def body : Piece → List Char
  | word s => s.toList
  | quoted s => quoteFor s :: (s.toList ++ [quoteFor s])
  | mark m => [m.char]
  | comment s => ['/', '/', ' '] ++ s.toList
  | doc s => ['/', '*', '*', ' ', '*', ' '] ++ s.toList ++ [' ', '*', '/']

def blank : Piece → Char
  | comment _ => '\n'
  | _ => ' '

def spelling (p : Piece) : List Char := p.body ++ [p.blank]

def height (p : Piece) : Nat := p.spelling.count '\n'

@[simp]
def token (line : Nat) (p : Piece) : Token := ⟨p.kind, p.literal, line⟩

end Piece

def spell (pieces : List Piece) : String := String.ofList (pieces.flatMap Piece.spelling)

def tokensFrom : Nat → List Piece → List Token
  | _, [] => []
  | line, p :: rest => p.token line :: tokensFrom (line + p.height) rest

def IsIdentifier (s : String) : Prop := (TokenStream.ofText s).tokens = [⟨.identifier, s, 1⟩]

instance (s : String) : Decidable (IsIdentifier s) := inferInstanceAs (Decidable (_ = _))

-- One of the quotes does not occur.
def isQuotable (s : String) : Bool := !(s.toList.contains '"' && s.toList.contains '\'')

def isOneLine (s : String) : Bool := trim s.toList == s.toList && !s.toList.contains '\n'

-- What doc comments are read as: trimmed, without line ends, and without their closing mark.
def IsDocText (s : String) : Prop :=
  trim s.toList = s.toList ∧ (∀ c ∈ s.toList, isLineEnd c = false) ∧ ¬ ['*', '/'] <:+: s.toList

instance (s : String) : Decidable (IsDocText s) :=
  -- Through the characters of the text, never through all there are.
  have : Decidable (∀ c ∈ s.toList, isLineEnd c = false) := List.decidableBAll _ _
  inferInstanceAs (Decidable (_ ∧ _ ∧ _))

def Piece.Scannable : Piece → Prop
  | word s => isWord s.toList
  | quoted s => isQuotable s
  | mark _ => True
  | comment s => isOneLine s
  | doc s => IsDocText s

instance : (p : Piece) → Decidable p.Scannable
  | .word s => inferInstanceAs (Decidable (isWord s.toList = true))
  | .quoted s => inferInstanceAs (Decidable (isQuotable s = true))
  | .mark _ => .isTrue trivial
  | .comment s => inferInstanceAs (Decidable (isOneLine s = true))
  | .doc s => inferInstanceAs (Decidable (IsDocText s))

theorem Piece.scannable_mark (m : Mark) : (mark m).Scannable := trivial

theorem toDigits_ne_dash (n : Nat) : ∀ c ∈ (Nat.toDigits 10 n).reverse, (c != '-') = true := by
  intro c found
  have isDigit := Nat.isDigit_of_mem_toDigits (by decide) (by decide) (List.mem_reverse.1 found)
  simp only [bne_iff_ne]
  rintro rfl
  exact absurd isDigit (by decide)

section Trimming

theorem trimStart_eq_self {s : List Char} (trimmed : trim s = s) : trimStart s = s := by
  have cut : s <+: trimStart s := by
    have suffix := (List.dropWhile_suffix isBlank (l := (trimStart s).reverse))
    rw [← List.reverse_prefix, List.reverse_reverse] at suffix
    calc s = trim s := trimmed.symm
      _ <+: trimStart s := suffix
  exact (List.dropWhile_suffix isBlank).eq_of_length_le cut.length_le

theorem trimEnd_eq_self {s : List Char} (trimmed : trim s = s) : trimEnd s = s := by
  have kept := trimmed
  rwa [trim, trimStart_eq_self trimmed] at kept

theorem trimStart_append {before : List Char} (blank : ∀ c ∈ before, isBlank c) (s : List Char) :
    trimStart (before ++ s) = trimStart s :=
  List.dropWhile_append_of_pos blank

theorem trimEnd_append {after : List Char} (blank : ∀ c ∈ after, isBlank c) (s : List Char) :
    trimEnd (s ++ after) = trimEnd s := by
  have reversed : ∀ c ∈ after.reverse, isBlank c := by simpa using blank
  simp [trimEnd, List.dropWhile_append_of_pos reversed]

theorem trim_cons {c : Char} {s : List Char} (inked : isBlank c = false) :
    trim (c :: s) = trimEnd (c :: s) := by
  simp [trim, trimStart, inked]

theorem trim_pad (before after : List Char) {s : List Char} (start : ∀ c ∈ before, isBlank c)
    (finish : ∀ c ∈ after, isBlank c) (trimmed : trim s = s) :
    trim (before ++ s ++ after) = s := by
  rw [trim, List.append_assoc, trimStart_append start]
  cases s with
  | nil =>
    have nothing := trimStart_append finish []
    rw [List.append_nil] at nothing
    rw [List.nil_append, nothing]
    rfl
  | cons c rest =>
    have inked : isBlank c = false := by
      simpa [trimStart, List.dropWhile_eq_self_iff] using trimStart_eq_self trimmed
    rw [List.cons_append, ← trim, trim_cons inked, ← List.cons_append, trimEnd_append finish,
      trimEnd_eq_self trimmed]

theorem trim_space_cons {s : List Char} (trimmed : trim s = s) : trim (' ' :: s) = s := by
  simpa using trim_pad [' '] [] (List.forall_mem_singleton.2 rfl) nofun trimmed

theorem trimEnd_prepend (before : List Char) {s : List Char} (held : s ≠ [])
    (trimmed : trimEnd s = s) :
    trimEnd (before ++ s) = before ++ s := by
  have kept : s.reverse.dropWhile isBlank = s.reverse := by
    rw [← List.reverse_eq_iff]
    exact trimmed
  simp [trimEnd, List.dropWhile_append, kept, held]

end Trimming

section Ends

variable {p : Char → Bool} {cs : List Char}

theorem dropWhile_eq_self (kept : ∀ c ∈ cs.head?, p c = false) : cs.dropWhile p = cs := by
  cases cs with
  | nil => rfl
  | cons c rest => simp [kept c rfl]

theorem dropEnds_ends (p : Char → Bool) (cs : List Char) :
    let kept := ((cs.dropWhile p).reverse.dropWhile p).reverse
    (∀ c ∈ kept.head?, p c = false) ∧ ∀ c ∈ kept.getLast?, p c = false := by
  intro kept
  constructor
  · intro c found
    have start : kept <+: cs.dropWhile p := by
      have suffix := List.dropWhile_suffix p (l := (cs.dropWhile p).reverse)
      rwa [← List.reverse_prefix, List.reverse_reverse] at suffix
    obtain ⟨rest, split⟩ := start
    obtain ⟨more, starts⟩ := List.head?_eq_some_iff.1 found
    have first : c ∈ (cs.dropWhile p).head? := by
      rw [← split, starts]
      rfl
    exact head?_dropWhile first
  · intro c found
    rw [List.getLast?_reverse] at found
    exact head?_dropWhile found

theorem dropEnds_isInfix (p : Char → Bool) (cs : List Char) :
    ((cs.dropWhile p).reverse.dropWhile p).reverse <:+: cs := by
  have inner := (List.dropWhile_suffix p (l := (cs.dropWhile p).reverse)).isInfix
  rw [← List.reverse_infix, List.reverse_reverse] at inner
  exact inner.trans (List.dropWhile_suffix p).isInfix

end Ends

section Trimmed

variable {cs : List Char}

theorem trim_ends (cs : List Char) :
    (∀ c ∈ (trim cs).head?, isBlank c = false) ∧ ∀ c ∈ (trim cs).getLast?, isBlank c = false :=
  dropEnds_ends isBlank cs

theorem trim_eq_self_iff :
    trim cs = cs ↔ (∀ c ∈ cs.head?, isBlank c = false) ∧ ∀ c ∈ cs.getLast?, isBlank c = false := by
  constructor
  · intro trimmed
    have ends := trim_ends cs
    rwa [trimmed] at ends
  · rintro ⟨start, finish⟩
    have reversed : ∀ c ∈ cs.reverse.head?, isBlank c = false := by simpa using finish
    rw [trim, trimStart, dropWhile_eq_self start, trimEnd, dropWhile_eq_self reversed,
      List.reverse_reverse]

@[simp]
theorem trim_trim (cs : List Char) : trim (trim cs) = trim cs :=
  trim_eq_self_iff.2 (trim_ends cs)

theorem trim_isInfix (cs : List Char) : trim cs <:+: cs := dropEnds_isInfix isBlank cs

end Trimmed

section Decorations

variable {line text : List Char}

/-- What is left of a line without the blanks around it, the stars at its start and the blanks after
those. It starts with a star only behind both stars and blanks. -/
structure Undecorated (line text : List Char) : Prop where
  trimmed : trim text = text
  split : ∃ before stars between after, line = before ++ stars ++ between ++ text ++ after ∧
    (∀ c ∈ before ++ between ++ after, isBlank c) ∧ (∀ c ∈ stars, c = '*') ∧
    (text.head? = some '*' → stars ≠ [] ∧ between ≠ [])

theorem dropStars_eq_self {cs : List Char} (bare : cs.head? ≠ some '*') :
    cs.dropWhile (· == '*') = cs :=
  dropWhile_eq_self fun c isHead => by
    simpa using fun isStar : c = '*' => bare (isStar ▸ isHead)

theorem trim_stars {stars cs : List Char} (starry : ∀ c ∈ stars, c = '*') (held : stars ≠ [])
    (inked : ∀ c ∈ cs.getLast?, isBlank c = false) : trim (stars ++ cs) = stars ++ cs := by
  have starInked : isBlank '*' = false := by decide
  refine trim_eq_self_iff.2 ⟨fun c isHead => ?_, fun c isLast => ?_⟩
  · rw [List.head?_append_of_ne_nil _ held] at isHead
    rwa [starry c (List.mem_of_mem_head? isHead)]
  · rw [List.getLast?_append] at isLast
    rcases Option.or_eq_some_iff.1 isLast with isLast | ⟨-, isLast⟩
    · exact inked c isLast
    · rwa [starry c (List.mem_of_mem_getLast? isLast)]

theorem Undecorated.eq (left : Undecorated line text) :
    trim ((trim line).dropWhile (· == '*')) = text := by
  obtain ⟨trimmed, before, stars, between, after, rfl, blank, starry, apart⟩ := left
  simp only [List.mem_append, or_imp, forall_and] at blank
  obtain ⟨⟨blankBefore, blankBetween⟩, blankAfter⟩ := blank
  by_cases noStars : stars = []
  · have whole : trim (before ++ stars ++ between ++ text ++ after) = text := by
      rw [noStars, List.append_nil]
      exact trim_pad _ _ (List.forall_mem_append.2 ⟨blankBefore, blankBetween⟩) blankAfter trimmed
    rw [whole, dropStars_eq_self fun isStar => (apart isStar).1 noStars, trimmed]
  have dropped : stars.dropWhile (· == '*') = [] := by simpa using starry
  by_cases empty : text = []
  · have onlyStars : trim stars = stars := by
      simpa using @trim_stars stars [] starry noStars (by simp)
    have whole := trim_pad before (between ++ after) blankBefore
      (List.forall_mem_append.2 ⟨blankBetween, blankAfter⟩) onlyStars
    rw [empty, List.append_nil, List.append_assoc, whole, dropped]
    rfl
  · have bare : (between ++ text).head? ≠ some '*' := by
      cases between with
      | nil => exact fun isStar => (apart isStar).2 rfl
      | cons c rest =>
        rintro ⟨⟩
        exact absurd (blankBetween '*' List.mem_cons_self) (by decide)
    have finish : ∀ c ∈ (between ++ text).getLast?, isBlank c = false := by
      rw [List.getLast?_append_of_ne_nil _ empty]
      exact (trim_eq_self_iff.1 trimmed).2
    have whole := trim_pad before after blankBefore blankAfter (trim_stars starry noStars finish)
    have outer : before ++ stars ++ between ++ text ++ after =
        before ++ (stars ++ (between ++ text)) ++ after := by simp
    rw [outer, whole, List.dropWhile_append, dropped, List.isEmpty_nil, if_pos rfl,
      dropStars_eq_self bare]
    simpa using trim_pad between [] blankBetween nofun trimmed

theorem exists_trim (text : List Char) : ∃ before after, text = before ++ trim text ++ after ∧
    (∀ c ∈ before, isBlank c) ∧ ∀ c ∈ after, isBlank c := by
  refine ⟨text.takeWhile isBlank, ((trimStart text).reverse.takeWhile isBlank).reverse, ?_,
    fun _ => List.mem_takeWhile_imp,
    fun c found => List.mem_takeWhile_imp (List.mem_reverse.1 found)⟩
  have finish : trimStart text =
      trim text ++ ((trimStart text).reverse.takeWhile isBlank).reverse := by
    rw [trim, trimEnd, ← List.reverse_append, List.takeWhile_append_dropWhile, List.reverse_reverse]
  rw [List.append_assoc, ← finish, trimStart, List.takeWhile_append_dropWhile]

theorem undecorated_trim (line : List Char) :
    Undecorated line (trim ((trim line).dropWhile (· == '*'))) := by
  obtain ⟨before, after, outer, blankBefore, blankAfter⟩ := exists_trim line
  obtain ⟨stars, bare, inner, starry, ends⟩ := exists_run (· == '*') (trim line)
  obtain ⟨between, behind, rest, blankBetween, blankBehind⟩ := exists_trim bare
  have dropped : (trim line).dropWhile (· == '*') = bare := by
    rw [inner, List.dropWhile_append_of_pos starry, dropWhile_eq_self ends]
  rw [dropped]
  refine ⟨trim_trim bare, before, stars, between, behind ++ after, ?_, ?_, by simpa using starry,
    ?_⟩
  · calc line = before ++ (stars ++ (between ++ trim bare ++ behind)) ++ after := by
          rw [← rest, ← inner, ← outer]
      _ = _ := by simp
  · simp only [List.mem_append, or_imp, forall_and]
    exact ⟨⟨blankBefore, blankBetween⟩, blankBehind, blankAfter⟩
  · intro starts
    have spaced : between ≠ [] := by
      rintro rfl
      have isHead : bare.head? = some '*' := by
        rw [rest, List.nil_append, List.head?_append, starts]
        rfl
      simpa using ends '*' isHead
    refine ⟨?_, spaced⟩
    rintro rfl
    have same : trim bare = bare := by
      rw [List.nil_append] at inner
      rw [← inner, trim_trim]
    have lengths := congrArg List.length rest
    rw [same] at lengths
    simp only [List.length_append] at lengths
    exact spaced (List.eq_nil_of_length_eq_zero (by omega))

end Decorations

section Spellings

variable {s : String} {cs rest : List Char}

theorem quoteFor_not_mem (quotable : isQuotable s) : quoteFor s ∉ s.toList := by
  unfold quoteFor
  split
  · simp_all [isQuotable]
  · simp_all

theorem spells_quoted (quotable : isQuotable s) :
    Spells .text s.toList (quoteFor s :: (s.toList ++ [quoteFor s])) rest := by
  have quote : isQuote (quoteFor s) := by
    unfold quoteFor
    split <;> rfl
  exact .quoted quote (quoteFor_not_mem quotable) (.inl rfl)

theorem isOneLine_iff : isOneLine s ↔ trim s.toList = s.toList ∧ '\n' ∉ s.toList := by
  simp [isOneLine]

theorem spells_comment (oneLine : isOneLine s) :
    Spells .comment s.toList ('/' :: '/' :: ' ' :: s.toList) ('\n' :: rest) := by
  obtain ⟨trimmed, ends⟩ := isOneLine_iff.1 oneLine
  have body : '\n' ∉ ' ' :: s.toList := by simpa using ends
  have spells : Spells .comment (trim (' ' :: s.toList)) ('/' :: '/' :: ' ' :: s.toList)
      ('\n' :: rest) := .comment body (by simp)
  rwa [trim_space_cons trimmed] at spells

theorem linesFrom_flat (flat : ∀ c ∈ cs, isLineEnd c = false) (line : List Char)
    (held : line ≠ [] ∨ cs ≠ []) : linesFrom cs line = [line.reverse ++ cs] := by
  induction cs generalizing line with
  | nil =>
    cases line with
    | nil => simp at held
    | cons c more => simp [linesFrom]
  | cons c more ih =>
    obtain ⟨first, others⟩ := List.forall_mem_cons.1 flat
    rw [linesFrom, if_neg (by simp [first]), ih others _ (.inl (by simp))]
    · simp
    · rintro tail rfl
      simp [isLineEnd] at first

theorem docLiteral_starred (docText : IsDocText s) :
    docLiteral ([' ', '*', ' '] ++ s.toList ++ [' ']) = s.toList := by
  obtain ⟨trimmed, flat, -⟩ := docText
  have single : lines ([' ', '*', ' '] ++ s.toList ++ [' ']) =
      [[' ', '*', ' '] ++ s.toList ++ [' ']] := by
    refine linesFrom_flat ?_ [] (.inr (by simp))
    intro c found
    simp only [List.mem_append, List.mem_cons, List.not_mem_nil, or_false] at found
    rcases found with (((rfl | rfl | rfl) | found) | rfl)
    case inl.inr => exact flat c found
    all_goals decide
  have undecorated : Undecorated ([' ', '*', ' '] ++ s.toList ++ [' ']) s.toList :=
    ⟨trimmed, [' '], ['*'], [' '], [' '], rfl, List.all_eq_true.1 rfl, by simp, by simp⟩
  rw [docLiteral, single, List.map_singleton, undecorated.eq]
  cases s.toList <;> simp

/-- A doc comment is read as what is left of its lines, joined by spaces, but for those of which
nothing is left. -/
theorem docLiteral_eq_iff {body literal : List Char} : docLiteral body = literal ↔
    ∃ texts, List.Forall₂ Undecorated (lines body) texts ∧
      [' '].intercalate (texts.filter (!·.isEmpty)) = literal := by
  constructor
  · rintro rfl
    refine ⟨_, ?_, rfl⟩
    rw [List.forall₂_map_right_iff, List.forall₂_same]
    exact fun line _ => undecorated_trim line
  · rintro ⟨texts, left, rfl⟩
    have same : (lines body).map (fun line => trim ((trim line).dropWhile (· == '*'))) = texts := by
      rw [← List.forall₂_eq_eq_eq, List.forall₂_map_left_iff]
      exact left.imp fun _ _ => Undecorated.eq
    rw [docLiteral, same]

theorem spells_doc (docText : IsDocText s) :
    Spells .docComment s.toList
      ('/' :: '*' :: '*' :: ([' ', '*', ' '] ++ s.toList ++ [' '] ++ ['*', '/'])) rest := by
  obtain ⟨-, -, within⟩ := id docText
  have unclosed : ¬ ['*', '/'] <:+: [' ', '*', ' '] ++ s.toList ++ [' '] := by
    have noEnd : ∀ tail, ['*', '/'] ≠ tail ++ [' '] :=
      fun tail same => by simpa using congrArg List.getLast? same
    simpa [List.infix_cons_iff, List.infix_concat_iff, List.suffix_concat_iff, noEnd] using within
  have spells : Spells .docComment (docLiteral ([' ', '*', ' '] ++ s.toList ++ [' ']))
      ('/' :: '*' :: '*' :: ([' ', '*', ' '] ++ s.toList ++ [' '] ++ ['*', '/'])) rest :=
    .docComment unclosed (.inl rfl)
  rwa [docLiteral_starred docText] at spells

theorem spells_word (word : isWord cs) {blank : Char} (isBlank : isBlank blank) :
    Spells .identifier cs cs (blank :: rest) := by
  refine .identifier word ?_ ?_
  · rintro c ⟨⟩
    exact blank_not_identifierChar isBlank
  · rintro - ⟨more, starts⟩
    rw [← (List.cons.inj starts).1] at isBlank
    cases isBlank

end Spellings

namespace Piece

theorem spells {p : Piece} (scannable : p.Scannable) (rest : List Char) :
    Spells p.kind p.literal.toList p.body (p.blank :: rest) := by
  cases p with
  | word s => exact spells_word scannable rfl
  | quoted s => exact spells_quoted scannable
  | mark m => cases m <;> exact .mark rfl
  | comment s => exact spells_comment scannable
  | doc s => simpa [body, kind, literal] using spells_doc scannable

theorem scanFrom_spelling {p : Piece} (scannable : p.Scannable) (line : Nat) (rest : List Char) :
    scanFrom line (p.spelling ++ rest) =
      (scanFrom (line + p.height) rest).map (p.token line :: ·) id := by
  have blank : isBlank p.blank := by cases p <;> rfl
  have goesOn := scanFrom_spells (spells scannable rest) line
  rw [scanFrom_blank blank, Nat.add_assoc, ← List.count_append, String.ofList_toList] at goesOn
  simpa [spelling, height, token] using goesOn

end Piece

theorem scanFrom_spell {pieces : List Piece} (scannable : ∀ p ∈ pieces, p.Scannable) (line : Nat) :
    (scanFrom line (pieces.flatMap Piece.spelling)).1 = tokensFrom line pieces := by
  induction pieces generalizing line with
  | nil => rw [List.flatMap_nil, scanFrom_nil, tokensFrom]
  | cons p rest ih =>
    obtain ⟨first, others⟩ := List.forall_mem_cons.1 scannable
    rw [List.flatMap_cons, Piece.scanFrom_spelling first, tokensFrom, ← ih others]
    rfl

theorem isWord_of_isIdentifier {s : String} (identifier : IsIdentifier s) : isWord s.toList := by
  have found : ⟨.identifier, s, 1⟩ ∈ (TokenStream.ofText s).tokens := by
    rw [identifier]
    exact List.mem_singleton.2 rfl
  obtain ⟨spelling, rest, spells⟩ := spells_of_mem found
  exact spells.isWord

end ApiCatalog
