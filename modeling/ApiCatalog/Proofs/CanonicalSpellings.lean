import ApiCatalog.Proofs.CommentTexts
import ApiCatalog.Proofs.Layout

/-!
One spelling for each token. A text can be spelled anew, token by token, and means the same.
-/

set_option autoImplicit false

namespace ApiCatalog

open Text

def Token.canonical (t : Token) : List Char :=
  match t.kind with
  | .text => quoteFor t.literal :: (t.literal.toList ++ [quoteFor t.literal])
  | .comment => ['/', '/', ' '] ++ t.literal.toList
  | .docComment => ['/', '*', '*', ' ', '*', ' '] ++ t.literal.toList ++ [' ', '*', '/']
  | _ => t.literal.toList

def respell (tokens : List Token) : String :=
  String.ofList (tokens.flatMap fun t => t.canonical ++ ['\n'])

theorem Token.canonical_plain {t : Token}
    (plain : t.kind ∉ [TokenKind.text, .comment, .docComment]) :
    t.canonical = t.literal.toList := by
  unfold canonical
  split <;> simp_all

theorem isQuotable_of_absent {quote : Char} {body : List Char} (isQuote : isQuote quote)
    (absent : quote ∉ body) : isQuotable (String.ofList body) := by
  rcases quote_cases isQuote with rfl | rfl <;> simp [isQuotable, absent]

theorem Spells.canonical {kind : TokenKind} {literal spelling rest : List Char}
    (spells : Spells kind literal spelling rest) (line : Nat) (more : List Char) :
    Spells kind literal (Token.mk kind (String.ofList literal) line).canonical ('\n' :: more) := by
  have plain (other : kind ∉ [TokenKind.text, .comment, .docComment]) :
      (Token.mk kind (String.ofList literal) line).canonical = literal := by
    rw [Token.canonical_plain other, String.toList_ofList]
  cases spells with
  | mark isMark =>
    have other : kind ∉ [TokenKind.text, .comment, .docComment] := by
      have marks := mark_kind isMark
      simp only [List.mem_cons, List.not_mem_nil, or_false] at marks
      rcases marks with rfl | rfl | rfl | rfl | rfl | rfl <;> decide
    rw [plain other]
    exact .mark isMark
  | quoted isQuote absent =>
    simpa [Token.canonical] using spells_quoted (isQuotable_of_absent isQuote absent)
  | comment oneLine =>
    simpa [Token.canonical] using spells_comment (isOneLine_trim oneLine)
  | docComment unclosed =>
    simpa [Token.canonical] using spells_doc (isDocText_docLiteral unclosed)
  | number numeral =>
    rw [plain (by decide)]
    -- A line feed is no digit and no point.
    refine .number numeral ?_
    rintro c ⟨⟩
    exact ⟨by decide, nofun⟩
  | identifier word =>
    rw [plain (by decide)]
    exact spells_word word rfl
  | unknown inked noMark noQuote outside =>
    rw [plain (by decide)]
    exact .unknown inked noMark noQuote outside

theorem scanFrom_respell {tokens : List Token}
    (spelled : ∀ t ∈ tokens, ∃ spelling rest, Spells t.kind t.literal.toList spelling rest)
    (line : Nat) :
    (scanFrom line (tokens.flatMap fun t => t.canonical ++ ['\n'])).1.map Token.content =
      tokens.map Token.content := by
  -- On the tokens, for every line: how far the lines move on depends on the new spellings.
  induction tokens generalizing line with
  | nil => rw [List.flatMap_nil, scanFrom_nil]
  | cons t others ih =>
    obtain ⟨⟨spelling, rest, spells⟩, later⟩ := List.forall_mem_cons.1 spelled
    have canonical := spells.canonical t.line
      (others.flatMap fun t => t.canonical ++ ['\n'])
    rw [String.ofList_toList] at canonical
    rw [List.flatMap_cons, List.append_assoc, List.singleton_append, scanFrom_spells canonical,
      scanFrom_blank (c := '\n') rfl]
    simp only [Prod.map, List.map_cons, ih later, String.ofList_toList]
    rfl

/-- A text whose tokens are spelled anew, each on a line of its own, has the same tokens. -/
theorem TokenStream.ofText_respell (text : String) :
    (TokenStream.ofText (respell (TokenStream.ofText text).tokens)).tokens.map Token.content =
      (TokenStream.ofText text).tokens.map Token.content := by
  have spelled (t : Token) (found : t ∈ (TokenStream.ofText text).tokens) := spells_of_mem found
  have again := scanFrom_respell spelled 1
  simpa [TokenStream.ofText, respell] using again

end ApiCatalog
