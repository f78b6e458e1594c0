import ApiCatalog.Text.Alphanumeric
import ApiCatalog.Text.Basic
import ApiCatalog.Token

set_option autoImplicit false

namespace ApiCatalog

open Text

structure Lexeme where
  kind : TokenKind
  literal : List Char
  tail : List Char

def punctuation? : Char → Option TokenKind
  | '\x7b' => some .openBrace
  | '\x7d' => some .closeBrace
  | '(' => some .openParen
  | ')' => some .closeParen
  | '?' => some .question
  | '@' => some .atSign
  | _ => none

def isQuote (c : Char) : Bool := c == '"' || c == '\''

-- Paths, addresses and comma separated lists are single identifiers.
def isIdentifierChar (c : Char) : Bool :=
  isAlphanumeric c || ['_', '/', ':', '.', '-', ','].contains c

-- A quoted text holds everything up to the next quote of its kind, or up to the end.
def Lexeme.quoted (quote : Char) (cs : List Char) : Lexeme :=
  let body := cs.takeWhile (· != quote)
  ⟨.text, body, body ++ (cs.drop body.length).take 1⟩

def Lexeme.comment (cs : List Char) : Lexeme :=
  let body := cs.takeWhile (· != '\n')
  ⟨.comment, trim body, '/' :: body⟩

def docParts : List Char → List Char × List Char
  | [] => ([], [])
  | '*' :: '/' :: _ => ([], ['*', '/'])
  | c :: rest =>
    let (body, close) := docParts rest
    (c :: body, close)

-- A doc comment reads as one line: its lines without decoration, joined by spaces.
def docLiteral (body : List Char) : List Char :=
  let decorated := (lines body).map fun line => trim ((trim line).dropWhile (· == '*'))
  [' '].intercalate (decorated.filter (!·.isEmpty))

def Lexeme.docComment (cs : List Char) : Lexeme :=
  let (body, close) := docParts cs
  ⟨.docComment, docLiteral body, '*' :: '*' :: (body ++ close)⟩

def decimalRun (cs : List Char) : List Char :=
  let whole := cs.takeWhile Char.isDigit
  match cs.drop whole.length with
  | '.' :: rest => whole ++ '.' :: rest.takeWhile Char.isDigit
  | _ => whole

def startsNumber : Char → List Char → Bool
  | '-', d :: _ => d.isDigit
  | c, _ => c.isDigit

def Lexeme.number : Char → List Char → Lexeme
  | '-', cs => ⟨.number, '-' :: decimalRun cs, decimalRun cs⟩
  | c, cs => ⟨.number, decimalRun (c :: cs), (decimalRun (c :: cs)).drop 1⟩

def Lexeme.identifier (c : Char) (cs : List Char) : Lexeme :=
  let run := cs.takeWhile isIdentifierChar
  ⟨.identifier, c :: run, run⟩

def Lexeme.word (c : Char) (cs : List Char) : Lexeme :=
  if startsNumber c cs then .number c cs
  else if isIdentifierChar c then .identifier c cs
  else ⟨.unknown, [c], []⟩

def lexeme (c : Char) (cs : List Char) : Lexeme :=
  match punctuation? c with
  | some kind => ⟨kind, [c], []⟩
  | none =>
    if isQuote c then .quoted c cs
    else match c, cs with
      | '/', '/' :: rest => .comment rest
      | '/', '*' :: '*' :: rest => .docComment rest
      | _, _ => .word c cs

-- Reads on from a line: blanks, then one token, until nothing is left. Also gives the line
-- reached at the end.
def scanFrom (line : Nat) (cs : List Char) : List Token × Nat :=
  let start := line + (cs.takeWhile isBlank).count '\n'
  match h : cs.dropWhile isBlank with
  | [] => ([], start)
  | c :: rest =>
    have shorter : rest.length < cs.length := by
      have suffix := (List.dropWhile_suffix isBlank (l := cs)).length_le
      rw [h] at suffix
      exact suffix
    let found := lexeme c rest
    let (tokens, endLine) :=
      scanFrom (start + (c :: found.tail).count '\n') (rest.drop found.tail.length)
    (⟨found.kind, String.ofList found.literal, start⟩ :: tokens, endLine)
termination_by cs.length
decreasing_by
  simp only [List.length_drop]
  omega

def TokenStream.ofText (text : String) : TokenStream :=
  let (tokens, endLine) := scanFrom 1 text.toList
  ⟨tokens, endLine⟩

/-- A place in a text at which tokens are asked for one by one: the line it is on, and what is
left. -/
structure Cursor where
  line : Nat
  rest : List Char

namespace Cursor

def ofText (text : String) : Cursor := ⟨1, text.toList⟩

def next (s : Cursor) : Token × Cursor :=
  let start := s.line + (s.rest.takeWhile isBlank).count '\n'
  match s.rest.dropWhile isBlank with
  | [] => (⟨.endOfText, "", start⟩, ⟨start, []⟩)
  | c :: rest =>
    let found := lexeme c rest
    (⟨found.kind, String.ofList found.literal, start⟩,
      ⟨start + (c :: found.tail).count '\n', rest.drop found.tail.length⟩)

def call (s : Cursor) : Nat → Token
  | 0 => s.next.1
  | n + 1 => s.next.2.call n

end Cursor

end ApiCatalog
