import ApiCatalog.Text.Basic

set_option autoImplicit false

namespace ApiCatalog.Yaml

/-- What keeps a text from being loaded. Only `malformed` says that the text or one of its nodes
breaks the rules of the format; the others come from contents that no value can be made of. -/
inductive Fault
  | malformed
  | codePoint
  | hugeCodePoint
  | number
  | emptyNumber
  | hugeNumber
  | flag
  | date
  | timestamp
  | notText
  | endless
  deriving DecidableEq, Repr

structure Source where
  rest : List Char
  index : Nat
  line : Nat
  column : Nat

def isBreak (c : Char) : Bool :=
  c == '\n' || c == '\r' || c == '\u0085' || c == '\u2028' || c == '\u2029'

def isEnd (c : Char) : Bool := c == '\x00'

def isBreakOrEnd (c : Char) : Bool := isEnd c || isBreak c

def isSpaceOrEnd (c : Char) : Bool := c == ' ' || isBreakOrEnd c

def isBlankOrEnd (c : Char) : Bool := c == '\t' || isSpaceOrEnd c

def isAllowed (c : Char) : Bool :=
  let n := c.toNat
  n == 0x9 || n == 0xa || n == 0xd || (0x20 ≤ n && n ≤ 0x7e) || n == 0x85 ||
    (0xa0 ≤ n && n ≤ 0xfffd) || (0x10000 ≤ n && (Text.strayUnit? c).isNone)

namespace Source

def ofChars (cs : List Char) : Source := ⟨cs, 0, 0, 0⟩

def peekAt (s : Source) (k : Nat) : Char := (s.rest.drop k).headD '\x00'

def peek (s : Source) : Char := s.peekAt 0

def next (s : Source) : Source :=
  match s.rest with
  | [] => s
  | c :: rest =>
    if isBreak c && !(c == '\r' && rest.head? == some '\n') then ⟨rest, s.index + 1, s.line + 1, 0⟩
    else ⟨rest, s.index + 1, s.line, if c == '\ufeff' then s.column else s.column + 1⟩

def skip (s : Source) : Nat → Source
  | 0 => s
  | n + 1 => s.next.skip n

def take (s : Source) (n : Nat) : List Char := s.rest.take n

def countWhile (s : Source) (p : Char → Bool) : Nat := (s.rest.takeWhile p).length

def skipWhile (s : Source) (p : Char → Bool) : Source := s.skip (s.countWhile p)

def skipSpaces (s : Source) : Source := s.skipWhile (· == ' ')

def lineBreak (s : Source) : List Char × Source :=
  if s.peek == '\r' && s.peekAt 1 == '\n' then (['\n'], s.skip 2)
  else if s.peek == '\u2028' || s.peek == '\u2029' then ([s.peek], s.next)
  else if isBreak s.peek then (['\n'], s.next)
  else ([], s)

def endLine (s : Source) : Except Fault Source :=
  let s := s.skipSpaces
  let s := if s.peek == '#' then s.skipWhile (!isBreak ·) else s
  if isBreakOrEnd s.peek then .ok s.lineBreak.2 else .error .malformed

def atSeparator (s : Source) : Bool :=
  (s.take 3 == ['-', '-', '-'] || s.take 3 == ['.', '.', '.']) && isBlankOrEnd (s.peekAt 3)

end Source

end ApiCatalog.Yaml
