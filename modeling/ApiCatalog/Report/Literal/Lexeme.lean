import ApiCatalog.Number.Literal
import ApiCatalog.Text.Basic

set_option autoImplicit false

namespace ApiCatalog.Literal

inductive Lexeme
  | number (imaginary : Bool)
  | text (bytes : Bool)
  | word (name : String)
  | mark (c : Char)
  deriving DecidableEq, Repr

def isWordChar (c : Char) : Bool := c.isAlphanum || c == '_' || 128 ≤ c.toNat

def afterDigits (isDigit : Char → Bool) : List Char → List Char
  | '_' :: d :: rest => if isDigit d then afterDigits isDigit rest else '_' :: d :: rest
  | c :: rest => if isDigit c then afterDigits isDigit rest else c :: rest
  | [] => []

def baseDigit? : Char → Option (Char → Bool)
  | 'x' | 'X' => some fun c => (Number.hexDigit? c).isSome
  | 'o' | 'O' => some fun c => '0' ≤ c && c ≤ '7'
  | 'b' | 'B' => some fun c => c == '0' || c == '1'
  | _ => none

def afterFraction : List Char → List Char
  | '.' :: d :: rest => if d.isDigit then afterDigits Char.isDigit rest else d :: rest
  | ['.'] => []
  | cs => cs

def afterExponent : List Char → List Char
  | e :: cs =>
    if e = 'e' ∨ e = 'E' then
      match (Number.splitSign cs).2 with
      | d :: rest => if d.isDigit then afterDigits Char.isDigit rest else e :: cs
      | [] => e :: cs
    else e :: cs
  | [] => []

def isInteger (digits : List Char) : Bool :=
  if digits.head? == some '0' then digits.all fun c => c == '0' || c == '_'
  else (digits.filter (· != '_')).length ≤ Number.maxIntegerDigits

def readDecimal (cs : List Char) : Option (Bool × List Char) :=
  let whole := afterDigits Char.isDigit cs
  let rest := afterExponent (afterFraction whole)
  match rest with
  | 'j' :: rest | 'J' :: rest => some (true, rest)
  | rest =>
    if rest.length < whole.length || isInteger (cs.take (cs.length - whole.length)) then
      some (false, rest)
    else none

def readNumber (cs : List Char) : Option (Bool × List Char) := do
  let (imaginary, rest) ← match cs with
    | '0' :: letter :: digits =>
      match baseDigit? letter with
      | some isDigit =>
        let rest := afterDigits isDigit digits
        if rest.length < digits.length then some (false, rest) else none
      | none => readDecimal cs
    | _ => readDecimal cs
  if (rest.head?.map isWordChar).getD false then none else some (imaginary, rest)

def readLine (quote : Char) : List Char → Option (List Char × List Char)
  | '\\' :: c :: rest => (readLine quote rest).map fun (body, rest) => ('\\' :: c :: body, rest)
  | c :: rest =>
    if c = quote then some ([], rest)
    else if c = '\n' then none
    else (readLine quote rest).map fun (body, rest) => (c :: body, rest)
  | [] => none

def readLines (quote : Char) : List Char → Option (List Char × List Char)
  | '\\' :: c :: rest => (readLines quote rest).map fun (body, rest) => ('\\' :: c :: body, rest)
  | c :: rest =>
    if [quote, quote, quote].isPrefixOf (c :: rest) then some ([], rest.drop 2)
    else (readLines quote rest).map fun (body, rest) => (c :: body, rest)
  | [] => none

def startsWithHex (count : Nat) (cs : List Char) : Bool :=
  (cs.take count).length == count && (cs.take count).all fun c => (Number.hexDigit? c).isSome

def hexValue (cs : List Char) : Nat :=
  cs.foldl (fun n c => 16 * n + (Number.hexDigit? c).getD 0) 0

def startsWithName : List Char → Bool
  | '\x7b' :: rest => rest.contains '\x7d' && rest.head? != some '\x7d'
  | _ => false

-- An escape that gives a code has to give all of it. Bytes have no long codes and no names.
def escapesHold (bytes : Bool) : List Char → Bool
  | '\\' :: c :: rest =>
    (match c with
    | 'x' => startsWithHex 2 rest
    | 'u' => bytes || startsWithHex 4 rest
    | 'U' => bytes || (startsWithHex 8 rest && hexValue (rest.take 8) ≤ 0x10ffff)
    | 'N' => bytes || startsWithName rest
    | _ => true) && escapesHold bytes rest
  | _ :: rest => escapesHold bytes rest
  | [] => true

def readText (raw bytes : Bool) : List Char → Option (List Char)
  | quote :: rest => do
    let (body, rest) ←
      if [quote, quote].isPrefixOf rest then readLines quote (rest.drop 2)
      else readLine quote rest
    if (raw || escapesHold bytes body) && !(bytes && body.any fun c => 128 ≤ c.toNat) then rest
    else none
  | [] => none

def textKind? (letters : String) : Option (Bool × Bool) :=
  match letters.toLower with
  | "" | "u" => some (false, false)
  | "r" => some (true, false)
  | "b" => some (false, true)
  | "br" | "rb" => some (true, true)
  | _ => none

def isQuote (c : Char) : Bool := c == '\'' || c == '"'

def knownWords : List String := ["True", "False", "None", "set"]

def readWord (cs : List Char) : Option (Lexeme × List Char) := do
  let letters := String.ofList (cs.takeWhile isWordChar)
  let rest := cs.dropWhile isWordChar
  if (rest.head?.map isQuote).getD false then
    let (raw, bytes) ← textKind? letters
    return (.text bytes, ← readText raw bytes rest)
  else if knownWords.contains letters then some (.word letters, rest)
  else none

def isGap (c : Char) : Bool := c == ' ' || c == '\t' || c == '\x0c'

def isVoid (line : List Char) : Bool :=
  match line.dropWhile isGap with
  | c :: _ => c == '#'
  | [] => true

def maxDepth : Nat := 200

def depthAfter? (depth : Nat) (c : Char) : Option Nat :=
  if c = '(' ∨ c = '\x7b' then if depth < maxDepth then some (depth + 1) else none
  else if c = ')' ∨ c = '\x7d' then if depth = 0 then none else some (depth - 1)
  else if [',', ':', '+', '-'].contains c then some depth
  else none

-- The lexemes from a point on, where a number of brackets is open. Outside of brackets, only
-- comments may follow the end of a line. Every step reads a character: the length is fuel
-- enough.
def lexemesFrom : Nat → Nat → List Char → Option (List Lexeme)
  | 0, _, _ => none
  | _ + 1, _, [] => some []
  | fuel + 1, depth, c :: rest =>
    if isGap c then lexemesFrom fuel depth rest
    else if c = '#' then lexemesFrom fuel depth (rest.dropWhile (· != '\n'))
    else if c = '\n' then
      if depth = 0 then if (rest.splitOn '\n').all isVoid then some [] else none
      else lexemesFrom fuel depth rest
    else if c = '\\' then
      match rest with
      | '\n' :: d :: rest => lexemesFrom fuel depth (d :: rest)
      | _ => none
    else if c.isDigit || (c == '.' && (rest.head?.map Char.isDigit).getD false) then do
      let (imaginary, rest) ← readNumber (c :: rest)
      return .number imaginary :: (← lexemesFrom fuel depth rest)
    else if ['.', '.'].isPrefixOf rest && c == '.' then do
      return .word "..." :: (← lexemesFrom fuel depth (rest.drop 2))
    else if isWordChar c || isQuote c then do
      let (lexeme, rest) ← readWord (c :: rest)
      return lexeme :: (← lexemesFrom fuel depth rest)
    else do
      let depth ← depthAfter? depth c
      return .mark c :: (← lexemesFrom fuel depth rest)

-- The lexemes of a text without null characters. Comments may stand in front, but the first
-- line of a literal is not indented.
def lexemes? (cs : List Char) : Option (List Lexeme) :=
  let lines := ((Text.unifyNewlines cs).splitOn '\n').dropWhile isVoid
  let text := ['\n'].intercalate lines
  if cs.contains '\x00' then none
  else
    match text.head? with
    | some ' ' | some '\t' => none
    | _ => lexemesFrom (text.length + 1) 0 text

end ApiCatalog.Literal
