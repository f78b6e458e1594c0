import ApiCatalog.Text.Charset.Unicode
import ApiCatalog.Text.Punycode

/-!
Charsets that spell characters out in ASCII: by a backslash and digits, or in letters and digits
that follow the last hyphen.
-/

set_option autoImplicit false

namespace ApiCatalog.Text

-- Halves of a character that stand side by side are one character; other halves are replaced.
def joinHalves : List Nat → List Char
  | high :: low :: rest =>
    if isHighSurrogate high && isLowSurrogate low then joinSurrogates high low :: joinHalves rest
    else
      (if high.isValidChar then Char.ofNat high else replacement) :: joinHalves (low :: rest)
  | [code] => [if code.isValidChar then Char.ofNat code else replacement]
  | [] => []

def hexDigit? (c : Char) : Option Nat :=
  if c.isDigit then some (c.toNat - 48)
  else if 'a' ≤ c && c ≤ 'f' then some (c.toNat - 87)
  else if 'A' ≤ c && c ≤ 'F' then some (c.toNat - 55)
  else none

def readHex : Nat → Nat → List Char → Option Nat × List Char
  | 0, code, rest => (if code ≤ 0x10ffff then some code else none, rest)
  | count + 1, code, c :: rest =>
    match hexDigit? c with
    | some digit => readHex count (16 * code + digit) rest
    | none => (none, c :: rest)
  | _ + 1, _, [] => (none, [])

def readOctal : Nat → Nat → List Char → Nat × List Char
  | count + 1, code, c :: rest =>
    if '0' ≤ c && c ≤ '7' then readOctal count (8 * code + (c.toNat - 48)) rest
    else (code, c :: rest)
  | _, code, rest => (code, rest)

def plainEscapes : List (Char × Nat) :=
  [('\\', 92), ('\'', 39), ('"', 34), ('b', 8), ('f', 12), ('t', 9), ('n', 10), ('r', 13),
   ('v', 11), ('a', 7)]

def skipName : List Char → List Char
  | '\x7b' :: rest =>
    match rest.dropWhile (· != '\x7d') with
    | '\x7d' :: after => if rest.head? == some '\x7d' then rest else after
    | _ => []
  | rest => rest

def readEscape (c : Char) (rest : List Char) : List Nat × List Char :=
  let hex count :=
    let (code?, rest) := readHex count 0 rest
    ([code?.getD replacement.toNat], rest)
  if c = '\n' then ([], rest)
  else if c = 'x' then hex 2
  else if c = 'u' then hex 4
  else if c = 'U' then hex 8
  else if c = 'N' then ([replacement.toNat], skipName rest)
  else if '0' ≤ c && c ≤ '7' then
    let (code, rest) := readOctal 2 (c.toNat - 48) rest
    ([code], rest)
  else
    match plainEscapes.lookup c with
    | some code => ([code], rest)
    | none => ([92, c.toNat], rest)

def readRawEscape (c : Char) (rest : List Char) : List Nat × List Char :=
  if c = 'u' ∨ c = 'U' then
    let (code?, rest) := readHex (if c = 'u' then 4 else 8) 0 rest
    ([code?.getD replacement.toNat], rest)
  else ([92, c.toNat], rest)

def unescape (escape : Char → List Char → List Nat × List Char) (lone : Nat) :
    Nat → List Char → List Nat
  | _, [] => []
  | 0, _ => []
  | _ + 1, ['\\'] => [lone]
  | fuel + 1, '\\' :: c :: rest =>
    let (codes, rest) := escape c rest
    codes ++ unescape escape lone fuel rest
  | fuel + 1, c :: rest => c.toNat :: unescape escape lone fuel rest

def decodeEscapes (raw : Bool) (bytes : List UInt8) : List Char :=
  let cs := bytes.map fun b => Char.ofNat b.toNat
  joinHalves (if raw then unescape readRawEscape 92 cs.length cs
    else unescape readEscape replacement.toNat cs.length cs)

def decodePunycode? (bytes : List UInt8) : Option (List Char) :=
  let (base, digits) := Punycode.split (bytes.map fun b => Char.ofNat b.toNat)
  if digits.any (128 ≤ ·.toNat) then none
  else
    let base := base.map fun c => if c.toNat < 128 then c.toNat else replacement.toNat
    some ((Punycode.salvage base digits).map fun code =>
      if code.isValidChar then Char.ofNat code else replacement)

end ApiCatalog.Text
