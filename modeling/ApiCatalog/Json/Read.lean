import ApiCatalog.Data.Value
import ApiCatalog.Number.Literal

set_option autoImplicit false

namespace ApiCatalog.Json

inductive Problem
  | value
  | propertyName
  | colon
  | comma
  | openText
  | controlCharacter
  | escape
  | unicodeEscape
  | extraData
  | byteOrderMark
  deriving DecidableEq, Repr

def Problem.message : Problem → String
  | value => "Expecting value"
  | propertyName => "Expecting property name enclosed in double quotes"
  | colon => "Expecting ':' delimiter"
  | comma => "Expecting ',' delimiter"
  | openText => "Unterminated string starting at"
  | controlCharacter => "Invalid control character at"
  | escape => "Invalid \\escape"
  | unicodeEscape => "Invalid \\uXXXX escape"
  | extraData => "Extra data"
  | byteOrderMark => "Unexpected UTF-8 BOM (decode using utf-8-sig)"

inductive Fault
  | malformed (problem : Problem) (position : Nat)
  | longInteger (digits : Nat)
  deriving DecidableEq, Repr

def lineColumn (text : List Char) (position : Nat) : Nat × Nat :=
  let before := text.take position
  (before.count '\n' + 1, (before.reverse.takeWhile (· != '\n')).length + 1)

def Fault.message (text : List Char) : Fault → String
  | malformed problem position =>
    let (line, column) := lineColumn text position
    s!"{problem.message}: line {line} column {column} (char {position})"
  | longInteger digits =>
    "Exceeds the limit (4300 digits) for integer string conversion: value has " ++
      s!"{digits} digits; use sys.set_int_max_str_digits() to increase the limit"

open Number (hexDigit?)

structure Cursor where
  rest : List Char
  position : Nat

def isBlank (c : Char) : Bool := c == ' ' || c == '\t' || c == '\n' || c == '\r'

def Cursor.advance (c : Cursor) (n : Nat) : Cursor := ⟨c.rest.drop n, c.position + n⟩

def Cursor.skipBlanks (c : Cursor) : Cursor := c.advance (c.rest.takeWhile isBlank).length

def Cursor.fail {α : Type} (c : Cursor) (problem : Problem) : Except Fault (α × Cursor) :=
  .error (.malformed problem c.position)

def hexUnit? (a b c d : Char) : Option Nat := do
  return (((← hexDigit? a) * 16 + (← hexDigit? b)) * 16 + (← hexDigit? c)) * 16 + (← hexDigit? d)

def isHighUnit (n : Nat) : Bool := 0xd800 ≤ n && n < 0xdc00

def isLowUnit (n : Nat) : Bool := 0xdc00 ≤ n && n < 0xe000

def charOfUnit (n : Nat) : Char :=
  if isHighUnit n || isLowUnit n then Text.ofStray n else Char.ofNat n

def charOfPair (high low : Nat) : Char :=
  Char.ofNat (0x10000 + (high - 0xd800) * 0x400 + (low - 0xdc00))

def simpleEscape? : Char → Option Char
  | '"' => some '"'
  | '\\' => some '\\'
  | '/' => some '/'
  | 'b' => some '\x08'
  | 'f' => some '\x0c'
  | 'n' => some '\n'
  | 'r' => some '\r'
  | 't' => some '\t'
  | _ => none

-- A `\u` escape at a position, with what it denotes and how many characters it takes. Something
-- has to follow it, and a high unit takes a low one that follows along.
def unicodeEscape (position : Nat) : List Char → Except Fault (Char × Nat)
  | a :: b :: c :: d :: next :: rest =>
    match hexUnit? a b c d with
    | none => .error (.malformed .unicodeEscape position)
    | some unit =>
      if isHighUnit unit then
        match next :: rest with
        | '\\' :: 'u' :: e :: f :: g :: h :: _ :: _ =>
          match hexUnit? e f g h with
          | none => .error (.malformed .unicodeEscape (position + 6))
          | some low =>
            if isLowUnit low then .ok (charOfPair unit low, 11) else .ok (charOfUnit unit, 5)
        | _ => .ok (charOfUnit unit, 5)
      else .ok (charOfUnit unit, 5)
  | _ => .error (.malformed .unicodeEscape position)

def readText (opening : Nat) : Nat → Cursor → List Char → Except Fault (String × Cursor)
  | 0, _, _ => .error (.malformed .openText opening)
  | fuel + 1, c, read =>
    match c.rest with
    | [] => .error (.malformed .openText opening)
    | '"' :: _ => .ok (String.ofList read.reverse, c.advance 1)
    | ['\\'] => .error (.malformed .openText opening)
    | '\\' :: 'u' :: rest =>
      match unicodeEscape (c.position + 1) rest with
      | .error fault => .error fault
      | .ok (char, size) => readText opening fuel (c.advance (size + 1)) (char :: read)
    | '\\' :: e :: _ =>
      match simpleEscape? e with
      | none => c.fail .escape
      | some char => readText opening fuel (c.advance 2) (char :: read)
    | char :: _ =>
      if char.toNat < 0x20 then c.fail .controlCharacter
      else readText opening fuel (c.advance 1) (char :: read)

-- The length of a fraction or exponent at the head, or 0 if there is none.
def fractionLength : List Char → Nat
  | '.' :: rest =>
    let digits := (rest.takeWhile Char.isDigit).length
    if digits = 0 then 0 else digits + 1
  | _ => 0

def exponentLength : List Char → Nat
  | e :: rest =>
    if e = 'e' ∨ e = 'E' then
      let sign := match rest with
        | s :: _ => if s = '+' ∨ s = '-' then 1 else 0
        | [] => 0
      let digits := ((rest.drop sign).takeWhile Char.isDigit).length
      if digits = 0 then 0 else digits + sign + 1
    else 0
  | [] => 0

def integerLength : List Char → Nat
  | '0' :: _ => 1
  | cs => (cs.takeWhile Char.isDigit).length

def readNumber (c : Cursor) : Except Fault (Value × Cursor) :=
  let (negative, body) := match c.rest with
    | '-' :: rest => (true, rest)
    | rest => (false, rest)
  let sign := if negative then 1 else 0
  let whole := integerLength body
  if whole = 0 then c.fail .value
  else
    let fraction := fractionLength (body.drop whole)
    let exponent := exponentLength (body.drop (whole + fraction))
    let next := c.advance (sign + whole + fraction + exponent)
    if fraction + exponent = 0 then
      if Number.maxIntegerDigits < whole then .error (.longInteger whole)
      else
        let magnitude : Int := Number.natOfDigits (body.take whole)
        .ok (.int (if negative then -magnitude else magnitude), next)
    else
      match Number.readDecimal? negative (body.take (whole + fraction + exponent)) with
      | some x => .ok (.float x, next)
      | none => c.fail .value

def words : List (String × Value) :=
  [("null", .null), ("true", .bool true), ("false", .bool false), ("NaN", .float .notANumber),
   ("Infinity", .float (.infinity false)), ("-Infinity", .float (.infinity true))]

def readWordOrNumber (c : Cursor) : Except Fault (Value × Cursor) :=
  match words.find? fun (word, _) => word.toList.isPrefixOf c.rest with
  | some (word, value) => .ok (value, c.advance word.length)
  | none => readNumber c

-- Every call reads at least one character of its own: the length of the text is fuel enough.
mutual
def readValue : Nat → Cursor → Except Fault (Value × Cursor)
  | 0, c => c.fail .value
  | fuel + 1, c =>
    match c.rest with
    | '"' :: rest => do
      let (text, c) ← readText c.position (rest.length + 1) (c.advance 1) []
      return (.text text, c)
    | '\x7b' :: _ =>
      let c := (c.advance 1).skipBlanks
      match c.rest with
      | '\x7d' :: _ => .ok (.mapping [], c.advance 1)
      | _ => readMembers fuel c []
    | '[' :: _ =>
      let c := (c.advance 1).skipBlanks
      match c.rest with
      | ']' :: _ => .ok (.list [], c.advance 1)
      | _ => readItems fuel c []
    | _ => readWordOrNumber c

def readMembers : Nat → Cursor → List (Scalar × Value) → Except Fault (Value × Cursor)
  | 0, c, _ => c.fail .propertyName
  | fuel + 1, c, read =>
    match c.rest with
    | '"' :: rest => do
      let (key, c) ← readText c.position (rest.length + 1) (c.advance 1) []
      let c := c.skipBlanks
      match c.rest with
      | ':' :: _ =>
        let (value, c) ← readValue fuel (c.advance 1).skipBlanks
        let read := (.text key, value) :: read
        let c := c.skipBlanks
        match c.rest with
        | '\x7d' :: _ => .ok (.mapping (Entries.ofPairs read.reverse), c.advance 1)
        | ',' :: _ => readMembers fuel (c.advance 1).skipBlanks read
        | _ => c.fail .comma
      | _ => c.fail .colon
    | _ => c.fail .propertyName

def readItems : Nat → Cursor → List Value → Except Fault (Value × Cursor)
  | 0, c, _ => c.fail .value
  | fuel + 1, c, read => do
    let (value, c) ← readValue fuel c
    let read := value :: read
    let c := c.skipBlanks
    match c.rest with
    | ']' :: _ => .ok (.list read.reverse, c.advance 1)
    | ',' :: _ => readItems fuel (c.advance 1).skipBlanks read
    | _ => c.fail .comma
end

def ofText (text : String) : Except Fault Value :=
  match text.toList with
  | '\ufeff' :: _ => .error (.malformed .byteOrderMark 0)
  | chars => do
    let (value, c) ← readValue (chars.length + 1) (Cursor.mk chars 0).skipBlanks
    let c := c.skipBlanks
    if c.rest.isEmpty then return value else .error (.malformed .extraData c.position)

end ApiCatalog.Json
