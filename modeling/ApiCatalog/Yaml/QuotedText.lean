import ApiCatalog.Json.Read
import ApiCatalog.Yaml.PlainText

set_option autoImplicit false

namespace ApiCatalog.Yaml

def escape? : Char → Option Char
  | '0' => some '\x00'
  | 'a' => some '\x07'
  | 'b' => some '\x08'
  | 't' => some '\t'
  | '\t' => some '\t'
  | 'n' => some '\n'
  | 'v' => some '\x0b'
  | 'f' => some '\x0c'
  | 'r' => some '\r'
  | 'e' => some '\x1b'
  | ' ' => some ' '
  | '"' => some '"'
  | '\\' => some '\\'
  | '/' => some '/'
  | 'N' => some '\u0085'
  | '_' => some '\u00a0'
  | 'L' => some '\u2028'
  | 'P' => some '\u2029'
  | _ => none

def escapeLength? : Char → Option Nat
  | 'x' => some 2
  | 'u' => some 4
  | 'U' => some 8
  | _ => none

def hexNumber? (cs : List Char) : Option Nat :=
  cs.foldlM (fun n c => (Number.hexDigit? c).map (16 * n + ·)) 0

-- The character with a code. A code beyond 31 bits is not even a number of the right size.
def codeChar (code : Nat) : Except Fault Char :=
  if 0x80000000 ≤ code then .error .hugeCodePoint
  else if 0x10ffff < code then .error .codePoint
  else .ok (Json.charOfUnit code)

def quotedBreaks : Nat → Source → List Char → Except Fault (List Char × Source)
  | 0, s, breaks => .ok (breaks, s)
  | fuel + 1, s, breaks =>
    if s.atSeparator then .error .malformed
    else
      let s := s.skipWhile fun c => c == ' ' || c == '\t'
      if isBreak s.peek then
        let (br, s) := s.lineBreak
        quotedBreaks fuel s (breaks ++ br)
      else .ok (breaks, s)

def quotedSpaces (s : Source) : Except Fault (List Char × Source) := do
  let spaces := s.rest.takeWhile fun c => c == ' ' || c == '\t'
  let s := s.skip spaces.length
  if isEnd s.peek then .error .malformed
  else if isBreak s.peek then
    let (first, s) := s.lineBreak
    let (breaks, s) ← quotedBreaks (s.rest.length + 1) s []
    return (foldBreaks first breaks, s)
  else return (spaces, s)

def quotedEscape (s : Source) : Except Fault (List Char × Source) :=
  match escape? s.peek, escapeLength? s.peek with
  | some c, _ => .ok ([c], s.next)
  | none, some length => do
    let digits := s.next.take length
    if digits.length < length then .error .malformed
    else
      match hexNumber? digits with
      | some code => return ([← codeChar code], s.next.skip length)
      | none => .error .malformed
  | none, none =>
    if isBreak s.peek then
      let s := s.lineBreak.2
      quotedBreaks (s.rest.length + 1) s []
    else .error .malformed

def isVerbatim (quote c : Char) : Bool :=
  c != quote && !isBlankOrEnd c && !(quote == '"' && c == '\\')

-- From the opening quote on, up to and with the closing one. Every turn reads a character.
def quotedFrom (quote : Char) : Nat → Source → List Char → Except Fault (List Char × Source)
  | 0, _, _ => .error .malformed
  | fuel + 1, s, read => do
    let c := s.peek
    if c == quote then
      if quote == '\'' && s.peekAt 1 == '\'' then quotedFrom quote fuel (s.skip 2) (read ++ ['\''])
      else return (read, s.next)
    else if isBlankOrEnd c then
      let (spaces, s) ← quotedSpaces s
      quotedFrom quote fuel s (read ++ spaces)
    else if quote == '"' && c == '\\' then
      let (chars, s) ← quotedEscape s.next
      quotedFrom quote fuel s (read ++ chars)
    else
      let run := s.rest.takeWhile (isVerbatim quote)
      quotedFrom quote fuel (s.skip run.length) (read ++ run)

def quotedText (s : Source) : Except Fault (List Char × Source) :=
  quotedFrom s.peek (s.rest.length + 1) s.next []

end ApiCatalog.Yaml
