import ApiCatalog.Yaml.BlockText
import ApiCatalog.Yaml.Name
import ApiCatalog.Yaml.QuotedText

/-!
Tokens of a text. Block structure becomes visible in the indentation, and a mapping key is known
only by the colon after it: until then its place is kept, so that the tokens that open the key
can be put there.
-/

set_option autoImplicit false

namespace ApiCatalog.Yaml

inductive Token
  | directive (d : Directive)
  | documentStart
  | documentEnd
  | streamEnd
  | blockSequenceStart
  | blockMappingStart
  | blockEnd
  | blockEntry
  | flowSequenceStart
  | flowSequenceEnd
  | flowMappingStart
  | flowMappingEnd
  | flowEntry
  | key
  | value
  | reference (anchor : String)
  | anchor (name : String)
  | tag (name : TagName)
  | scalar (text : String) (plain : Bool)
  | stop (fault : Fault)

-- A place where a mapping key may have started. If nothing but a key can start there, a colon
-- has to follow.
structure PendingKey where
  place : Nat
  required : Bool
  index : Nat
  line : Nat
  column : Nat

/-- `tokens` holds the last one first. `indents` are the columns of the enclosing blocks, and
`keys` the pending keys by flow depth. -/
structure Scanner where
  source : Source
  tokens : List Token
  flow : Nat
  indent : Int
  indents : List Int
  allowKey : Bool
  keys : List (Nat × PendingKey)

namespace Scanner

def start (cs : List Char) : Scanner := ⟨.ofChars cs, [], 0, -1, [], true, []⟩

def inFlow (s : Scanner) : Bool := s.flow != 0

def emit (s : Scanner) (t : Token) : Scanner := { s with tokens := t :: s.tokens }

def insertAt (s : Scanner) (place : Nat) (ts : List Token) : Scanner :=
  let later := s.tokens.length - place
  { s with tokens := s.tokens.take later ++ ts ++ s.tokens.drop later }

-- A key has to end on its line and within 1024 characters.
def isStale (s : Scanner) (key : PendingKey) : Bool :=
  key.line != s.source.line || 1024 < s.source.index - key.index

def dropStaleKeys (s : Scanner) : Except Fault Scanner :=
  if s.keys.any fun (_, key) => s.isStale key && key.required then .error .malformed
  else .ok { s with keys := s.keys.filter fun (_, key) => !s.isStale key }

def forgetKey (s : Scanner) : Except Fault Scanner :=
  match s.keys.lookup s.flow with
  | none => .ok s
  | some key =>
    if key.required then .error .malformed
    else .ok { s with keys := s.keys.filter fun (flow, _) => flow != s.flow }

def saveKey (s : Scanner) : Except Fault Scanner :=
  if s.allowKey then do
    let required := !s.inFlow && s.indent == s.source.column
    let s ← s.forgetKey
    let key := PendingKey.mk s.tokens.length required s.source.index s.source.line s.source.column
    return { s with keys := (s.flow, key) :: s.keys }
  else .ok s

def closeBlocks (column : Int) (s : Scanner) : List Int → Scanner
  | [] => s
  | outer :: rest =>
    if column < s.indent then
      closeBlocks column { s.emit .blockEnd with indent := outer, indents := rest } rest
    else s

def unwind (s : Scanner) (column : Int) : Scanner :=
  if s.inFlow then s else s.closeBlocks column s.indents

def addIndent (s : Scanner) (column : Nat) : Bool × Scanner :=
  if s.indent < column then
    (true, { s with indent := column, indents := s.indent :: s.indents })
  else (false, s)

def openBlock (s : Scanner) (t : Token) : Except Fault Scanner :=
  if s.inFlow then .ok s
  else if !s.allowKey then .error .malformed
  else
    match s.addIndent s.source.column with
    | (true, s) => .ok (s.emit t)
    | (false, s) => .ok s

-- Blanks, comments and line breaks before the next token. After a line break outside flow
-- collections a key may start.
def skipGap : Nat → Scanner → Scanner
  | 0, s => s
  | fuel + 1, s =>
    let src := s.source.skipSpaces
    let src := if src.peek == '#' then src.skipWhile (!isBreak ·) else src
    if isBreak src.peek then
      skipGap fuel { s with source := src.lineBreak.2, allowKey := s.allowKey || !s.inFlow }
    else { s with source := src }

def streamEnd (s : Scanner) : Except Fault Scanner := do
  return (← (s.unwind (-1)).forgetKey).emit .streamEnd

def readDirective (s : Scanner) : Except Fault Scanner := do
  let s ← (s.unwind (-1)).forgetKey
  let (d, src) ← directive s.source
  return { s.emit (.directive d) with source := src, allowKey := false }

def documentMark (s : Scanner) (t : Token) : Except Fault Scanner := do
  let s ← (s.unwind (-1)).forgetKey
  return { s.emit t with source := s.source.skip 3, allowKey := false }

def flowStart (s : Scanner) (t : Token) : Except Fault Scanner := do
  let s ← s.saveKey
  return { s.emit t with source := s.source.next, flow := s.flow + 1, allowKey := true }

def flowEnd (s : Scanner) (t : Token) : Except Fault Scanner := do
  if s.inFlow then
    let s ← s.forgetKey
    return { s.emit t with source := s.source.next, flow := s.flow - 1, allowKey := false }
  else .error .malformed

def flowEntry (s : Scanner) : Except Fault Scanner := do
  let s ← s.forgetKey
  return { s.emit .flowEntry with source := s.source.next, allowKey := true }

def blockEntry (s : Scanner) : Except Fault Scanner := do
  let s ← (← s.openBlock .blockSequenceStart).forgetKey
  return { s.emit .blockEntry with source := s.source.next, allowKey := true }

def explicitKey (s : Scanner) : Except Fault Scanner := do
  let s ← (← s.openBlock .blockMappingStart).forgetKey
  return { s.emit .key with source := s.source.next, allowKey := !s.inFlow }

-- A colon after a pending key turns what follows the key's place into the key.
def value (s : Scanner) : Except Fault Scanner := do
  match s.keys.lookup s.flow with
  | some key =>
    let s := { s with keys := s.keys.filter fun (flow, _) => flow != s.flow }
    let (opens, s) := if s.inFlow then (false, s) else s.addIndent key.column
    let s := s.insertAt key.place (if opens then [.key, .blockMappingStart] else [.key])
    return { s.emit .value with source := s.source.next, allowKey := false }
  | none =>
    let s ← (← s.openBlock .blockMappingStart).forgetKey
    return { s.emit .value with source := s.source.next, allowKey := !s.inFlow }

def named (s : Scanner) (token : String → Token) : Except Fault Scanner := do
  let s ← s.saveKey
  let (name, src) ← anchorName s.source.next
  return { s.emit (token name) with source := src, allowKey := false }

def readTag (s : Scanner) : Except Fault Scanner := do
  let s ← s.saveKey
  let (name, src) ← tagName s.source
  return { s.emit (.tag name) with source := src, allowKey := false }

def block (s : Scanner) (folded : Bool) : Except Fault Scanner := do
  let s ← s.forgetKey
  let (text, src) ← blockText folded s.indent s.source
  return { s.emit (.scalar (String.ofList text) false) with source := src, allowKey := true }

def quoted (s : Scanner) : Except Fault Scanner := do
  let s ← s.saveKey
  let (text, src) ← quotedText s.source
  return { s.emit (.scalar (String.ofList text) false) with source := src, allowKey := false }

def plain (s : Scanner) : Except Fault Scanner := do
  let s ← s.saveKey
  let (text, src, newLine) := plainText s.inFlow (s.indent + 1) s.source
  return { s.emit (.scalar (String.ofList text) true) with source := src, allowKey := newLine }

-- Marks are no start of a plain text, unless a character other than a blank follows some of
-- them.
def startsPlain (s : Scanner) : Bool :=
  let c := s.source.peek
  if isBlankOrEnd c || "-?:,[]\x7b\x7d#&*!|>'\"%@`".toList.contains c then
    !isBlankOrEnd (s.source.peekAt 1) && (c == '-' || (!s.inFlow && (c == '?' || c == ':')))
  else true

def token (s : Scanner) : Except Fault Scanner :=
  let c := s.source.peek
  let blankNext := isBlankOrEnd (s.source.peekAt 1)
  let separator := s.source.column == 0 && s.source.atSeparator
  if c == '%' && s.source.column == 0 then s.readDirective
  else if c == '-' && separator then s.documentMark .documentStart
  else if c == '.' && separator then s.documentMark .documentEnd
  else if c == '[' then s.flowStart .flowSequenceStart
  else if c == '\x7b' then s.flowStart .flowMappingStart
  else if c == ']' then s.flowEnd .flowSequenceEnd
  else if c == '\x7d' then s.flowEnd .flowMappingEnd
  else if c == ',' then s.flowEntry
  else if c == '-' && blankNext then s.blockEntry
  else if c == '?' && (s.inFlow || blankNext) then s.explicitKey
  else if c == ':' && (s.inFlow || blankNext) then s.value
  else if c == '*' then s.named .reference
  else if c == '&' then s.named .anchor
  else if c == '!' then s.readTag
  else if c == '|' && !s.inFlow then s.block false
  else if c == '>' && !s.inFlow then s.block true
  else if c == '\'' || c == '"' then s.quoted
  else if s.startsPlain then s.plain
  else .error .malformed

def advance (s : Scanner) : Except Fault (Bool × Scanner) := do
  let s ← (s.skipGap (s.source.rest.length + 1)).dropStaleKeys
  let s := s.unwind s.source.column
  if s.source.rest.isEmpty then return (true, ← s.streamEnd) else return (false, ← s.token)

-- A token where a key may have started is not given away before it is known whether it did.
def known (s : Scanner) : List Token :=
  let places := (s.keys.filter fun (_, key) => !s.isStale key).map fun (_, key) => key.place
  s.tokens.reverse.take (places.foldl min s.tokens.length)

-- Every token takes at least one character, so that the length of the text is fuel enough.
def run : Nat → Scanner → List Token
  | 0, s => s.tokens.reverse
  | fuel + 1, s =>
    match s.advance with
    | .error fault => s.known ++ [.stop fault]
    | .ok (true, s) => s.tokens.reverse
    | .ok (false, s) => run fuel s

end Scanner

def tokens (text : String) : List Token :=
  let cs := text.toList
  if cs.all isAllowed then
    let s := Scanner.start cs
    let s := if cs.head? == some '\ufeff' then { s with source := s.source.next } else s
    s.run (cs.length + 2)
  else [.stop .malformed]

end ApiCatalog.Yaml
