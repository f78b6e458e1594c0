import ApiCatalog.Yaml.Source

set_option autoImplicit false

namespace ApiCatalog.Yaml

inductive Chomping
  | strip
  | clip
  | keep
  deriving DecidableEq

def chomping? : Char → Option Chomping
  | '+' => some .keep
  | '-' => some .strip
  | _ => none

def increment? (c : Char) : Option Nat := if c.isDigit then some (c.toNat - 48) else none

def blockHeader (s : Source) : Except Fault (Chomping × Option Nat × Source) :=
  let (chomping, increment, s) :=
    match chomping? s.peek, increment? s.peek with
    | some chomping, _ =>
      match increment? s.next.peek with
      | some n => (chomping, some n, s.skip 2)
      | none => (chomping, none, s.next)
    | none, some n =>
      match chomping? s.next.peek with
      | some chomping => (chomping, some n, s.skip 2)
      | none => (.clip, some n, s.next)
    | none, none => (.clip, none, s)
  if increment == some 0 || !isSpaceOrEnd s.peek then .error .malformed
  else .ok (chomping, increment, s)

def skipIndent (indent : Nat) (s : Source) : Source :=
  s.skip (min (indent - s.column) (s.countWhile (· == ' ')))

def leadingBreaks : Nat → Source → List Char → Nat → List Char × Nat × Source
  | 0, s, breaks, deepest => (breaks, deepest, s)
  | fuel + 1, s, breaks, deepest =>
    if s.peek == ' ' then leadingBreaks fuel s.next breaks (max deepest s.next.column)
    else if isBreak s.peek then
      let (br, s) := s.lineBreak
      leadingBreaks fuel s (breaks ++ br) deepest
    else (breaks, deepest, s)

def blockBreaksFrom (indent : Nat) : Nat → Source → List Char → List Char × Source
  | 0, s, breaks => (breaks, s)
  | fuel + 1, s, breaks =>
    if isBreak s.peek then
      let (br, s) := s.lineBreak
      blockBreaksFrom indent fuel (skipIndent indent s) (breaks ++ br)
    else (breaks, s)

def blockBreaks (indent : Nat) (s : Source) : List Char × Source :=
  blockBreaksFrom indent (s.rest.length + 1) (skipIndent indent s) []

def joinLines (folded startsPlain nextPlain : Bool) (lineBreak breaks : List Char) : List Char :=
  if folded && lineBreak == ['\n'] && startsPlain && nextPlain then
    (if breaks.isEmpty then [' '] else []) ++ breaks
  else lineBreak ++ breaks

def isInner (c : Char) : Bool := c != ' ' && c != '\t'

-- The lines of a block, each from its indentation on; `breaks` stands before the next one.
def blockLines (folded : Bool) (chomping : Chomping) (indent : Nat) :
    Nat → Source → List Char → List Char → List Char × Source
  | 0, s, read, _ => (read, s)
  | fuel + 1, s, read, breaks =>
    let startsPlain := isInner s.peek
    let line := s.rest.takeWhile (!isBreak ·)
    let (br, s) := (s.skip line.length).lineBreak
    let read := read ++ breaks ++ line
    let (breaks, s) := blockBreaks indent s
    if s.column == indent && !isEnd s.peek then
      blockLines folded chomping indent fuel s read
        (joinLines folded startsPlain (isInner s.peek) br breaks)
    else
      match chomping with
      | .strip => (read, s)
      | .clip => (read ++ br, s)
      | .keep => (read ++ br ++ breaks, s)

def blockText (folded : Bool) (indent : Int) (s : Source) : Except Fault (List Char × Source) := do
  let (chomping, increment, s) ← blockHeader s.next
  let s ← s.endLine
  let least := max (indent + 1) 1 |>.toNat
  let (breaks, indent, s) :=
    match increment with
    | none =>
      let (breaks, deepest, s) := leadingBreaks (s.rest.length + 1) s [] 0
      (breaks, max least deepest, s)
    | some n =>
      let (breaks, s) := blockBreaks (least + n - 1) s
      (breaks, least + n - 1, s)
  if s.column == indent && !isEnd s.peek then
    return blockLines folded chomping indent (s.rest.length + 1) s [] breaks
  else return (if chomping == .keep then breaks else [], s)

end ApiCatalog.Yaml
