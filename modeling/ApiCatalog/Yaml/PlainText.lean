import ApiCatalog.Yaml.Source

set_option autoImplicit false

namespace ApiCatalog.Yaml

def isFlowMark (c : Char) : Bool :=
  c == ',' || c == '[' || c == ']' || c == '\x7b' || c == '\x7d'

def plainRun (inFlow : Bool) : List Char → Nat
  | [] => 0
  | c :: rest =>
    let next := rest.headD '\x00'
    if isBlankOrEnd c || (inFlow && (isFlowMark c || c == '?')) then 0
    else if c == ':' && (isBlankOrEnd next || (inFlow && isFlowMark next)) then 0
    else plainRun inFlow rest + 1

def plainBreaks : Nat → Source → List Char → Option (List Char) × Source
  | 0, s, breaks => (some breaks, s)
  | fuel + 1, s, breaks =>
    if s.peek == ' ' then plainBreaks fuel s.next breaks
    else if isBreak s.peek then
      let (br, s) := s.lineBreak
      if s.atSeparator then (none, s) else plainBreaks fuel s (breaks ++ br)
    else (some breaks, s)

def foldBreaks (first breaks : List Char) : List Char :=
  if first != ['\n'] then first ++ breaks
  else if breaks.isEmpty then [' ']
  else breaks

def plainSpaces (s : Source) : List Char × Bool × Source :=
  let spaces := s.rest.takeWhile (· == ' ')
  let s := s.skip spaces.length
  if isBreak s.peek then
    let (first, s) := s.lineBreak
    if s.atSeparator then ([], true, s)
    else
      match plainBreaks (s.rest.length + 1) s [] with
      | (none, s) => ([], true, s)
      | (some breaks, s) => (foldBreaks first breaks, true, s)
  else (spaces, false, s)

def plainFrom (inFlow : Bool) (indent : Int) :
    Nat → Source → List Char → List Char → Bool → List Char × Source × Bool
  | 0, s, _, read, newLine => (read, s, newLine)
  | fuel + 1, s, spaces, read, newLine =>
    let n := plainRun inFlow s.rest
    if s.peek == '#' || n == 0 then (read, s, newLine)
    else
      let read := read ++ spaces ++ s.take n
      let (spaces, newLine, s) := plainSpaces (s.skip n)
      if spaces.isEmpty || s.peek == '#' || (!inFlow && (s.column : Int) < indent) then
        (read, s, newLine)
      else plainFrom inFlow indent fuel s spaces read newLine

def plainText (inFlow : Bool) (indent : Int) (s : Source) : List Char × Source × Bool :=
  plainFrom inFlow indent (s.rest.length + 1) s [] [] false

end ApiCatalog.Yaml
