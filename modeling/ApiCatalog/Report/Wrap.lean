import ApiCatalog.Text.Basic
import ApiCatalog.Text.Grapheme

set_option autoImplicit false

namespace ApiCatalog.Wrap

open Text

inductive Fault
  | noCells
  | fewCells
  deriving DecidableEq, Repr

def tabSize : Nat := 8

def expandTabs (column : Nat) : List (List Char) → List Char
  | [] => []
  | [last] => last
  | part :: rest =>
    let reached := column + cellLength (part ++ [' '])
    let padding := (tabSize - reached % tabSize) % tabSize
    part ++ ' ' :: List.replicate padding ' ' ++ expandTabs (reached + padding) rest

def wordsFrom : List Char → List Char → List (List Char)
  | [], word => if word.all isBlank then [] else [word.reverse]
  | c :: rest, word =>
    let ended := match word with
      | last :: _ => isBlank last && !isBlank c && !word.all isBlank
      | [] => false
    if ended then word.reverse :: wordsFrom rest [c] else wordsFrom rest (c :: word)

def words (line : List Char) : List (List Char) := wordsFrom line []

-- Cuts a word into pieces of at most a width. The second argument is the piece being made,
-- which is dropped at the end if it takes no cell.
def chop (width : Nat) : List Grapheme → List Grapheme → List (List Char)
  | [], piece => if cellTotal piece = 0 then [] else [charsOf piece]
  | g :: rest, piece =>
    if width < cellTotal piece + g.cells then charsOf piece :: chop width rest [g]
    else chop width rest (piece ++ [g])

-- Where a line is broken, last place first, the cells that are taken after the last place, and
-- where the next word starts.
structure Layout where
  breaks : List Nat := []
  used : Nat := 0
  position : Nat := 0

namespace Layout

def breakAt (l : Layout) (place : Nat) : Layout :=
  if place = 0 then l else { l with breaks := place :: l.breaks }

def addPieces (l : Layout) (start : Nat) : List (List Char) → Layout
  | [] => l
  | [last] => { l.breakAt start with used := cellLength last }
  | piece :: rest => (l.breakAt start).addPieces (start + piece.length) rest

def add (width : Nat) (l : Layout) (word : List Char) : Layout :=
  let size := cellLength (trimEnd word)
  let next :=
    if l.used + size ≤ width then { l with used := l.used + cellLength word }
    else if width < size then l.addPieces l.position (chop width (graphemes word) [])
    else { l.breakAt l.position with used := cellLength word }
  { next with position := l.position + word.length }

end Layout

def cutAt (position : Nat) (line : List Char) : List Nat → List (List Char)
  | [] => [line]
  | place :: rest =>
    line.take (place - position) :: cutAt place (line.drop (place - position)) rest

def divide (width : Nat) (line : List Char) : List (List Char) :=
  cutAt 0 line ((words line).foldl (Layout.add width) {}).breaks.reverse

-- Blanks at the end go as far as the line has more characters than the width.
def trimExcess (width : Nat) (line : List Char) : List Char :=
  let blanks := (line.reverse.takeWhile isBlank).length
  line.take (line.length - min blanks (line.length - width))

-- The graphemes that fit a width; a blank takes the place of half of a wide one.
def fit : Nat → List Grapheme → List Char
  | _, [] => []
  | room, g :: rest =>
    if room = 0 then []
    else if g.cells ≤ room then g.chars ++ fit (room - g.cells) rest
    else [' ']

def crop (width : Nat) (line : List Char) : Except Fault (List Char) :=
  if cellLength line ≤ width then .ok line
  else
    let gs := graphemes line
    if width ≤ cellTotal gs then .ok (fit width gs)
    else .error (if cellTotal gs = 0 then .noCells else .fewCells)

def wrapLine (width : Nat) (line : List Char) : Except Fault (List (List Char)) :=
  (divide width (expandTabs 0 (line.splitOn '\t'))).mapM fun line =>
    crop width (trimExcess width line)

-- Characters that move the cursor of a terminal.
def isControl (c : Char) : Bool := ['\x07', '\x08', '\x0b', '\x0c', '\r'].contains c

def wrap (width : Nat) (text : List Char) : Except Fault (List Char) := do
  let lines ← ((text.filter (!isControl ·)).splitOn '\n').mapM (wrapLine width)
  return ['\n'].intercalate lines.flatten

end ApiCatalog.Wrap
