import ApiCatalog.Report.Console
import ApiCatalog.Report.Markup

set_option autoImplicit false

namespace ApiCatalog

def Markup.Fault.name : Markup.Fault → String
  | .unopened | .badArguments => "markup"
  | .badColor => "colour"

def Wrap.Fault.name : Wrap.Fault → String
  | .noCells => "line without cells"
  | .fewCells => "line with too few cells"

namespace Painter

-- A size of digits has to be a number. Anything else is no size.
def readSize? (text : String) : Except Crash (Option Nat) :=
  if text = "" || !text.toList.all Text.isDigitLike then .ok none
  else
    match Number.readInteger? text with
    | some n => .ok (some n.toNat)
    | none => .error (.foreign "size")

def sizeOf (name : String) (environment : Environment) (default : Nat) : Except Crash Nat :=
  match environment.get? name with
  | some text => (readSize? text).map (·.getD default)
  | none => .ok default

def readWidth (environment : Environment) : Except Crash Nat := do
  let width ← sizeOf "COLUMNS" environment 80
  let _ ← sizeOf "LINES" environment 25
  return width

def readMarkup (text : List Char) : Except Crash Markup.Rendering :=
  (Markup.render text).mapError fun fault => .foreign fault.name

-- Nothing fits into no columns. Styles are only looked at when there is something to show.
def printMarkup (width : Nat) (text : List Char) : Except Crash (List Char) := do
  let rendering ← readMarkup text
  if width = 0 then return []
  else
    let lines ← (Wrap.wrap width rendering.text).mapError fun fault => .foreign fault.name
    let divided := rendering.text.contains '\t' || lines.contains '\n'
    (rendering.checkStyles divided).mapError fun fault => .foreign fault.name
    return lines ++ ['\n']

def showMarkup (text : String) : Except Crash String :=
  (readMarkup text.toList).map fun rendering => String.ofList rendering.text

-- Cells apart from each other, but in no columns.
def drawRow (row : List String) : Except Crash String := do
  return Console.line ("  ".intercalate (← row.mapM showMarkup))

def drawTable (title : String) (headers : List String) (rows : List (List String)) :
    Except Crash String := do
  return String.join (← ([title] :: headers :: rows).mapM drawRow)

def drawLabel (label : Nat × String) : Except Crash String := do
  return String.ofList (List.replicate (2 * label.1) ' ') ++ Console.line (← showMarkup label.2)

def standard : Painter where
  width := readWidth
  print := printMarkup
  table _ := drawTable
  code _ text := .ok (Console.line text)
  tree _ labels := (labels.mapM drawLabel).map String.join

end Painter

end ApiCatalog
