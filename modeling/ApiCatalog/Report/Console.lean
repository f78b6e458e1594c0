import ApiCatalog.Json.Write
import ApiCatalog.Settings

set_option autoImplicit false

namespace ApiCatalog

inductive Format
  | json
  | plain
  | rich
  deriving DecidableEq, Repr

def Format.name : Format → String
  | json => "json"
  | plain => "plain"
  | rich => "rich"

inductive FormatChoice
  | auto
  | fixed (format : Format)
  deriving DecidableEq, Repr

def FormatChoice.ofName? : String → Option FormatChoice
  | "auto" => some .auto
  | "json" => some (.fixed .json)
  | "plain" => some (.fixed .plain)
  | "rich" => some (.fixed .rich)
  | _ => none

/-- What draws on a terminal. It has to be told the width, which depends on the environment, and
finds markup in the texts that it prints. A table has a title and headers, and the labels of a tree
have their depths. -/
structure Painter where
  width : Environment → Except Crash Nat
  print : Nat → List Char → Except Crash (List Char)
  table : Nat → String → List String → List (List String) → Except Crash String
  code : Nat → String → Except Crash String
  tree : Nat → List (Nat × String) → Except Crash String

structure Console where
  format : Format := .plain
  color : Bool := true
  quiet : Bool := false
  verbose : Bool := false
  width : Nat := 80
  deriving DecidableEq, Repr

-- Data goes out in texts that are written one after the other.
abbrev Output := Except Crash (List String)

namespace Console

def allowsColor (environment : Environment) : Bool :=
  (environment.lookup "NO_COLOR").isNone && environment.lookup "TERM" != some "dumb"

def chooseFormat (choice : FormatChoice) (terminal color : Bool) : Format :=
  match choice with
  | .fixed format => format
  | .auto => if terminal && color then .rich else .plain

def ofOptions (painter : Painter) (choice : FormatChoice) (noColor quiet verbose terminal : Bool)
    (environment : Environment) : Except Crash Console := do
  let color := !noColor && allowsColor environment
  let width ← painter.width environment
  return { format := chooseFormat choice terminal color, color, quiet, verbose, width }

def line (text : String) : String := text ++ "\n"

def plainMember : Scalar × Value → String
  | (key, .scalar s) => line (key.display ++ "\t" ++ s.display)
  | (key, value) => line (key.display ++ "\t" ++ Json.compact value)

def plainItem : Value → String
  | .mapping entries => line ("\t".intercalate (entries.map fun (_, value) => value.display))
  | value => line value.display

def plainData : Value → List String
  | .mapping entries => entries.map plainMember
  | .list items => items.map plainItem
  | value => [line value.display]

def data (c : Console) (painter : Painter) (value : Value) : Output :=
  match c.format with
  | .json => .ok [line (Json.pretty value)]
  | .plain => .ok (plainData value)
  | .rich => (painter.code c.width (Json.pretty value)).map ([·])

def tableRecord (headers row : List String) : Value :=
  .mapping (Entries.ofPairs ((headers.zip row).map fun (name, cell) => (.text name, .text cell)))

def plainRow (row : List String) : String := line ("\t".intercalate row)

def table (c : Console) (painter : Painter) (title : String) (headers : List String)
    (rows : List (List String)) : Output :=
  match c.format with
  | .json => .ok [line (Json.pretty (.list (rows.map (tableRecord headers))))]
  | .plain => .ok ((headers :: rows).map plainRow)
  | .rich => (painter.table c.width title headers rows).map ([·])

end Console

inductive Severity
  | info
  | success
  | warning
  | error
  | debug
  deriving DecidableEq, Repr

namespace Severity

def plainText (message : String) : Severity → String
  | info | success => message
  | warning => "Warning: " ++ message
  | error => "Error: " ++ message
  | debug => "[debug] " ++ message

def markup (message : String) : Severity → String
  | info => message
  | success => "[green]" ++ message ++ "[/green]"
  | warning => "[yellow]Warning:[/yellow] " ++ message
  | error => "[bold red]Error:[/bold red] " ++ message
  | debug => "[dim][debug] " ++ message ++ "[/dim]"

end Severity

namespace Console

def isShown (c : Console) : Severity → Bool
  | .info | .success => !c.quiet
  | .warning | .error => true
  | .debug => c.verbose

-- Only with colours a diagnostic goes through markup.
def diagnostic (c : Console) (painter : Painter) (severity : Severity) (message : String) :
    Except Crash String :=
  if !c.isShown severity then .ok ""
  else if c.color then
    (painter.print c.width (severity.markup message).toList).map String.ofList
  else .ok (line (severity.plainText message))

end Console

end ApiCatalog
