import ApiCatalog.Data.Value
import ApiCatalog.Number.Literal
import ApiCatalog.Number.Shortest
import ApiCatalog.Text.Printable

set_option autoImplicit false

namespace ApiCatalog

namespace Text

def hexDigits (width n : Nat) : List Char :=
  let digits := Nat.toDigits 16 n
  List.replicate (width - digits.length) '0' ++ digits

-- A character that is not printable is written by its code, in the shortest of three widths.
def escapeCode (code : Nat) : List Char :=
  if code ≤ 0xff then '\\' :: 'x' :: hexDigits 2 code
  else if code ≤ 0xffff then '\\' :: 'u' :: hexDigits 4 code
  else '\\' :: 'U' :: hexDigits 8 code

def escapeChar (quote : Char) (shown : Char → Bool) (c : Char) : List Char :=
  if c = quote ∨ c = '\\' then ['\\', c]
  else if c = '\n' then ['\\', 'n']
  else if c = '\r' then ['\\', 'r']
  else if c = '\t' then ['\\', 't']
  else if shown c then [c]
  else escapeCode ((strayUnit? c).getD c.toNat)

-- Single quotes, unless the text has some and has no double ones.
def chooseQuote (cs : List Char) : Char :=
  if cs.contains '\'' && !cs.contains '"' then '"' else '\''

def quoteWith (shown : Char → Bool) (cs : List Char) : String :=
  let quote := chooseQuote cs
  String.ofList (quote :: cs.flatMap (escapeChar quote shown) ++ [quote])

def quoted (s : String) : String := quoteWith isPrintable s.toList

end Text

namespace Moment

def joinArguments (name : String) (arguments : List String) : String :=
  name ++ "(" ++ ", ".intercalate arguments ++ ")"

def inspectOffset (minutes : Int) : String :=
  if minutes = 0 then "datetime.timezone.utc"
  else
    let days := if minutes < 0 then ["days=-1"] else []
    let seconds := (if minutes < 0 then minutes + 24 * 60 else minutes) * 60
    let delta := joinArguments "datetime.timedelta" (days ++ [s!"seconds={seconds}"])
    joinArguments "datetime.timezone" [delta]

def inspect (m : Moment) : String :=
  let date := [toString m.year, toString m.month, toString m.day]
  match m.time with
  | none => joinArguments "datetime.date" date
  | some t =>
    let small :=
      if t.micro ≠ 0 then [toString t.second, toString t.micro]
      else if t.second ≠ 0 then [toString t.second]
      else []
    let zone := (t.offset.map fun minutes => s!"tzinfo={inspectOffset minutes}").toList
    joinArguments "datetime.datetime"
      (date ++ [toString t.hour, toString t.minute] ++ small ++ zone)

end Moment

namespace Scalar

def inspectBytes (b : List UInt8) : String :=
  "b" ++ Text.quoteWith (fun c => ' ' ≤ c && c ≤ '~') (b.map fun n => Char.ofNat n.toNat)

def inspect : Scalar → String
  | null => "None"
  | bool b => if b then "True" else "False"
  | int n => toString n
  | float x => x.toText
  | text s => Text.quoted s
  | moment m => m.inspect
  | bytes b => inspectBytes b

def isWritable : Scalar → Bool
  | int n => n.natAbs < Nat.pow 10 Number.maxIntegerDigits
  | _ => true

def display : Scalar → String
  | text s => s
  | moment m => m.iso " "
  | s => s.inspect

end Scalar

namespace Collection

def ellipsis : Collection → String
  | list => "[...]"
  | tuple => "(...)"
  | mapping => "\x7b...\x7d"

end Collection

namespace Value

def inBraces (parts : List String) : String := "\x7b" ++ ", ".intercalate parts ++ "\x7d"

-- A single part is followed by a comma.
def inParentheses : List String → String
  | [part] => "(" ++ part ++ ",)"
  | parts => "(" ++ ", ".intercalate parts ++ ")"

mutual
def inspect : Value → String
  | scalar s => s.inspect
  | list items => "[" ++ ", ".intercalate (inspectItems items) ++ "]"
  | tuple items => inParentheses (inspectItems items)
  | set [] => "set()"
  | set items => inBraces (items.map Scalar.inspect)
  | mapping entries => inBraces (inspectEntries entries)
  | again kind _ => kind.ellipsis

def inspectItems : List Value → List String
  | [] => []
  | item :: rest => inspect item :: inspectItems rest

def inspectEntries : Entries → List String
  | [] => []
  | (key, value) :: rest => (key.inspect ++ ": " ++ inspect value) :: inspectEntries rest
end

def display : Value → String
  | scalar s => s.display
  | value => value.inspect

mutual
def isWritable : Value → Bool
  | scalar s => s.isWritable
  | list items | tuple items => areWritable items
  | set items => items.all Scalar.isWritable
  | mapping entries => areEntriesWritable entries
  | again _ _ => true

def areWritable : List Value → Bool
  | [] => true
  | item :: rest => isWritable item && areWritable rest

def areEntriesWritable : Entries → Bool
  | [] => true
  | (key, value) :: rest => key.isWritable && isWritable value && areEntriesWritable rest
end

end Value

end ApiCatalog
