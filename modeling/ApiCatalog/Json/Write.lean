import ApiCatalog.Data.Display

set_option autoImplicit false

namespace ApiCatalog.Json

def shortEscape? : Char → Option (List Char)
  | '"' => some ['\\', '"']
  | '\\' => some ['\\', '\\']
  | '\n' => some ['\\', 'n']
  | '\r' => some ['\\', 'r']
  | '\t' => some ['\\', 't']
  | '\x0c' => some ['\\', 'f']
  | '\x08' => some ['\\', 'b']
  | _ => none

def unitEscape (code : Nat) : List Char := '\\' :: 'u' :: Text.hexDigits 4 code

def codeEscape (code : Nat) : List Char :=
  if code < 0x10000 then unitEscape code
  else
    let offset := code - 0x10000
    unitEscape (0xd800 + offset / 0x400) ++ unitEscape (0xdc00 + offset % 0x400)

inductive Charset
  | unicode
  | ascii

def Charset.holds : Charset → Char → Bool
  | unicode, c => ' ' ≤ c
  | ascii, c => ' ' ≤ c && c ≤ '~'

def writeChar (charset : Charset) (c : Char) : List Char :=
  match shortEscape? c with
  | some escape => escape
  | none => if charset.holds c then [c] else codeEscape ((Text.strayUnit? c).getD c.toNat)

def writeText (charset : Charset) (s : String) : String :=
  String.ofList ('"' :: s.toList.flatMap (writeChar charset) ++ ['"'])

def writeFloat (x : Binary64) : String :=
  if x.isNaN then "NaN"
  else if x.isInfinite then (if x.isNegative then "-Infinity" else "Infinity")
  else x.toText

def writeScalar (charset : Charset) : Scalar → String
  | .null => "null"
  | .bool b => if b then "true" else "false"
  | .int n => toString n
  | .float x => writeFloat x
  | s => writeText charset s.display

def writeKey (charset : Charset) : Scalar → String
  | .text s => writeText charset s
  | s => writeText charset (writeScalar charset s)

mutual
def writeLine (charset : Charset) : Value → String
  | .scalar s => writeScalar charset s
  | .list items | .tuple items => "[" ++ ", ".intercalate (lineItems charset items) ++ "]"
  | .set items => "[" ++ ", ".intercalate (items.map (writeScalar charset)) ++ "]"
  | .again _ _ => "null"
  | .mapping entries => "\x7b" ++ ", ".intercalate (lineEntries charset entries) ++ "\x7d"

def lineItems (charset : Charset) : List Value → List String
  | [] => []
  | item :: rest => writeLine charset item :: lineItems charset rest

def lineEntries (charset : Charset) : Entries → List String
  | [] => []
  | (key, value) :: rest =>
    (writeKey charset key ++ ": " ++ writeLine charset value) :: lineEntries charset rest
end

def newline (depth : Nat) : String := "\n" ++ String.ofList (List.replicate (2 * depth) ' ')

-- One part a line, two blanks deeper than what encloses it.
def layout (opening closing : String) (depth : Nat) (parts : List String) : String :=
  if parts.isEmpty then opening ++ closing
  else
    opening ++ newline (depth + 1) ++ ("," ++ newline (depth + 1)).intercalate parts ++
      newline depth ++ closing

mutual
def writeLines (charset : Charset) (depth : Nat) : Value → String
  | .scalar s => writeScalar charset s
  | .list items | .tuple items => layout "[" "]" depth (linesItems charset (depth + 1) items)
  | .set items => layout "[" "]" depth (items.map (writeScalar charset))
  | .again _ _ => "null"
  | .mapping entries => layout "\x7b" "\x7d" depth (linesEntries charset (depth + 1) entries)

def linesItems (charset : Charset) (depth : Nat) : List Value → List String
  | [] => []
  | item :: rest => writeLines charset depth item :: linesItems charset depth rest

def linesEntries (charset : Charset) (depth : Nat) : Entries → List String
  | [] => []
  | (key, value) :: rest =>
    (writeKey charset key ++ ": " ++ writeLines charset depth value) ::
      linesEntries charset depth rest
end

def pretty (value : Value) : String := writeLines .unicode 0 value

def compact (value : Value) : String := writeLine .ascii value

end ApiCatalog.Json
