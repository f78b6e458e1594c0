import ApiCatalog.Text.Casing

set_option autoImplicit false

namespace ApiCatalog

abbrev Location := List String

def Location.enter (location : Location) (part : String) : Location :=
  if part = ".." then location.dropLast else location ++ [part]

-- What a path starts with. Two slashes, unlike three, are not the same as one.
inductive Anchor
  | relative
  | root
  | doubleRoot
  deriving DecidableEq, Repr

namespace Anchor

def text : Anchor → String
  | relative => ""
  | root => "/"
  | doubleRoot => "//"

def ofChars : List Char → Anchor
  | '/' :: '/' :: '/' :: _ => .root
  | '/' :: '/' :: _ => .doubleRoot
  | '/' :: _ => .root
  | _ => .relative

end Anchor

-- A path as it is written, less its empty and `.` parts.
structure PathName where
  anchor : Anchor := .relative
  parts : List String := []
  deriving DecidableEq, Repr

namespace PathName

def ofText (text : String) : PathName :=
  { anchor := Anchor.ofChars text.toList
    parts := ((text.toList.splitOn '/').map String.ofList).filter fun part =>
      part != "" && part != "." }

def toText (p : PathName) : String :=
  if p.anchor = .relative ∧ p.parts = [] then "."
  else p.anchor.text ++ "/".intercalate p.parts

-- An absolute second path takes the place of the first.
def append (p q : PathName) : PathName :=
  if q.anchor = .relative then { p with parts := p.parts ++ q.parts } else q

def parent (p : PathName) : PathName := { p with parts := p.parts.dropLast }

def name (p : PathName) : String := p.parts.getLastD ""

-- The last dot of the name with what follows it. A dot at either end of the name does not
-- count.
def suffix (p : PathName) : String :=
  let chars := p.name.toList
  let after := (chars.reverse.takeWhile (· != '.')).reverse
  if after.isEmpty || chars.length ≤ after.length + 1 then "" else String.ofList ('.' :: after)

def isDescription (p : PathName) : Bool := Text.lower p.suffix == ".rqc" || p.name == ".rqc"

-- `..` leads to the parent, whether or not what precedes it is there.
def location (workingDirectory : Location) (p : PathName) : Location :=
  p.parts.foldl Location.enter (if p.anchor = .relative then workingDirectory else [])

end PathName

end ApiCatalog
