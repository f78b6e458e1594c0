import ApiCatalog.Text.CellWidth

set_option autoImplicit false

namespace ApiCatalog.Text

structure Grapheme where
  chars : List Char
  cells : Nat
  deriving DecidableEq, Repr

namespace Grapheme

def extend (g : Grapheme) (cs : List Char) : Grapheme := { g with chars := g.chars ++ cs }

def widen (g : Grapheme) : Grapheme := { g with cells := g.cells + 1 }

-- The graphemes from a point on. `last` is the last character that has cells, and `current` is
-- the grapheme that goes on.
def after (last : Option Char) (current : Grapheme) : List Char → List Grapheme
  | [] => [current]
  | [c] =>
    if c = joiner then [current.extend [c]]
    else if c = selector then
      [if last.any isSelectable then (current.extend [c]).widen else current.extend [c]]
    else if cellWidth c = 0 then [current.extend [c]]
    else [current, ⟨[c], cellWidth c⟩]
  | c :: d :: rest =>
    if c = joiner then after last (current.extend [c, d]) rest
    else if c = selector then
      if last.any isSelectable then after none (current.extend [c]).widen (d :: rest)
      else after last (current.extend [c]) (d :: rest)
    else if cellWidth c = 0 then after last (current.extend [c]) (d :: rest)
    else current :: after (some c) ⟨[c], cellWidth c⟩ (d :: rest)

end Grapheme

def graphemes : List Char → List Grapheme
  | [] => []
  | c :: rest =>
    if c = joiner ∨ c = selector ∨ cellWidth c = 0 then Grapheme.after none ⟨[c], 0⟩ rest
    else Grapheme.after (some c) ⟨[c], cellWidth c⟩ rest

def cellTotal (gs : List Grapheme) : Nat := gs.foldl (fun n g => n + g.cells) 0

def charsOf (gs : List Grapheme) : List Char := gs.flatMap Grapheme.chars

end ApiCatalog.Text
