import ApiCatalog.Report.Emoji
import ApiCatalog.Report.Literal
import ApiCatalog.Report.Style
import ApiCatalog.Report.Wrap
import ApiCatalog.Text.Alphanumeric

set_option autoImplicit false

namespace ApiCatalog.Markup

inductive Fault
  | unopened
  | badArguments
  | badColor
  deriving DecidableEq, Repr

structure Tag where
  name : List Char
  parameters : Option (List Char) := none
  deriving DecidableEq, Repr

def Tag.ofText (text : List Char) : Tag :=
  let name := text.takeWhile (· != '=')
  { name, parameters := (text.drop name.length).tail? }

inductive Piece
  | text (cs : List Char)
  | tag (tag : Tag)
  deriving Repr

-- `text` and `body` are kept backwards, and so are the pieces. `body` is what may become a tag,
-- without its bracket.
structure Scanner where
  pieces : List Piece := []
  text : List Char := []
  slashes : Nat := 0
  body : Option (List Char) := none

namespace Scanner

def startsTag (c : Char) : Bool := ('a' ≤ c && c ≤ 'z') || c == '#' || c == '/' || c == '@'

def plainBracket (s : Scanner) (body : List Char) : Scanner :=
  { s with
    text := body ++ '[' :: List.replicate (s.slashes - 1) '\\' ++ s.text
    slashes := 0
    body := none }

-- Two backslashes in front of a tag stand for one, and a single one makes the tag plain text.
def finishTag (s : Scanner) (body : List Char) : Scanner :=
  let last :=
    if s.slashes % 2 = 1 then .text ('[' :: body.reverse ++ [']'])
    else .tag (.ofText body.reverse)
  { pieces :=
      last :: .text (List.replicate (s.slashes / 2) '\\') :: .text s.text.reverse :: s.pieces }

def stepPlain (s : Scanner) (c : Char) : Scanner :=
  if c = '\\' then { s with slashes := s.slashes + 1 }
  else if c = '[' then { s with body := some [] }
  else { s with text := c :: List.replicate s.slashes '\\' ++ s.text, slashes := 0 }

def step (s : Scanner) (c : Char) : Scanner :=
  match s.body with
  | none => s.stepPlain c
  | some [] =>
    if startsTag c then { s with body := some [c] } else (s.plainBracket []).stepPlain c
  | some body =>
    if c = ']' then s.finishTag body
    else if c = '[' then
      let slashes := (body.takeWhile (· == '\\')).length
      { s.plainBracket (body.drop slashes) with slashes, body := some [] }
    else { s with body := some (c :: body) }

def finish (s : Scanner) : List Piece :=
  let s := match s.body with
    | some body => s.plainBracket body
    | none => s
  (.text (List.replicate s.slashes '\\' ++ s.text).reverse :: s.pieces).reverse

end Scanner

def pieces (cs : List Char) : List Piece := (cs.foldl Scanner.step {}).finish

-- A tag that is open, by the name of its style, and how much text there is in front of it.
structure OpenTag where
  name : String
  parameters : Option (List Char)
  start : Nat
  deriving DecidableEq, Repr

namespace OpenTag

def styleText (t : OpenTag) : List Char :=
  match t.parameters with
  | some parameters => t.name.toList ++ ' ' :: parameters
  | none => t.name.toList

def isAction (t : OpenTag) : Bool := t.name.toList.head? == some '@'

def isActionChar (c : Char) : Bool := Text.isAlphanumeric c || c == '_' || c == '.'

def arguments (parameters : List Char) : List Char :=
  let text := Text.trim parameters
  let rest := text.dropWhile isActionChar
  if rest.isEmpty then "()".toList
  else if rest.head? == some '(' && rest.getLast? == some ')' && !rest.contains '\n' then rest
  else text

def argumentsHold (t : OpenTag) : Bool :=
  match t.parameters with
  | none | some [] => true
  | some parameters => Literal.isLiteral (arguments parameters)

end OpenTag

structure UsedStyle where
  text : List Char
  isShown : Bool
  deriving DecidableEq, Repr

structure Rendering where
  text : List Char := []
  opened : List OpenTag := []
  styles : List UsedStyle := []

namespace Rendering

def styleName (name : List Char) : Except Fault String :=
  (Style.nameOf name).mapError fun _ => .badColor

def length (r : Rendering) : Nat := (r.text.filter (!Wrap.isControl ·)).length

def use (r : Rendering) (tag : OpenTag) : UsedStyle := ⟨tag.styleText, tag.start < r.length⟩

def close (r : Rendering) (tag : OpenTag) : Except Fault Rendering :=
  let opened := r.opened.erase tag
  if !tag.isAction then .ok { r with opened, styles := r.use tag :: r.styles }
  else if tag.argumentsHold then .ok { r with opened }
  else .error .badArguments

def closeNamed (r : Rendering) (name : List Char) : Except Fault Rendering := do
  let wanted ← match Text.trim name with
    | [] => pure r.opened.head?
    | name => do
      let name ← styleName name
      pure (r.opened.find? (·.name == name))
  match wanted with
  | some tag => r.close tag
  | none => .error .unopened

def add (r : Rendering) : Piece → Except Fault Rendering
  | .text cs => .ok { r with text := r.text ++ Emoji.replaceCodes cs }
  | .tag ⟨'/' :: name, _⟩ => r.closeNamed name
  | .tag ⟨name, parameters⟩ => do
    return { r with opened := ⟨← styleName name, parameters, r.length⟩ :: r.opened }

def usedStyles (r : Rendering) : List UsedStyle := r.styles ++ r.opened.map r.use

-- The styles are looked up in the end, but those without text only if the text is in one piece.
-- A style that is not known changes nothing.
def checkStyles (r : Rendering) (divided : Bool) : Except Fault Unit :=
  let used := if divided then r.usedStyles.filter (·.isShown) else r.usedStyles
  if used.any fun style => Style.read style.text matches .error .part then .error .badColor
  else .ok ()

end Rendering

def render (cs : List Char) : Except Fault Rendering :=
  (pieces cs).foldlM Rendering.add {}

end ApiCatalog.Markup
