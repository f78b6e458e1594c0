import ApiCatalog.Report.Console
import Mathlib.Data.List.Infix

/-!
What is known of a painter, as hypotheses. A text without markup is shown in two steps: its codes
are replaced by emoji, and it is laid out in lines. Of markup it is known that tags go away with
their brackets, and so do backslashes in front of brackets.
-/

set_option autoImplicit false

namespace ApiCatalog

namespace Text

-- The ASCII characters that are shown, each in a cell of its own.
def isNarrow (c : Char) : Bool := ' ' ≤ c && c ≤ '~'

-- A bell, a backspace, a vertical tab, a form feed and a carriage return.
def movesCursor (c : Char) : Bool := ['\x07', '\x08', '\x0b', '\x0c', '\r'].contains c

end Text

namespace Markup

def opensTag (c : Char) : Bool := ('a' ≤ c && c ≤ 'z') || c == '#' || c == '/' || c == '@'

def isInner (c : Char) : Bool := c != '[' && c != ']'

-- What a tag has in its brackets.
def IsTag : List Char → Prop
  | [] => False
  | c :: rest => opensTag c ∧ ∀ d ∈ rest, isInner d

def bracketed (tag : List Char) : List Char := '[' :: tag ++ [']']

/-- Nothing in a text is a tag, or a backslash that goes away. -/
structure IsUntagged (text : List Char) : Prop where
  untagged (tag : List Char) (isTag : IsTag tag) : ¬ bracketed tag <:+: text
  unescaped : ¬ ['\\', '['] <:+: text

-- Tags with what is in front of each of them, and what follows the last one.
def tagged (parts : List (List Char × List Char)) (last : List Char) : List Char :=
  parts.flatMap (fun part => part.1 ++ bracketed part.2) ++ last

def aroundTags (parts : List (List Char × List Char)) (last : List Char) : List Char :=
  parts.flatMap (·.1) ++ last

-- Text in a style, and more text without it.
def styled (name inside behind : List Char) : List Char :=
  tagged [([], name), (inside, '/' :: name)] behind

def styleNames : List String := ["green", "yellow", "bold red"]

end Markup

-- How text without markup is shown: codes between colons become emoji, and lines are broken to a
-- width, which changes nothing where they fit.
structure Typesetter where
  emoji : List Char → List Char
  lay : Nat → List Char → Except Crash (List Char)
  fits : Nat → List Char → Prop

/-- A text with nothing that moves the cursor, and with lines that fit. -/
structure Typesetter.Keeps (t : Typesetter) (width : Nat) (text : List Char) : Prop where
  room : 0 < width
  still : ∀ c ∈ text, c ≠ '\t' ∧ Text.movesCursor c = false
  fits : ∀ line ∈ text.splitOn '\n', t.fits width line

structure Painter.Laws (p : Painter) (t : Typesetter) : Prop where
  -- Text that is no markup, and what a style adds to it: nothing.
  print_untagged (width : Nat) (text : List Char) (untagged : Markup.IsUntagged text) :
    p.print width text = t.lay width (t.emoji text)
  print_styled (width : Nat) (name : String) (inside behind : List Char)
    (known : name ∈ Markup.styleNames) (inner : Markup.IsUntagged inside)
    (ended : inside.getLast? ≠ some '\\') (outer : Markup.IsUntagged behind) :
    p.print width (Markup.styled name.toList inside behind) =
      t.lay width (t.emoji inside ++ t.emoji behind)
  -- Whatever a tag means, its brackets are not shown. A backslash that escapes one is not either.
  print_tagged (width : Nat) (parts : List (List Char × List Char)) (last shown : List Char)
    (tags : ∀ part ∈ parts, Markup.IsTag part.2)
    (unescaped : ¬ ['\\', '['] <:+: Markup.tagged parts last)
    (printed : p.print width (Markup.tagged parts last) = .ok shown) :
    shown.count '[' ≤ (Markup.aroundTags parts last).count '['
  print_escaped (width : Nat) (text shown : List Char) (escaped : ['\\', '['] <:+: text)
    (printed : p.print width text = .ok shown) : shown.count '\\' < text.count '\\'
  -- A code is between two colons, and emoji have none.
  emoji_few (text : List Char) (few : text.count ':' ≤ 1) : t.emoji text = text
  emoji_colons (text : List Char) :
    t.emoji text = text ∨ (t.emoji text).count ':' < text.count ':'
  emoji_cons_blank (text : List Char) : t.emoji (' ' :: text) = ' ' :: t.emoji text
  -- Breaking lines adds no characters to them.
  lay_colons (width : Nat) (text shown : List Char) (laid : t.lay width text = .ok shown) :
    shown.count ':' ≤ text.count ':'
  lay_narrow (width : Nat) (text : List Char) (narrow : ∀ c ∈ text, Text.isNarrow c) :
    (t.lay width text).isOk
  lay_eq_iff (width : Nat) (text : List Char) :
    t.lay width text = .ok (text ++ ['\n']) ↔ t.Keeps width text
  fits_narrow (width : Nat) (line : List Char) (narrow : ∀ c ∈ line, Text.isNarrow c) :
    t.fits width line ↔ line.length ≤ width

namespace Markup

section Untagged

variable {text part tag : List Char}

theorem IsTag.exists_cons (isTag : IsTag tag) :
    ∃ c rest, tag = c :: rest ∧ opensTag c ∧ ∀ d ∈ rest, isInner d := by
  cases tag with
  | nil => cases isTag
  | cons c rest => exact ⟨c, rest, rfl, isTag⟩

theorem IsUntagged.of_infix (isUntagged : IsUntagged text) (inside : part <:+: text) :
    IsUntagged part where
  untagged tag isTag found := isUntagged.untagged tag isTag (found.trans inside)
  unescaped escaped := isUntagged.unescaped (escaped.trans inside)

theorem isUntagged_of_not_mem (absent : '[' ∉ text) : IsUntagged text where
  untagged _ _ found := absent (found.subset List.mem_cons_self)
  unescaped escaped := absent (escaped.subset (by decide))

theorem isUntagged_cons_blank : IsUntagged (' ' :: text) ↔ IsUntagged text := by
  refine ⟨fun isUntagged => isUntagged.of_infix (List.suffix_cons ' ' text).isInfix,
    fun isUntagged => ⟨fun tag isTag found => ?_, fun escaped => ?_⟩⟩
  · rcases List.infix_cons_iff.1 found with first | inside
    · exact absurd (List.cons_prefix_cons.1 first).1 (by decide)
    · exact isUntagged.untagged tag isTag inside
  · rcases List.infix_cons_iff.1 escaped with first | inside
    · exact absurd (List.cons_prefix_cons.1 first).1 (by decide)
    · exact isUntagged.unescaped inside

-- A text that is not escaped has a tag, or no markup at all.
theorem isUntagged_of_no_tag (unescaped : ¬ ['\\', '['] <:+: text)
    (noTag : ∀ before tag behind, IsTag tag → text ≠ tagged [(before, tag)] behind) :
    IsUntagged text := by
  refine ⟨fun tag isTag found => ?_, unescaped⟩
  obtain ⟨before, behind, whole⟩ := found
  exact noTag before tag behind isTag (by simp [tagged, ← whole])

end Untagged

end Markup

end ApiCatalog
