import ApiCatalog.Proofs.LiteralMarkup
import Mathlib.Data.List.TakeWhile

/-!
Text in a style that is known by its name, and what becomes of a tag that closes no style.
-/

set_option autoImplicit false

namespace ApiCatalog

namespace Markup

-- Characters that start a tag which opens a style.
def opensStyle (c : Char) : Bool := Scanner.startsTag c && c != '/' && c != '@'

end Markup

namespace Style

-- A text that marks what follows it with a style, and by which the style is known.
structure IsName (name : List Char) : Prop where
  opens : name.head?.any Markup.opensStyle
  inner : name.all Markup.isInner
  whole : '=' ∉ name
  trimmed : Text.trim name = name
  known : nameOf name = .ok (String.ofList name)

theorem IsName.exists_cons {name : List Char} (isName : IsName name) :
    ∃ c rest, name = c :: rest ∧ Markup.Scanner.startsTag c ∧ c ≠ '/' ∧ c ≠ '@' := by
  have opens := isName.opens
  cases name with
  | nil => cases opens
  | cons c rest =>
    simp only [List.head?_cons, Option.any_some, Markup.opensStyle, Bool.and_eq_true,
      bne_iff_ne] at opens
    exact ⟨c, rest, rfl, opens.1.1, opens.1.2, opens.2⟩

structure IsWord (word : String) : Prop where
  lower : Text.lower word = word
  alone : word ≠ "on" ∧ word ≠ "not" ∧ word ≠ "link"
  unmixed : isHexColor word.toList = false ∧ isNumberedColor word.toList = false ∧
    argument? "rgb" word.toList = none

variable {word next : String}

theorem IsWord.readColor (isWord : IsWord word) :
    readColor word = .ok word ∨ readColor word = .error .unknown := by
  obtain ⟨noHex, noNumber, noMixture⟩ := isWord.unmixed
  simp only [Style.readColor, isWord.lower, noHex, noNumber, noMixture, Bool.or_false]
  split
  · exact .inl rfl
  · exact .inr rfl

theorem IsWord.readWords (isWord : IsWord word) (s : Style) :
    s.readWords [word] = s.addWord word := by
  rw [Style.readWords, isWord.lower]
  split
  · exact absurd rfl isWord.alone.1
  · exact absurd rfl isWord.alone.2.1
  · exact absurd rfl isWord.alone.2.2
  · rfl

theorem IsWord.readWords_attribute {name : String} (isWord : IsWord word)
    (isAttribute : attribute? word = some name) (s : Style) (rest : List String) :
    s.readWords (word :: next :: rest) =
      Style.readWords { s with attributes := (name, true) :: s.attributes } (next :: rest) := by
  rw [Style.readWords, isWord.lower]
  split
  · exact absurd rfl isWord.alone.1
  · exact absurd rfl isWord.alone.2.1
  · exact absurd rfl isWord.alone.2.2
  · rw [Style.addWord, isAttribute]
    rfl

-- A text is known by itself whether its last word is a colour or means nothing.
theorem nameOf_eq {name : List Char} {style : Style} (trimmed : Text.trim name = name)
    (lower : Text.lower (String.ofList name) = String.ofList name)
    (readable : read name = .ok style ∨ read name = .error .unknown)
    (shown : style.toText = String.ofList name) : nameOf name = .ok (String.ofList name) := by
  rcases readable with found | found
  · simp only [nameOf, found, shown]
  · simp only [nameOf, found, trimmed, lower]

theorem IsWord.addWord (isWord : IsWord word) (s : Style) (noAttribute : attribute? word = none) :
    s.addWord word = .ok { s with color := some word } ∨ s.addWord word = .error .unknown := by
  rw [Style.addWord, noAttribute]
  rcases isWord.readColor with found | found
  · exact .inl (congrArg (Except.map _) found)
  · exact .inr (congrArg (Except.map _) found)

theorem nameOf_color {name : List Char} {s : Style} (isWord : IsWord word)
    (noAttribute : attribute? word = none) (trimmed : Text.trim name = name)
    (lower : Text.lower (String.ofList name) = String.ofList name) (named : name ≠ "none".toList)
    (last : readWords {} (words name) = s.readWords [word])
    (shown : Style.toText { s with color := some word } = String.ofList name) :
    nameOf name = .ok (String.ofList name) := by
  refine nameOf_eq trimmed lower ?_ shown
  rw [read, trimmed, if_neg named, last, isWord.readWords]
  exact isWord.addWord s noAttribute

theorem isWord_of_mem : ∀ word ∈ ["green", "yellow", "bold", "red"], IsWord word := by
  have lower : ∀ word ∈ ["green", "yellow", "bold", "red"], Text.lower word = word := by
    decide +kernel
  have alone : ∀ word ∈ ["green", "yellow", "bold", "red"],
      word ≠ "on" ∧ word ≠ "not" ∧ word ≠ "link" := by decide
  have unmixed : ∀ word ∈ ["green", "yellow", "bold", "red"], isHexColor word.toList = false ∧
      isNumberedColor word.toList = false ∧ argument? "rgb" word.toList = none := by decide +kernel
  exact fun word member => ⟨lower word member, alone word member, unmixed word member⟩

theorem isName_green : IsName "green".toList where
  opens := by decide
  inner := by decide
  whole := by decide
  trimmed := by decide +kernel
  known := nameOf_color (s := {}) (isWord_of_mem "green" (by decide)) (by decide +kernel)
    (by decide +kernel) (by decide +kernel) (by decide)
    (by rw [(by decide +kernel : words "green".toList = ["green"])]) (by decide +kernel)

theorem isName_yellow : IsName "yellow".toList where
  opens := by decide
  inner := by decide
  whole := by decide
  trimmed := by decide +kernel
  known := nameOf_color (s := {}) (isWord_of_mem "yellow" (by decide)) (by decide +kernel)
    (by decide +kernel) (by decide +kernel) (by decide)
    (by rw [(by decide +kernel : words "yellow".toList = ["yellow"])]) (by decide +kernel)

theorem isName_boldRed : IsName "bold red".toList where
  opens := by decide
  inner := by decide
  whole := by decide
  trimmed := by decide +kernel
  known := by
    have words : words "bold red".toList = ["bold", "red"] := by decide +kernel
    have bold : attribute? "bold" = some "bold" := by decide +kernel
    refine nameOf_color (s := { attributes := [("bold", true)] }) (isWord_of_mem "red" (by decide))
      (by decide +kernel) (by decide +kernel) (by decide +kernel) (by decide) ?_ (by decide +kernel)
    rw [words]
    exact (isWord_of_mem "bold" (by decide)).readWords_attribute bold {} []

theorem isName_of_mem {name : String} (known : name ∈ Markup.styleNames) : IsName name.toList := by
  simp only [Markup.styleNames, List.mem_cons, List.not_mem_nil, or_false] at known
  rcases known with rfl | rfl | rfl
  · exact isName_green
  · exact isName_yellow
  · exact isName_boldRed

end Style

namespace Markup

section Styled

variable {name inside behind : List Char}

theorem Tag.ofText_eq {text : List Char} (whole : '=' ∉ text) : ofText text = ⟨text, none⟩ := by
  have all : text.takeWhile (· != '=') = text := by
    rw [List.takeWhile_eq_self_iff]
    intro c member
    simpa using fun isEqual : c = '=' => whole (isEqual ▸ member)
  simp [ofText, all]

theorem add_styled (isName : Style.IsName name) (inside behind : List Char) :
    ∃ r, [Piece.text [], .text [], .tag ⟨name, none⟩, .text inside, .text [],
        .tag ⟨'/' :: name, none⟩, .text behind].foldlM Rendering.add {} = .ok r ∧
      r.text = Emoji.replaceCodes inside ++ Emoji.replaceCodes behind ∧ r.opened = [] ∧
      ∀ style ∈ r.styles, style.text = name := by
  have known : Rendering.styleName name = .ok (String.ofList name) := by
    rw [Rendering.styleName, isName.known]
    rfl
  have trimmed := isName.trimmed
  obtain ⟨c, rest, rfl, -, noSlash, noAction⟩ := isName.exists_cons
  have empty : Emoji.replaceCodes [] = [] := Emoji.replaceCodes_eq (by simp)
  simp [Rendering.add, Rendering.closeNamed, Rendering.close, OpenTag.isAction, empty, known,
    trimmed, noSlash, noAction, Rendering.use, OpenTag.styleText, bind, Except.bind, pure,
    Except.pure]

theorem scan_styled (isName : Style.IsName name) (inner : IsUntagged inside)
    (ended : inside.getLast? ≠ some '\\') :
    (styled name inside []).foldl Scanner.step {} =
      { pieces := [.tag ⟨'/' :: name, none⟩, .text [], .text inside, .tag ⟨name, none⟩, .text [],
          .text []] } := by
  have all := List.all_eq_true.1 isName.inner
  have whole := isName.whole
  have whole' : '=' ∉ '/' :: name := by simpa using whole
  have nothing : IsUntagged [] := isUntagged_of_not_mem List.not_mem_nil
  obtain ⟨c, rest, rfl, starts, -⟩ := isName.exists_cons
  have opening := Scanner.foldl_append_bracketed [] [] nothing nofun starts
    (List.forall_mem_cons.1 all).2
  have split : styled (c :: rest) inside [] =
      ([] ++ bracketed (c :: rest)) ++ (inside ++ bracketed ('/' :: c :: rest)) := by
    simp [styled, tagged]
  rw [split, List.foldl_append, opening,
    Scanner.foldl_append_bracketed _ [] inner ended rfl all, Tag.ofText_eq whole,
    Tag.ofText_eq whole']
  rfl

theorem styled_append (name inside behind : List Char) :
    styled name inside behind = styled name inside [] ++ behind := by
  simp [styled, tagged]

theorem render_styled (isName : Style.IsName name) (inner : IsUntagged inside)
    (ended : inside.getLast? ≠ some '\\') (outer : IsUntagged behind) :
    ∃ r, render (styled name inside behind) = .ok r ∧
      r.text = Emoji.replaceCodes inside ++ Emoji.replaceCodes behind ∧
      ∀ style ∈ r.usedStyles, style.text = name := by
  obtain ⟨r, added, text, opened, styles⟩ := add_styled isName inside behind
  refine ⟨r, ?_, text, by simpa [Rendering.usedStyles, opened] using styles⟩
  rw [render, pieces, styled_append, List.foldl_append, scan_styled isName inner ended,
    Scanner.finish_foldl _ _ outer]
  exact added

theorem Scanner.exists_finish (s : Scanner) (cs : List Char) :
    ∃ more, (cs.foldl step s).finish = s.pieces.reverse ++ more := by
  induction cs generalizing s with
  | nil =>
    rw [List.foldl_nil, finish]
    split <;> exact ⟨[_], List.reverse_cons⟩
  | cons c rest ih =>
    have grows : ∃ added, (s.step c).pieces = added ++ s.pieces := by
      unfold step stepPlain finishTag plainBracket
      split <;> (repeat' split) <;> first | exact ⟨[], rfl⟩ | exact ⟨[_, _, _], rfl⟩
    obtain ⟨added, pieces⟩ := grows
    obtain ⟨more, finished⟩ := ih (s.step c)
    exact ⟨added.reverse ++ more, by simp [finished, pieces]⟩

theorem closeNamed_unopened {r : Rendering} (opened : r.opened = []) (name : List Char) :
    ∃ fault, r.closeNamed name = .error fault := by
  unfold Rendering.closeNamed
  rw [opened]
  cases Text.trim name with
  | nil => exact ⟨.unopened, rfl⟩
  | cons c rest =>
    cases found : Rendering.styleName (c :: rest) with
    | error fault => exact ⟨fault, by simp [found, bind, Except.bind]⟩
    | ok name => exact ⟨.unopened, by simp [found, bind, Except.bind, pure, Except.pure]⟩

-- A closing tag fails when it is met, whatever comes after it.
theorem render_unopened (isName : Style.IsName name) (inner : IsUntagged inside)
    (ended : inside.getLast? ≠ some '\\') (outer : IsUntagged behind)
    (ended' : behind.getLast? ≠ some '\\') {tag : List Char} (isTag : ∀ c ∈ tag, isInner c)
    (rest : List Char) :
    ∃ fault,
      render (styled name inside behind ++ bracketed ('/' :: tag) ++ rest) = .error fault := by
  obtain ⟨r, added, -, opened, -⟩ := add_styled isName inside behind
  have closing : Tag.ofText ('/' :: tag) =
      ⟨'/' :: tag.takeWhile (· != '='), (Tag.ofText ('/' :: tag)).parameters⟩ := by
    simp [Tag.ofText]
  let scanned : Scanner :=
    { pieces := [.tag (.ofText ('/' :: tag)), .text [], .text behind, .tag ⟨'/' :: name, none⟩,
        .text [], .text inside, .tag ⟨name, none⟩, .text [], .text []] }
  have scan : (styled name inside behind ++ bracketed ('/' :: tag)).foldl Scanner.step {} =
      scanned := by
    rw [styled_append, List.append_assoc, List.foldl_append, scan_styled isName inner ended,
      Scanner.foldl_append_bracketed _ [] outer ended' rfl isTag]
    rfl
  obtain ⟨more, finished⟩ := scanned.exists_finish rest
  obtain ⟨fault, unopened⟩ :=
    closeNamed_unopened (r := { r with text := r.text ++ Emoji.replaceCodes [] }) opened
    (tag.takeWhile (· != '='))
  refine ⟨fault, ?_⟩
  have split : scanned.pieces.reverse = [.text [], .text [], .tag ⟨name, none⟩, .text inside,
      .text [], .tag ⟨'/' :: name, none⟩, .text behind] ++
        [.text [], .tag (.ofText ('/' :: tag))] := rfl
  rw [render, pieces, List.foldl_append, scan, finished, split, List.foldlM_append,
    List.foldlM_append, added, closing]
  simp only [List.foldlM_cons, Rendering.add, unopened, bind, Except.bind]

theorem checkStyles_eq {r : Rendering} (isName : Style.IsName name)
    (used : ∀ style ∈ r.usedStyles, style.text = name) (divided : Bool) :
    r.checkStyles divided = .ok () := by
  have known : Style.read name ≠ .error .part := by
    intro faulty
    have known := isName.known
    simp [Style.nameOf, faulty] at known
  have all : ∀ style ∈ (if divided then r.usedStyles.filter (·.isShown) else r.usedStyles),
      style.text = name := by
    cases divided with
    | false => exact used
    | true => exact fun style member => used style (List.mem_filter.1 member).1
  refine if_neg ?_
  rw [Bool.not_eq_true, List.any_eq_false]
  intro style member
  rw [all style member]
  split
  · exact absurd ‹_› known
  · simp

end Styled

end Markup

end ApiCatalog
