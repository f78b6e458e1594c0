import ApiCatalog.Text.CellWidth
import ApiCatalog.Text.Punycode
import ApiCatalog.Url.LabelTable

/-!
Labels are the parts of the name of a host. One that is not ASCII is written in ASCII after a mark
of four characters.
-/

set_option autoImplicit false

namespace ApiCatalog.Url

open Text

inductive LabelFault
  | form
  | character
  | context
  | direction
  deriving DecidableEq, Repr

abbrev Label := List Nat

namespace Label

def hyphen : Nat := 0x2d

def isAlternating (code : Nat) : Bool :=
  match alternatingRanges.find? fun (low, high) => low ≤ code && code ≤ high with
  | some (low, _) => (code - low) % 2 = 0
  | none => false

def isPlain (code : Nat) : Bool := labelRanges.contains code || isAlternating code

def isMark (code : Nat) : Bool := isPlain code && zeroWidthRanges.contains code

-- The place of a mark around its letter; a character that needs no letter has place 0.
def place (code : Nat) : Nat :=
  ((markPlaces.find? fun (low, high, _) => low ≤ code && code ≤ high).map (·.2.2)).getD 0

def compositions : List (Nat × Nat × Nat) :=
  markedLetters.flatMap (fun (mark, letters) =>
    pairs mark (letters.toList.filter (!·.isWhitespace))) ++ furtherMarked
where
  pairs (mark : Nat) : List Char → List (Nat × Nat × Nat)
    | letter :: marked :: rest => (mark, letter.toNat, marked.toNat) :: pairs mark rest
    | _ => []

def compose? (letter mark : Nat) : Option Nat :=
  (compositions.find? fun (m, l, _) => m == mark && l == letter).map (·.2.2)

def decompose : Nat → Nat → Label
  | 0, code => [code]
  | most + 1, code =>
    match compositions.find? (·.2.2 == code) with
    | some (mark, letter, _) => decompose most letter ++ [mark]
    | none => [code]

def sortMarks (marks : Label) : Label → Label
  | [] => sorted marks
  | code :: rest =>
    if place code = 0 then sorted marks ++ code :: sortMarks [] rest
    else sortMarks (marks ++ [code]) rest
where
  sorted (marks : Label) : Label := marks.mergeSort fun a b => place a ≤ place b

def recompose (letter : Nat) (marks : Label) : Label → Label
  | [] => letter :: marks
  | code :: rest =>
    let isFree := marks.getLast?.all (place · < place code)
    match if isFree then compose? letter code else none with
    | some marked => recompose marked marks rest
    | none =>
      if place code = 0 then letter :: marks ++ recompose code [] rest
      else recompose letter (marks ++ [code]) rest

def isComposed (label : Label) : Bool :=
  match sortMarks [] (label.flatMap (decompose 4)) with
  | [] => true
  | letter :: rest => recompose letter [] rest == label

def hyphensHold (label : Label) : Bool :=
  !((label.drop 2).take 2 == [hyphen, hyphen]) && label.head? != some hyphen &&
    label.getLast? != some hyphen

def isArabicDigit (code : Nat) : Bool := 0x660 ≤ code && code ≤ 0x669

def isPersianDigit (code : Nat) : Bool := 0x6f0 ≤ code && code ≤ 0x6f9

def killsVowel (code : Nat) : Bool := place code = 9

def isBetweenJoined (before after : Label) : Bool :=
  let isLetter := fun code => !transparentRanges.contains code
  let joinsNext := fun code => dualJoiners.contains code || nextJoiners.contains code
  let joinsLast := fun code => dualJoiners.contains code || lastJoiners.contains code
  (before.find? isLetter).any joinsNext && (after.find? isLetter).any joinsLast

-- Characters that need certain neighbours, which come as the characters before, nearest first,
-- and the characters after.
def contextHolds? (before : Label) (code : Nat) (after : Label) : Option Bool :=
  if code = 0x200c then some (before.head?.any killsVowel || isBetweenJoined before after)
  else if code = 0x200d then some (before.head?.any killsVowel)
  else if code = 0xb7 then some (before.head? == some 0x6c && after.head? == some 0x6c)
  else if code = 0x375 then some (after.head?.any (Ranges.contains · greekRanges))
  else if code = 0x5f3 ∨ code = 0x5f4 then
    some (before.head?.any (Ranges.contains · hebrewRanges))
  else if code = 0x30fb then some ((before ++ after).any (Ranges.contains · kanaRanges))
  else if isArabicDigit code then some (!(before ++ after).any isPersianDigit)
  else if isPersianDigit code then some (!(before ++ after).any isArabicDigit)
  else none

def checkChars (before : Label) : Label → Except LabelFault Unit
  | [] => .ok ()
  | code :: after => do
    if !isPlain code then
      match contextHolds? before code after with
      | some true => pure ()
      | some false => throw .context
      | none => throw .character
    checkChars (code :: before) after

inductive Direction
  | left
  | right
  | arabicNumber
  | number
  | mark
  | neutral
  deriving DecidableEq, Repr

def turningMarks : List Nat := [0xcbf, 0xcc6, 0x11a07, 0x11a08, 0x11c3f]

def direction (code : Nat) : Direction :=
  if rightToLeftRanges.contains code then .right
  else if isArabicDigit code || (0x10d30 ≤ code && code ≤ 0x10d39) then .arabicNumber
  else if (0x30 ≤ code && code ≤ 0x39) || isPersianDigit code then .number
  else if code = 0x200c ∨ code = 0x200d ∨ neutralRanges.contains code then .neutral
  else if transparentRanges.contains code && !turningMarks.contains code then .mark
  else .left

-- With letters from right to left, all letters are such, numbers are of one kind, and a letter
-- or number comes last.
def directionsHold (label : Label) : Bool :=
  let directions := label.map direction
  let last := (directions.filter (· != .mark)).getLast?
  if !directions.any fun d => d == .right || d == .arabicNumber then true
  else
    directions.head? == some .right && !directions.contains .left &&
      !(directions.contains .number && directions.contains .arabicNumber) &&
      last != some .neutral

def check (label : Label) : Except LabelFault Unit := do
  if label.isEmpty || 254 < label.length then throw .form
  if !isComposed label || !hyphensHold label || label.head?.any isMark then throw .form
  checkChars [] label
  if !directionsHold label then throw .direction

def asciiMark : List Char := ['x', 'n', '-', '-']

def isAscii (label : Label) : Bool := label.all (· < 0x80)

def checkAscii (label : Label) : Except LabelFault Unit :=
  let text := label.map Char.ofNat
  if asciiMark.isPrefixOf text then
    let body := text.drop 4
    if body.isEmpty || body.getLast? == some '-' then .error .form
    else
      match Punycode.decode? body with
      | some decoded => check decoded
      | none => .error .form
  else check label

def asciiLength (label : Label) : Nat :=
  if isAscii label then label.length else (Punycode.encode label).length + 4

def isSendable (label : Label) : Bool :=
  (if isAscii label then checkAscii label else check label) matches .ok _ &&
    asciiLength label ≤ 63

end Label

def isDot (code : Nat) : Bool := [0x2e, 0x3002, 0xff0e, 0xff61].contains code

def labels (name : List Char) : List Label :=
  let labels := (name.map Char.toNat).splitOnP isDot
  if 1 < labels.length && labels.getLast? == some [] then labels.dropLast else labels

def isSendableName (name : List Char) : Bool :=
  let labels := labels name
  let length := labels.foldl (fun n label => n + Label.asciiLength label + 1) 0
  labels.all Label.isSendable && length ≤ 254

def checkName (name : List Char) : Except LabelFault Unit :=
  (labels name).forM Label.checkAscii

end ApiCatalog.Url
