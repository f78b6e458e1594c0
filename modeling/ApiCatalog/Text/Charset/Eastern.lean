import ApiCatalog.Text.Charset.Chinese
import ApiCatalog.Text.Charset.HongKong
import ApiCatalog.Text.Charset.Japanese
import ApiCatalog.Text.Charset.Korean
import ApiCatalog.Text.Charset.NewJapanese
import ApiCatalog.Text.Charset.Unicode

/-!
Charsets of East Asia, which have one byte for ASCII and mostly two for other characters. Tables
are written line by line, with a dot where there is no character.
-/

set_option autoImplicit false

namespace ApiCatalog.Text

def tableOf (text : String) : Array Char :=
  (text.toList.filter fun c => c != '\n' && c != ' ').toArray

def pick? (table : Array Char) (index : Nat) : Option Char := table[index]?.filter (· != '.')

-- A square of 94 rows with 94 characters each: signs from the first row on, and characters from
-- row 16 on.
structure Plane where
  signs : Array Char
  characters : Array Char

def Plane.char? (p : Plane) (row column : Nat) : Option Char :=
  if row = 0 ∨ column = 0 ∨ 94 < column then none
  else if row < 16 then pick? p.signs (94 * (row - 1) + column - 1)
  else pick? p.characters (94 * (row - 16) + column - 1)

def gbPlane : Plane := ⟨tableOf gbSigns, tableOf gbCharacters⟩

def gbkPlane : Plane := { gbPlane with signs := tableOf gbkSigns }

def jisPlane : Plane := ⟨tableOf jisSigns, tableOf jisCharacters⟩

def jisMorePlane : Plane := ⟨tableOf jisMoreSigns, tableOf jisMoreCharacters⟩

def ksPlane : Plane := ⟨tableOf ksSigns, tableOf ksCharacters⟩

def unusedCodes (first count : Nat) (used : Array Char) : Array Nat :=
  let marks := used.foldl (fun marks c =>
    if first ≤ c.toNat then marks.setIfInBounds (c.toNat - first) true else marks)
    (Array.replicate count false)
  ((Array.range count).filter fun i => !(marks.getD i true)).map (first + ·)

def trailIndex? (b : Nat) : Option Nat :=
  if b < 0x40 ∨ b = 0x7f ∨ 0xfe < b then none
  else some (if b < 0x7f then b - 0x40 else b - 0x41)

def gbkCharacters : Array Char :=
  (unusedCodes 0x4e00 20902 gbPlane.characters).map Char.ofNat ++ tableOf gbkRemainder

def gbkTableSigns : Array Char := tableOf gbkMoreSigns

def gbkPair? (a b : Nat) : Option Char := do
  let index ← trailIndex? b
  if 0x81 ≤ a ∧ a ≤ 0xa0 then pick? gbkCharacters (190 * (a - 0x81) + index)
  else if 0xa1 ≤ b then gbkPlane.char? (a - 0xa0) (b - 0xa0)
  else if a = 0xa8 ∨ a = 0xa9 then pick? gbkTableSigns (96 * (a - 0xa8) + index)
  else if 0xaa ≤ a ∧ a ≤ 0xfe then pick? gbkCharacters (6080 + 96 * (a - 0xaa) + index)
  else none

def gbPrivate? (a b : Nat) : Option Nat := do
  let index ← trailIndex? b
  if 0xaa ≤ a ∧ a ≤ 0xaf ∧ 0xa1 ≤ b then some (0xe000 + 94 * (a - 0xaa) + b - 0xa1)
  else if 0xf8 ≤ a ∧ a ≤ 0xfe ∧ 0xa1 ≤ b then some (0xe234 + 94 * (a - 0xf8) + b - 0xa1)
  else if 0xa1 ≤ a ∧ a ≤ 0xa7 ∧ b ≤ 0xa0 then some (0xe4c6 + 96 * (a - 0xa1) + index)
  else none

def gbGapPairs : Array (Nat × Nat) :=
  let pairs := (List.range 94).flatMap fun i => (List.range 191).map fun j => (i + 0xa1, j + 0x40)
  (pairs.filter fun (a, b) =>
    (trailIndex? b).isSome && (gbkPair? a b).isNone && (gbPrivate? a b).isNone).toArray

def gbGapTable : Array Char := tableOf gbGaps

def gbGap? (a b : Nat) : Option Char :=
  (gbGapPairs.findIdx? (· == (a, b))).map fun i =>
    (pick? gbGapTable i).getD (Char.ofNat (0xe766 + i))

def gb18030Pair? (a b : Nat) : Option Char :=
  (gbkPair? a b).or (((gbPrivate? a b).map Char.ofNat).or (gbGap? a b))

def gbOtherCodes : Array Nat :=
  let gaps := (Array.range gbGapPairs.size).map fun i =>
    (pick? gbGapTable i).getD (Char.ofNat (0xe766 + i))
  let privates := (Array.range 0x766).map fun i => Char.ofNat (0xe000 + i)
  let used := gbkPlane.signs ++ gbkPlane.characters ++ gbkCharacters ++ gbkTableSigns ++ gaps ++
    privates
  (unusedCodes 0x80 0xff80 used).filter Nat.isValidChar

def gbQuadruple? (a b c d : Nat) : Option Char :=
  if a < 0x81 ∨ c < 0x81 ∨ 0xfe < c ∨ d < 0x30 ∨ 0x39 < d then none
  else
    let index := ((a - 0x81) * 10 + (b - 0x30)) * 1260 + (c - 0x81) * 10 + (d - 0x30)
    if index < 4 * 12600 then (gbOtherCodes[index]?).map Char.ofNat
    else if index < 15 * 12600 then none
    else
      let code := 0x10000 + (index - 15 * 12600)
      if code ≤ 0x10ffff then some (Char.ofNat code) else none

def big5Index? (b : Nat) : Option Nat :=
  if 0x40 ≤ b ∧ b ≤ 0x7e then some (b - 0x40)
  else if 0xa1 ≤ b ∧ b ≤ 0xfe then some (b - 0x62)
  else none

def big5Table : Array Char := tableOf big5Characters

def big5Pair? (a b : Nat) : Option Char := do
  let index ← big5Index? b
  if a < 0xa1 then none else pick? big5Table (157 * (a - 0xa1) + index)

def changedBig5Pair? (a b : Nat) : Option Char :=
  match big5Changes.lookup a with
  | some row => (big5Index? b).bind (pick? (tableOf row))
  | none => big5Pair? a b

def hongKongJoined : List (Nat × Nat × String) :=
  [(0x88, 0x62, "Ê\u0304"), (0x88, 0x64, "Ê\u030c"), (0x88, 0xa3, "ê\u0304"),
   (0x88, 0xa5, "ê\u030c")]

def joined? (list : List (Nat × Nat × String)) (a b : Nat) : Option (List Char) :=
  (list.find? fun (x, y, _) => x == a && y == b).map (·.2.2.toList)

def hongKongPair? (a b : Nat) : Option (List Char) :=
  let char :=
    match hongKongRows.lookup a with
    | some row => (big5Index? b).bind (pick? (tableOf row))
    | none => big5Pair? a b
  (joined? hongKongJoined a b).or (char.map ([·]))

def shiftedPlace? (a b : Nat) : Option (Nat × Nat) := do
  let index ← trailIndex? b
  let pair := if a < 0xa0 then a - 0x81 else a - 0xc1
  if a < 0x81 ∨ (0xa0 ≤ a ∧ a < 0xe0) ∨ 188 ≤ index then none
  else if index < 94 then some (2 * pair + 1, index + 1)
  else some (2 * pair + 2, index - 93)

def shiftedPair? (a b : Nat) : Option Char := do
  let (row, column) ← shiftedPlace? a b
  jisPlane.char? row column

def vendorPair? (a b : Nat) : Option Char := do
  let (row, column) ← shiftedPlace? a b
  if 0xf0 ≤ a ∧ a ≤ 0xf9 then some (Char.ofNat (0xe000 + 94 * (row - 95) + column - 1))
  else
    match jisChanges.lookup row with
    | some chars => pick? (tableOf chars) (column - 1)
    | none => jisPlane.char? row column

inductive Edition
  | first
  | second
  deriving DecidableEq, Repr

def openPlaces : List (Nat × Nat) :=
  [(14, 1), (15, 94), (47, 52), (47, 94), (84, 7), (94, 90), (94, 91), (94, 92), (94, 93), (94, 94)]

def newJis? (edition : Edition) (row column : Nat) : Option (List Char) :=
  let char :=
    match jisNewRows.lookup row with
    | some chars => pick? (tableOf chars) (column - 1)
    | none => jisPlane.char? row column
  if edition = .first ∧ (row, column) ∈ openPlaces then some [replacement]
  else (joined? jisJoined row column).or (char.map ([·]))

def secondJis? (edition : Edition) (row column : Nat) : Option Char :=
  let char := (jisSecondRows.lookup row).bind fun chars => pick? (tableOf chars) (column - 1)
  if edition = .first then char.map fun c => if c = '鬜' then '鬝' else c else char

def shiftedSecondRow? (row : Nat) : Option Nat :=
  if row ≤ 94 then none
  else if row = 96 then some 8
  else (jisSecondRows.filter (·.1 != 8))[if row = 95 then 0 else row - 96]?.map (·.1)

def shiftedNewPair? (edition : Edition) (a b : Nat) : Option (List Char) := do
  let (row, column) ← shiftedPlace? a b
  if row = 1 ∧ column = 32 then some ['\\']
  else if row = 2 ∧ column = 18 then some ['~']
  else
    match shiftedSecondRow? row with
    | some row => (secondJis? edition row column).map ([·])
    | none => newJis? edition row column

def narrowKana? (b : Nat) : Option Char :=
  if 0xa1 ≤ b ∧ b ≤ 0xdf then some (Char.ofNat (b + 0xfec0)) else none

def vendorSingle? (b : Nat) : Option Char :=
  if b = 0x80 then some (Char.ofNat b)
  else if b = 0xa0 then some '\uf8f0'
  else if 0xfd ≤ b then some (Char.ofNat (b + 0xf7f4))
  else narrowKana? b

def ksSyllables : Array Char := (unusedCodes 0xac00 11172 ksPlane.characters).map Char.ofNat

def ksTrailIndex? (b : Nat) : Option Nat :=
  if 0x41 ≤ b ∧ b ≤ 0x5a then some (b - 0x41)
  else if 0x61 ≤ b ∧ b ≤ 0x7a then some (b - 0x47)
  else if 0x81 ≤ b ∧ b ≤ 0xfe then some (b - 0x4d)
  else none

def unifiedKoreanPair? (a b : Nat) : Option Char := do
  let index ← ksTrailIndex? b
  if 0xa1 ≤ a ∧ 0xa1 ≤ b then ksPlane.char? (a - 0xa0) (b - 0xa0)
  else if 0x81 ≤ a ∧ a ≤ 0xa0 then pick? ksSyllables (178 * (a - 0x81) + index)
  else if 0xa1 ≤ a ∧ a ≤ 0xc6 then pick? ksSyllables (5696 + 84 * (a - 0xa1) + index)
  else none

-- How many letters of a syllable precede one, when five bits tell it: 0 for a missing letter.
-- Each range has its first bits and its length.
def letterIndex? (ranges : List (Nat × Nat)) (bits : Nat) : Option Nat :=
  match ranges with
  | [] => none
  | (first, length) :: rest =>
    if first ≤ bits ∧ bits < first + length then some (bits - first)
    else (letterIndex? rest bits).map (· + length)

def initials : List Nat :=
  [0x3131, 0x3132, 0x3134, 0x3137, 0x3138, 0x3139, 0x3141, 0x3142, 0x3143, 0x3145, 0x3146, 0x3147,
   0x3148, 0x3149, 0x314a, 0x314b, 0x314c, 0x314d, 0x314e]

def finals : List Nat :=
  [0x3131, 0x3132, 0x3133, 0x3134, 0x3135, 0x3136, 0x3137, 0x3139, 0x313a, 0x313b, 0x313c, 0x313d,
   0x313e, 0x313f, 0x3140, 0x3141, 0x3142, 0x3144, 0x3145, 0x3146, 0x3147, 0x3148, 0x314a, 0x314b,
   0x314c, 0x314d, 0x314e]

def letterPair? (a b : Nat) : Option Char := do
  let initial ← letterIndex? [(1, 20)] (a / 4 % 32)
  let vowel ← letterIndex? [(2, 6), (10, 6), (18, 6), (26, 4)] (a % 4 * 8 + b / 32)
  let final ← letterIndex? [(1, 17), (19, 11)] (b % 32)
  let code ← match initial, vowel, final with
    | 0, 0, 0 => some 0x3000
    | 0, 0, final + 1 => finals[final]?
    | 0, vowel + 1, 0 => some (0x314f + vowel)
    | 0, _ + 1, _ + 1 => none
    | initial + 1, 0, 0 => initials[initial]?
    | _ + 1, 0, _ + 1 => none
    | initial + 1, vowel + 1, final => some (0xac00 + initial * 588 + vowel * 28 + final)
  return Char.ofNat code

def johabSign? (a b : Nat) : Option Char :=
  if a = 0xdf ∨ 0xf9 < a ∨ b < 0x31 ∨ (0x7f ≤ b ∧ b < 0x91) ∨ b = 0xff then none
  else if a = 0xda ∧ 0xa1 ≤ b ∧ b ≤ 0xd3 then none
  else
    let row := if a < 0xe0 then 2 * (a - 0xd9) else 2 * a - 0x197
    let column := if b < 0x91 then b - 0x31 else b - 0x43
    if column < 94 then ksPlane.char? (row + 1) (column + 1)
    else ksPlane.char? (row + 2) (column - 93)

def johabPair? (a b : Nat) : Option Char :=
  if a < 0xd8 then letterPair? a b else if a = 0xd8 then none else johabSign? a b

def planePair? (p : Plane) (a b : Nat) : Option Char :=
  if 0xa1 ≤ a ∧ 0xa1 ≤ b then p.char? (a - 0xa0) (b - 0xa0) else none

inductive EasternCharset
  | gb2312
  | gbk
  | gb18030
  | big5
  | changedBig5
  | hongKong
  | shiftJis
  | vendorJis
  | eucJp
  | eucKr
  | unifiedKorean
  | johab
  | newEucJis (edition : Edition)
  | newShiftJis (edition : Edition)
  deriving DecidableEq, Repr

namespace EasternCharset

def single? : EasternCharset → Nat → Option Char
  | shiftJis, b => narrowKana? b
  | vendorJis, b => vendorSingle? b
  | newShiftJis _, b =>
    if b = 0x5c then some '¥' else if b = 0x7e then some '‾' else narrowKana? b
  | _, _ => none

def pair? : EasternCharset → Nat → Nat → Option Char
  | gb2312, a, b => planePair? gbPlane a b
  | gbk, a, b => gbkPair? a b
  | gb18030, a, b => gb18030Pair? a b
  | big5, a, b => big5Pair? a b
  | changedBig5, a, b => changedBig5Pair? a b
  | shiftJis, a, b => shiftedPair? a b
  | vendorJis, a, b => vendorPair? a b
  | eucJp, a, b => if a = 0x8e then narrowKana? b else planePair? jisPlane a b
  | eucKr, a, b => if a = 0xa4 ∧ b = 0xd4 then none else planePair? ksPlane a b
  | unifiedKorean, a, b => unifiedKoreanPair? a b
  | johab, a, b => johabPair? a b
  | newEucJis _, a, b => if a = 0x8e then narrowKana? b else none
  | _, _, _ => none

def text? : EasternCharset → Nat → Nat → Option (List Char)
  | hongKong, a, b => hongKongPair? a b
  | newShiftJis edition, a, b => shiftedNewPair? edition a b
  | newEucJis edition, a, b =>
    if 0xa1 ≤ a ∧ 0xa1 ≤ b then newJis? edition (a - 0xa0) (b - 0xa0) else none
  | _, _, _ => none

def triple? (charset : EasternCharset) (a b : Nat) : Option Char :=
  if a < 0xa1 ∨ b < 0xa1 then none
  else
    match charset with
    | newEucJis edition =>
      (secondJis? edition (a - 0xa0) (b - 0xa0)).or (jisMorePlane.char? (a - 0xa0) (b - 0xa0))
    | _ => jisMorePlane.char? (a - 0xa0) (b - 0xa0)

def length : EasternCharset → Nat → Nat → Nat
  | gb18030, _, b => if 0x30 ≤ b ∧ b ≤ 0x39 then 4 else 2
  | eucJp, a, _ | newEucJis _, a, _ => if a = 0x8f then 3 else 2
  | eucKr, a, b => if a = 0xa4 ∧ b = 0xd4 then 8 else 2
  | _, _, _ => 2

def char? (charset : EasternCharset) : List UInt8 → Option Char
  | [a] =>
    (charset.single? a.toNat).or (if a < 0x80 then some (Char.ofNat a.toNat) else none)
  | [a, b] => charset.pair? a.toNat b.toNat
  | [_, b, c] => charset.triple? b.toNat c.toNat
  | [a, b, c, d] => gbQuadruple? a.toNat b.toNat c.toNat d.toNat
  | _ => none

def chars? (charset : EasternCharset) (bytes : List UInt8) : Option (List Char) :=
  match bytes with
  | [a, b] => (charset.text? a.toNat b.toNat).or ((charset.char? bytes).map ([·]))
  | _ => (charset.char? bytes).map ([·])

-- Bytes that do not belong to a character are replaced one by one, but all at once where the
-- text ends too soon.
def decode (charset : EasternCharset) : List UInt8 → List Char
  | [] => []
  | [a] => [(charset.char? [a]).getD replacement]
  | a :: b :: rest =>
    match charset.char? [a] with
    | some c => c :: decode charset (b :: rest)
    | none =>
      let more := charset.length a.toNat b.toNat - 2
      if rest.length < more then [replacement]
      else
        match charset.chars? (a :: b :: rest.take more) with
        | some cs => cs ++ decode charset (rest.drop more)
        | none => replacement :: decode charset (b :: rest)
termination_by bytes => bytes.length
decreasing_by all_goals grind

end EasternCharset

end ApiCatalog.Text
