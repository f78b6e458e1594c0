import ApiCatalog.Number.Binary64
import ApiCatalog.Text.Basic

set_option autoImplicit false

namespace ApiCatalog.Number

open Text

def isPadding (c : Char) : Bool := isBlank c && !(0x1c ≤ c.toNat && c.toNat ≤ 0x1f)

def unpad (cs : List Char) : List Char :=
  ((cs.dropWhile isPadding).reverse.dropWhile isPadding).reverse

def asciiDigit (c : Char) : Char :=
  match digitValue? c with
  | some d => Char.ofNat (d + 48)
  | none => c

-- Takes out underscores, each of which has to stand between two digits. The first argument says
-- whether the character before is a digit.
def ungroup : Bool → List Char → Option (List Char)
  | _, [] => some []
  | true, '_' :: d :: rest => if d.isDigit then ungroup false (d :: rest) else none
  | _, '_' :: _ => none
  | _, c :: rest => (ungroup c.isDigit rest).map (c :: ·)
termination_by _ cs => cs.length

def natOfDigits (ds : List Char) : Nat := ds.foldl (fun n d => 10 * n + (d.toNat - 48)) 0

def splitSign : List Char → Bool × List Char
  | '-' :: cs => (true, cs)
  | '+' :: cs => (false, cs)
  | cs => (false, cs)

def readMantissa (cs : List Char) : Option (List Char × Nat × List Char) :=
  let whole := cs.takeWhile Char.isDigit
  let rest := cs.dropWhile Char.isDigit
  let (fraction, rest) :=
    match rest with
    | '.' :: more => (more.takeWhile Char.isDigit, more.dropWhile Char.isDigit)
    | _ => ([], rest)
  if whole.isEmpty && fraction.isEmpty then none
  else some (whole ++ fraction, fraction.length, rest)

def readExponent : List Char → Option Int
  | [] => some 0
  | e :: cs =>
    if e = 'e' ∨ e = 'E' then
      let (negative, ds) := splitSign cs
      if ds.isEmpty || ds.any (!·.isDigit) then none
      else some (if negative then -(natOfDigits ds : Int) else natOfDigits ds)
    else none

def readDecimal? (negative : Bool) (cs : List Char) : Option Binary64 := do
  let (digits, places, rest) ← readMantissa cs
  let exponent ← readExponent rest
  return .ofDecimal negative (natOfDigits digits) (exponent - places)

def readPlain? (cs : List Char) : Option Binary64 :=
  let (negative, body) := splitSign cs
  let word := String.ofList (body.map Char.toLower)
  if word = "inf" ∨ word = "infinity" then some (.infinity negative)
  else if word = "nan" then some .notANumber
  else readDecimal? negative body

def read? (text : String) : Option Binary64 := do
  readPlain? (← ungroup false ((unpad text.toList).map asciiDigit))

def dropUnderscores? (text : String) : Option (List Char) :=
  let cs := text.toList
  let doubled := (cs.zip (cs.drop 1)).any fun (a, b) => a == '_' && b == '_'
  if !cs.contains '_' || doubled || cs.head? == some '_' || cs.getLast? == some '_' then none
  else some (cs.filter (· != '_'))

def readAscii? (text : String) : Option Binary64 :=
  match readPlain? (unpad text.toList) with
  | some x => some x
  | none => (dropUnderscores? text).bind readPlain?

-- More digits than this are refused.
def maxIntegerDigits : Nat := 4300

def applySign (negative : Bool) (n : Nat) : Int := if negative then -(n : Int) else n

def readInteger? (text : String) : Option Int := do
  let (negative, body) := splitSign ((unpad text.toList).map asciiDigit)
  let ds ← ungroup false body
  if ds.isEmpty || ds.any (!·.isDigit) || maxIntegerDigits < ds.length then none
  else some (applySign negative (natOfDigits ds))

def hexDigit? (c : Char) : Option Nat :=
  if '0' ≤ c ∧ c ≤ '9' then some (c.toNat - 48)
  else if 'a' ≤ c ∧ c ≤ 'f' then some (c.toNat - 87)
  else if 'A' ≤ c ∧ c ≤ 'F' then some (c.toNat - 55)
  else none

inductive BinaryBase
  | two
  | eight
  | sixteen

def BinaryBase.size : BinaryBase → Nat
  | two => 2
  | eight => 8
  | sixteen => 16

def BinaryBase.letter : BinaryBase → Char
  | two => 'b'
  | eight => 'o'
  | sixteen => 'x'

def BinaryBase.dropMark (base : BinaryBase) : List Char → List Char
  | '0' :: letter :: ds => if letter.toLower = base.letter then ds else '0' :: letter :: ds
  | ds => ds

def BinaryBase.digits? (base : BinaryBase) (ds : List Char) : Option Nat :=
  if ds.isEmpty then none
  else ds.foldlM (fun n d =>
    match hexDigit? d with
    | some v => if v < base.size then some (base.size * n + v) else none
    | none => none) 0

def readIntegerIn? (base : BinaryBase) (text : List Char) : Option Int := do
  let (negative, body) := splitSign ((unpad text).map asciiDigit)
  return applySign negative (← base.digits? (base.dropMark body))

end ApiCatalog.Number
