import ApiCatalog.Number.Binary64

set_option autoImplicit false

namespace ApiCatalog.Binary64

structure Digits where
  digits : Nat
  point : Int

def decimalPoint (num den : Nat) : Int :=
  if den ≤ num then (Nat.toDigits 10 (num / den)).length
  else -((List.range 400).find? fun k => den ≤ num * Nat.pow 10 (k + 1)).getD 0

-- The nearer of the two neighbours of `num / den` on the grid of `count` digits, if one of them
-- lies between `low / den` and `high / den` (ends included if `closed`).
def onGrid? (num den low high : Nat) (closed : Bool) (point : Int) (count : Nat) : Option Nat :=
  let up := Nat.pow 10 (count - point).toNat
  let down := Nat.pow 10 (point - count).toNat
  let floor := num * up / (den * down)
  let within (d : Nat) : Bool :=
    let at_ := d * den * down
    if closed then low * up ≤ at_ && at_ ≤ high * up else low * up < at_ && at_ < high * up
  match within floor, within (floor + 1) with
  | false, false => none
  | true, false => some floor
  | false, true => some (floor + 1)
  | true, true =>
    if 2 * (num * up - floor * den * down) ≤ den * down then some floor else some (floor + 1)

-- The fewest digits that read back as the same positive finite double, nearest to it among
-- those of that length. Seventeen digits always do.
def shortest (x : Binary64) : Digits :=
  let m := x.significand
  let scale := 4 * Nat.pow 2 x.exponent.toNat
  let den := 4 * Nat.pow 2 (-x.exponent).toNat
  let num := m * scale
  -- Half a unit in the last place on both sides, below a power of two half of that.
  let low := num - (if m = fractionUnit ∧ x.code ≠ fractionUnit then scale / 4 else scale / 2)
  let high := num + scale / 2
  let point := decimalPoint num den
  let found := (List.range 17).findSome? fun k =>
    (onGrid? num den low high (m % 2 = 0) point (k + 1)).map (·, k + 1)
  match found with
  | some (digits, count) =>
    if digits = Nat.pow 10 count then ⟨1, point + 1⟩ else ⟨digits, point⟩
  | none => ⟨0, 0⟩

def trimZeros (digits : List Char) : List Char := (digits.reverse.dropWhile (· == '0')).reverse

-- Positional between `10 ^ -4` and `10 ^ 16`, always with a digit after the point; otherwise
-- one digit before the point and an exponent of at least two digits.
def layout (digits : List Char) (point : Int) : List Char :=
  if -4 < point ∧ point ≤ 16 then
    if point ≤ 0 then
      '0' :: '.' :: (List.replicate (-point).toNat '0' ++ digits)
    else
      let whole := digits.take point.toNat
      let fraction := digits.drop point.toNat
      whole ++ List.replicate (point.toNat - whole.length) '0' ++
        '.' :: (if fraction.isEmpty then ['0'] else fraction)
  else
    let exponent := point - 1
    let size := Nat.toDigits 10 exponent.natAbs
    let fraction := digits.drop 1
    digits.take 1 ++ (if fraction.isEmpty then [] else '.' :: fraction) ++
      'e' :: (if exponent < 0 then '-' else '+') :: (List.replicate (2 - size.length) '0' ++ size)

def toText (x : Binary64) : String :=
  if x.isNaN then "nan"
  else
    let sign := if x.isNegative then ['-'] else []
    if x.isInfinite then String.ofList (sign ++ "inf".toList)
    else if x.isZero then String.ofList (sign ++ "0.0".toList)
    else
      let short := x.shortest
      String.ofList (sign ++ layout (trimZeros (Nat.toDigits 10 short.digits)) short.point)

end ApiCatalog.Binary64
