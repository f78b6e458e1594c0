set_option autoImplicit false

namespace ApiCatalog

/-- A double precision number by its IEEE 754 bits, so that equality can be decided. -/
structure Binary64 where
  bits : UInt64
  deriving DecidableEq, Repr

namespace Binary64

def signUnit : Nat := 0x8000000000000000

def fractionUnit : Nat := 0x10000000000000

def ofCode (negative : Bool) (code : Nat) : Binary64 :=
  ⟨((if negative then signUnit else 0) + code).toUInt64⟩

-- The bits without the sign. They grow with the magnitude.
def code (x : Binary64) : Nat := x.bits.toNat % signUnit

def isNegative (x : Binary64) : Bool := signUnit ≤ x.bits.toNat

def infinityCode : Nat := 2047 * fractionUnit

def infinity (negative : Bool) : Binary64 := ofCode negative infinityCode

def notANumber : Binary64 := ofCode false (infinityCode + fractionUnit / 2)

-- What is not a number, told apart by a mark.
def nanWith (mark : Nat) : Binary64 :=
  ofCode false (infinityCode + fractionUnit / 2 + mark % (fractionUnit / 2))

def isNaN (x : Binary64) : Bool := infinityCode < x.code

def isInfinite (x : Binary64) : Bool := x.code == infinityCode

def isFinite (x : Binary64) : Bool := x.code < infinityCode

def isZero (x : Binary64) : Bool := x.code == 0

def zero : Binary64 := ofCode false 0

-- A finite magnitude is `significand · 2 ^ exponent`.
def significand (x : Binary64) : Nat :=
  if x.code < fractionUnit then x.code else fractionUnit + x.code % fractionUnit

def exponent (x : Binary64) : Int :=
  if x.code < fractionUnit then -1074 else (x.code / fractionUnit : Nat) - 1075

def roundDiv (num den : Nat) : Nat :=
  let floor := num / den
  let rest := 2 * (num % den)
  if rest < den then floor
  else if den < rest then floor + 1
  else floor + floor % 2

def leadingBit (num den : Nat) : Int :=
  let guess : Int := (num.log2 : Int) - den.log2
  if den * Nat.pow 2 guess.toNat ≤ num * Nat.pow 2 (-guess).toNat then guess else guess - 1

-- The double nearest to a quotient, a half to the even neighbour; beyond the largest one,
-- infinity.
def ofRatio (negative : Bool) (num den : Nat) : Binary64 :=
  if num = 0 then ofCode negative 0
  else
    let shift : Int := max (leadingBit num den - 52) (-1074)
    let rounded := roundDiv (num * Nat.pow 2 (-shift).toNat) (den * Nat.pow 2 shift.toNat)
    -- A carry out of the significand lands in the exponent field, where it belongs.
    let code := (shift + 1074).toNat * fractionUnit + rounded
    if code < infinityCode then ofCode negative code else infinity negative

-- The double nearest to `digits · 10 ^ scale`. Scales that no digits can bring back into range
-- are cut off before any power is taken.
def ofDecimal (negative : Bool) (digits : Nat) (scale : Int) : Binary64 :=
  if digits = 0 then ofCode negative 0
  else
    let size : Int := (Nat.toDigits 10 digits).length + scale
    if 310 < size then infinity negative
    else if size < -330 then ofCode negative 0
    else ofRatio negative (digits * Nat.pow 10 scale.toNat) (Nat.pow 10 (-scale).toNat)

def ofInt? (n : Int) : Option Binary64 :=
  let x := ofRatio (n < 0) n.natAbs 1
  if x.isInfinite then none else some x

def toInt? (x : Binary64) : Option Int :=
  if infinityCode ≤ x.code then none
  else
    let num := x.significand * Nat.pow 2 x.exponent.toNat
    let den := Nat.pow 2 (-x.exponent).toNat
    if num % den = 0 then
      some (if x.isNegative then -(num / den : Nat) else (num / den : Nat))
    else none

def ofNative (x : Float) : Binary64 := if x.isNaN then notANumber else ⟨x.toBits⟩

def toNative (x : Binary64) : Float := Float.ofBits x.bits

def isNonpositive (x : Binary64) : Bool := !x.isNaN && (x.isNegative || x.isZero)

-- Numeric equality: the zeros are equal, and what is not a number equals nothing.
def same (x y : Binary64) : Bool :=
  !x.isNaN && !y.isNaN && (x == y || (x.isZero && y.isZero))

end Binary64

end ApiCatalog
