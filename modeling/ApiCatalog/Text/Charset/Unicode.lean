set_option autoImplicit false

namespace ApiCatalog.Text

def replacement : Char := '\ufffd'

inductive ByteOrder
  | little
  | big
  deriving DecidableEq, Repr

def ByteOrder.number (order : ByteOrder) (bytes : List UInt8) : Nat :=
  let bytes := match order with
    | little => bytes.reverse
    | big => bytes
  bytes.foldl (fun n b => 256 * n + b.toNat) 0

def isHighSurrogate (unit : Nat) : Bool := 0xd800 ≤ unit && unit < 0xdc00

def isLowSurrogate (unit : Nat) : Bool := 0xdc00 ≤ unit && unit < 0xe000

def joinSurrogates (high low : Nat) : Char :=
  Char.ofNat (0x10000 + (high - 0xd800) * 0x400 + (low - 0xdc00))

-- Two bytes a unit, and two units for a character outside of the first plane. Nothing is read
-- after a unit that would need another one.
def decodeUtf16 (order : ByteOrder) : List UInt8 → List Char
  | a :: b :: c :: d :: rest =>
    let unit := order.number [a, b]
    let next := order.number [c, d]
    if isHighSurrogate unit && isLowSurrogate next then
      joinSurrogates unit next :: decodeUtf16 order rest
    else if isHighSurrogate unit || isLowSurrogate unit then
      replacement :: decodeUtf16 order (c :: d :: rest)
    else Char.ofNat unit :: decodeUtf16 order (c :: d :: rest)
  | a :: b :: rest =>
    let unit := order.number [a, b]
    if isHighSurrogate unit then [replacement]
    else
      (if isLowSurrogate unit then replacement else Char.ofNat unit) ::
        (if rest.isEmpty then [] else [replacement])
  | [_] => [replacement]
  | [] => []

def decodeUtf32 (order : ByteOrder) : List UInt8 → List Char
  | a :: b :: c :: d :: rest =>
    let code := order.number [a, b, c, d]
    (if code.isValidChar then Char.ofNat code else replacement) :: decodeUtf32 order rest
  | [] => []
  | _ => [replacement]

def base64Digit? (b : UInt8) : Option Nat :=
  let c := Char.ofNat b.toNat
  if c.isUpper then some (c.toNat - 65)
  else if c.isLower then some (c.toNat - 71)
  else if c.isDigit then some (c.toNat + 4)
  else if c = '+' then some 62
  else if c = '/' then some 63
  else none

structure Shift where
  bits : Nat := 0
  buffer : Nat := 0
  high : Option Nat := none

namespace Shift

def isBroken (s : Shift) : Bool := 6 ≤ s.bits || (0 < s.bits && s.buffer != 0)

def addUnit (s : Shift) (unit : Nat) : List Char × Shift :=
  match s.high with
  | some high =>
    if isLowSurrogate unit then ([joinSurrogates high unit], { s with high := none })
    else if isHighSurrogate unit then ([replacement], { s with high := some unit })
    else ([replacement, Char.ofNat unit], { s with high := none })
  | none =>
    if isHighSurrogate unit then ([], { s with high := some unit })
    else if isLowSurrogate unit then ([replacement], s)
    else ([Char.ofNat unit], s)

def addDigit (s : Shift) (digit : Nat) : List Char × Shift :=
  let buffer := 64 * s.buffer + digit
  let bits := s.bits + 6
  if bits < 16 then ([], { s with bits, buffer })
  else
    let size := Nat.pow 2 (bits - 16)
    ({ s with bits := bits - 16, buffer := buffer % size } : Shift).addUnit (buffer / size)

-- What is written when a run ends before the given byte, and whether the byte belongs to it.
def finish (s : Shift) (b : UInt8) : List Char × Bool :=
  if s.isBroken then ([replacement], true)
  else (if s.high.isSome && b < 128 && b != 43 then [replacement] else [], b == 45)

end Shift

def plainUtf7 (b : UInt8) : Char := if b < 128 then Char.ofNat b.toNat else replacement

def decodeUtf7From : Option Shift → List UInt8 → List Char
  | none, [] => []
  | some shift, [] => if shift.isBroken || shift.high.isSome then [replacement] else []
  | none, 43 :: 45 :: rest => '+' :: decodeUtf7From none rest
  | none, [43] => []
  | none, 43 :: b :: rest =>
    match base64Digit? b with
    | some digit =>
      let (written, shift) := ({} : Shift).addDigit digit
      written ++ decodeUtf7From (some shift) rest
    | none => replacement :: decodeUtf7From none rest
  | none, b :: rest => plainUtf7 b :: decodeUtf7From none rest
  | some shift, b :: rest =>
    match base64Digit? b with
    | some digit =>
      let (written, shift) := shift.addDigit digit
      written ++ decodeUtf7From (some shift) rest
    | none =>
      let (written, taken) := shift.finish b
      written ++ (if taken then decodeUtf7From none rest
        else plainUtf7 b :: decodeUtf7From none rest)

def decodeUtf7 (bytes : List UInt8) : List Char := decodeUtf7From none bytes

end ApiCatalog.Text
