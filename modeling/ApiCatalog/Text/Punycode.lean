/-!
A way to write any code points in letters, digits and hyphens. The basic code points come first, and
after the last hyphen it is said where the others go: each number tells how many steps there are
to the next one, when places are counted within the text, and code points from one pass to the
next.
-/

set_option autoImplicit false

namespace ApiCatalog.Punycode

def digit? (c : Char) : Option Nat :=
  if c.isLower then some (c.toNat - 97)
  else if c.isUpper then some (c.toNat - 65)
  else if c.isDigit then some (c.toNat - 22)
  else none

def digitChar (digit : Nat) : Char := Char.ofNat (if digit < 26 then digit + 97 else digit + 22)

def threshold (place bias : Nat) : Nat := max 1 (min 26 (36 * (place + 1) - bias))

theorem threshold_pos (place bias : Nat) : 1 ≤ threshold place bias := by
  simp only [threshold]
  omega

def shrink (delta : Nat) : Nat × Nat :=
  if 455 < delta then
    let (rest, added) := shrink (delta / 35)
    (rest, added + 36)
  else (delta, 0)
termination_by delta
decreasing_by exact Nat.div_lt_self (by omega) (by omega)

def adapt (delta : Nat) (first : Bool) (length : Nat) : Nat :=
  let delta := if first then delta / 700 else delta / 2
  let (rest, added) := shrink (delta + delta / length)
  added + 36 * rest / (rest + 38)

def readNumber (bias : Nat) : Nat → Nat → Nat → List Char → Option (Nat × List Char)
  | _, _, _, [] => none
  | place, weight, value, c :: rest =>
    match digit? c with
    | none => none
    | some digit =>
      let value := value + digit * weight
      let t := threshold place bias
      if digit < t then some (value, rest)
      else readNumber bias (place + 1) (weight * (36 - t)) value rest

structure Decoding where
  text : List Nat
  code : Nat := 0x80
  place : Nat := 0
  bias : Nat := 72

namespace Decoding

def next (d : Decoding) (delta : Nat) : Nat := d.code + (d.place + delta) / (d.text.length + 1)

def insert (d : Decoding) (delta code : Nat) (first : Bool) : Decoding :=
  let length := d.text.length + 1
  let place := (d.place + delta) % length
  { text := d.text.take place ++ code :: d.text.drop place
    code, place := place + 1, bias := adapt delta first length }

end Decoding

-- Every number has a digit, so their count is fuel enough.
def decodeFrom : Nat → Bool → Decoding → List Char → Option (List Nat)
  | _, _, d, [] => some d.text
  | 0, _, _, _ => none
  | fuel + 1, first, d, digits => do
    let (delta, rest) ← readNumber d.bias 0 1 0 digits
    let code := d.next delta
    if 0x10ffff < code then none else decodeFrom fuel false (d.insert delta code first) rest

def split (cs : List Char) : List Char × List Char :=
  let digits := (cs.reverse.takeWhile (· != '-')).reverse
  (cs.take (cs.length - digits.length - 1), digits)

def decode? (cs : List Char) : Option (List Nat) :=
  let (base, digits) := split cs
  decodeFrom digits.length true { text := base.map Char.toNat } digits

-- Reads up to the first fault. A question mark stands for a code point that is too large.
def salvageFrom : Nat → Bool → Decoding → List Char → List Nat
  | 0, _, d, _ => d.text
  | fuel + 1, first, d, digits =>
    match readNumber d.bias 0 1 0 digits with
    | none => d.text
    | some (delta, rest) =>
      let code := if 0x10ffff < d.next delta then '?'.toNat else d.next delta
      salvageFrom fuel false (d.insert delta code first) rest

def salvage (base : List Nat) (digits : List Char) : List Nat :=
  salvageFrom digits.length true { text := base } digits

def writeNumber (bias place n : Nat) : List Char :=
  let t := threshold place bias
  if n < t then [digitChar n]
  else digitChar (t + (n - t) % (36 - t)) :: writeNumber bias (place + 1) ((n - t) / (36 - t))
termination_by n
decreasing_by
  have := threshold_pos place bias
  exact Nat.lt_of_le_of_lt (Nat.div_le_self _ _) (by omega)

structure Encoding where
  written : List Char := []
  covered : Nat
  delta : Nat := 0
  bias : Nat := 72
  first : Bool := true

def Encoding.pass (code : Nat) (e : Encoding) : List Nat → Encoding
  | [] => e
  | other :: rest =>
    let next :=
      if other < code then { e with delta := e.delta + 1 }
      else if other = code then
        { written := e.written ++ writeNumber e.bias 0 e.delta
          covered := e.covered + 1, delta := 0
          bias := adapt e.delta e.first (e.covered + 1), first := false }
      else e
    next.pass code rest

def encodeFrom (text : List Nat) : List Nat → Nat → Encoding → List Char
  | [], _, e => e.written
  | code :: rest, start, e =>
    let e := { e with delta := e.delta + (code - start) * (e.covered + 1) }
    let e := e.pass code text
    encodeFrom text rest (code + 1) { e with delta := e.delta + 1 }

def encode (text : List Nat) : List Char :=
  let base := text.filter (· < 0x80)
  let others := ((text.filter (0x80 ≤ ·)).mergeSort (· ≤ ·)).eraseDups
  (if base.isEmpty then [] else base.map Char.ofNat ++ ['-']) ++
    encodeFrom text others 0x80 { covered := base.length }

end ApiCatalog.Punycode
