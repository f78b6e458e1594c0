import ApiCatalog.Data.Value
import ApiCatalog.Number.Literal
import ApiCatalog.Text.Casing
import ApiCatalog.Yaml.ScalarTag
import ApiCatalog.Yaml.Source

set_option autoImplicit false

namespace ApiCatalog.Yaml

open Number

def withoutUnderscores (text : String) : List Char := text.toList.filter (· != '_')

def sexagesimal (parts : List Int) : Int := parts.foldl (fun n part => 60 * n + part) 0

def orFault {α : Type} (fault : Fault) : Option α → Except Fault α
  | some a => .ok a
  | none => .error fault

def magnitude (body : List Char) : Except Fault Int :=
  match body with
  | ['0'] => .ok 0
  | '0' :: 'b' :: ds => orFault .number (readIntegerIn? .two ds)
  | '0' :: 'x' :: ds => orFault .number (readIntegerIn? .sixteen ds)
  | '0' :: ds => orFault .number (readIntegerIn? .eight ('0' :: ds))
  | [] => .error .emptyNumber
  | _ =>
    if body.contains ':' then do
      let parts ← (body.splitOn ':').mapM fun part =>
        orFault .number (readInteger? (String.ofList part))
      return sexagesimal parts
    else orFault .number (readInteger? (String.ofList body))

def intValue (text : String) : Except Fault Int :=
  match withoutUnderscores text with
  | [] => .error .emptyNumber
  | '-' :: body => do return -(← magnitude body)
  | '+' :: body => magnitude body
  | body => magnitude body

-- Parts between colons count in sixties, the last one in ones; summed up from the last one. A
-- power of sixty beyond all numbers is refused, whatever it is to be multiplied by.
def sexagesimalFloat (parts : List Binary64) : Except Fault Binary64 := do
  let sum ← parts.reverse.foldlM (fun (total, base) part => do
    let weight ← orFault .hugeNumber (Binary64.ofInt? base)
    return (total + part.toNative * weight.toNative, base * 60)) ((0.0 : Float), (1 : Int))
  return .ofNative sum.1

def negate (x : Binary64) : Binary64 :=
  if x.isNaN then x else .ofCode (!x.isNegative) x.code

def floatMagnitude (body : List Char) : Except Fault Binary64 :=
  match String.ofList body with
  | ".inf" => .ok (.infinity false)
  | ".nan" => .ok .notANumber
  | text =>
    if body.contains ':' then do
      let parts ← (body.splitOn ':').mapM fun part => orFault .number (read? (String.ofList part))
      sexagesimalFloat parts
    else orFault .number (read? text)

-- What is not a number equals itself if it is written as the format has it, and otherwise only
-- where it is the same node; the serial number of the node tells it apart.
def distinguish (serial : Nat) (body : List Char) (x : Binary64) : Binary64 :=
  if x.isNaN && body != ".nan".toList then .nanWith (serial + 1) else x

def bodyFloat (serial : Nat) (body : List Char) : Except Fault Binary64 := do
  return distinguish serial body (← floatMagnitude body)

def floatValue (serial : Nat) (text : String) : Except Fault Binary64 :=
  match (Text.lower (String.ofList (withoutUnderscores text))).toList with
  | [] => .error .emptyNumber
  | '-' :: body => do return negate (← bodyFloat serial body)
  | '+' :: body => bodyFloat serial body
  | body => bodyFloat serial body

def takeDigits? (least most : Nat) (cs : List Char) : Option (Nat × List Char) :=
  let ds := (cs.takeWhile Char.isDigit).take most
  if ds.length < least then none else some (natOfDigits ds, cs.drop ds.length)

def takeChar? (c : Char) : List Char → Option (List Char)
  | d :: rest => if c = d then some rest else none
  | [] => none

def microseconds (ds : List Char) : Nat :=
  natOfDigits ((ds.take 6) ++ List.replicate (6 - ds.length) '0')

def readOffset? (cs : List Char) : Option (Option Int) :=
  if cs.isEmpty then some none
  else match cs.dropWhile Pattern.blanks with
  | [] => none
  | ['Z'] => some (some 0)
  | sign :: cs => do
    if sign != '+' && sign != '-' then none
    let (hours, cs) ← takeDigits? 1 2 cs
    let (minutes, cs) ← match cs with
      | ':' :: cs => takeDigits? 2 2 cs
      | cs => some (0, cs)
    let offset : Int := hours * 60 + minutes
    if cs.isEmpty then some (some (if sign == '-' then -offset else offset)) else none

def readClock? (cs : List Char) : Option ClockTime := do
  let (hour, cs) ← takeDigits? 1 2 cs
  let (minute, cs) ← takeDigits? 2 2 (← takeChar? ':' cs)
  let (second, cs) ← takeDigits? 2 2 (← takeChar? ':' cs)
  let (fraction, cs) := match cs with
    | '.' :: cs => (cs.takeWhile Char.isDigit, cs.dropWhile Char.isDigit)
    | cs => ([], cs)
  let offset ← readOffset? cs
  return ⟨hour, minute, second, microseconds fraction, offset⟩

def readMoment? (cs : List Char) : Option Moment := do
  let (year, cs) ← takeDigits? 4 4 cs
  let (month, cs) ← takeDigits? 1 2 (← takeChar? '-' cs)
  let (day, cs) ← takeDigits? 1 2 (← takeChar? '-' cs)
  match cs with
  | [] => return ⟨year, month, day, none⟩
  | c :: rest =>
    if c == 'T' || c == 't' then return ⟨year, month, day, some (← readClock? rest)⟩
    else if Pattern.blanks c then
      return ⟨year, month, day, some (← readClock? (rest.dropWhile Pattern.blanks))⟩
    else none

def momentValue (text : String) : Except Fault Moment :=
  match readMoment? (withoutLastBreak text).toList with
  | none => .error .timestamp
  | some m => if m.isValid then .ok m else .error .date

def base64Digit? (c : Char) : Option Nat :=
  if 'A' ≤ c && c ≤ 'Z' then some (c.toNat - 65)
  else if 'a' ≤ c && c ≤ 'z' then some (c.toNat - 71)
  else if '0' ≤ c && c ≤ '9' then some (c.toNat + 4)
  else if c == '+' then some 62
  else if c == '/' then some 63
  else none

-- Digits come in fours; the last group may be short if padding fills it up, and ends the data.
-- The second argument holds the digits of the open group.
def base64Bytes? : List Char → List Nat → Nat → Option (List UInt8)
  | [], [], _ => some []
  | [], _, _ => none
  | '=' :: rest, group, padding =>
    if 2 ≤ group.length && group.length + padding + 1 = 4 then
      match group with
      | [a, b] => some [(a * 4 + b / 16).toUInt8]
      | [a, b, c] => some [(a * 4 + b / 16).toUInt8, (b % 16 * 16 + c / 4).toUInt8]
      | _ => none
    else base64Bytes? rest group (padding + 1)
  | c :: rest, group, padding =>
    match base64Digit? c, group with
    | none, _ => base64Bytes? rest group padding
    | some d, [a, b, c] =>
      (base64Bytes? rest [] 0).map fun bytes =>
        (a * 4 + b / 16).toUInt8 :: (b % 16 * 16 + c / 4).toUInt8 ::
          (c % 4 * 64 + d).toUInt8 :: bytes
    | some d, _ => base64Bytes? rest (group ++ [d]) 0

def bytesValue (text : String) : Except Fault (List UInt8) :=
  if text.toList.all fun c => c.toNat < 128 then
    orFault .malformed (base64Bytes? text.toList [] 0)
  else .error .malformed

def flagValue (text : String) : Except Fault Bool :=
  orFault .flag (flagWords.lookup (Text.lower text))

def scalarValue (serial : Nat) (tag : Tag) (text : String) : Except Fault Scalar :=
  match tag with
  | .null => .ok .null
  | .bool => (flagValue text).map .bool
  | .int => (intValue text).map .int
  | .float => (floatValue serial text).map .float
  | .binary => (bytesValue text).map .bytes
  | .timestamp => (momentValue text).map .moment
  | .text => .ok (.text text)
  | _ => .error .malformed

end ApiCatalog.Yaml
