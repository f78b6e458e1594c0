import ApiCatalog.Data.Display

set_option autoImplicit false

namespace ApiCatalog.Utf8

inductive Problem
  | startByte
  | continuationByte
  | endOfData
  deriving DecidableEq, Repr

def Problem.message : Problem → String
  | startByte => "invalid start byte"
  | continuationByte => "invalid continuation byte"
  | endOfData => "unexpected end of data"

structure Fault where
  problem : Problem
  position : Nat
  first : UInt8
  others : Nat
  deriving DecidableEq, Repr

def Fault.message (fault : Fault) : String :=
  let place :=
    if fault.others = 0 then
      s!"byte 0x{String.ofList (Text.hexDigits 2 fault.first.toNat)} in position {fault.position}"
    else s!"bytes in position {fault.position}-{fault.position + fault.others}"
  s!"'utf-8' codec can't decode {place}: {fault.problem.message}"

-- How many bytes follow a first byte, and the range of the one right after it. The ranges leave
-- out overlong forms, surrogates and what is beyond the last plane.
def followers? (lead : UInt8) : Option (Nat × UInt8 × UInt8) :=
  if lead < 0x80 then some (0, 0x80, 0xbf)
  else if lead < 0xc2 then none
  else if lead < 0xe0 then some (1, 0x80, 0xbf)
  else if lead = 0xe0 then some (2, 0xa0, 0xbf)
  else if lead = 0xed then some (2, 0x80, 0x9f)
  else if lead < 0xf0 then some (2, 0x80, 0xbf)
  else if lead = 0xf0 then some (3, 0x90, 0xbf)
  else if lead < 0xf4 then some (3, 0x80, 0xbf)
  else if lead = 0xf4 then some (3, 0x80, 0x8f)
  else none

def takeFollowers : Nat → UInt8 → UInt8 → List UInt8 → Except (Problem × Nat) (List UInt8)
  | 0, _, _, _ => .ok []
  | _ + 1, _, _, [] => .error (.endOfData, 0)
  | count + 1, low, high, b :: rest =>
    if low ≤ b ∧ b ≤ high then
      match takeFollowers count 0x80 0xbf rest with
      | .ok taken => .ok (b :: taken)
      | .error (problem, taken) => .error (problem, taken + 1)
    else .error (.continuationByte, 0)

def charOf (lead : UInt8) (followers : List UInt8) : Char :=
  let top :=
    if followers.isEmpty then lead.toNat else lead.toNat % Nat.pow 2 (6 - followers.length)
  Char.ofNat (followers.foldl (fun code b => code * 64 + b.toNat % 64) top)

def decodeFrom (position : Nat) (bytes : List UInt8) (read : List Char) :
    Except Fault (List Char) :=
  match bytes with
  | [] => .ok read.reverse
  | lead :: rest =>
    match followers? lead with
    | none => .error ⟨.startByte, position, lead, 0⟩
    | some (count, low, high) =>
      match takeFollowers count low high rest with
      | .error (problem, taken) => .error ⟨problem, position, lead, taken⟩
      | .ok followers =>
        decodeFrom (position + 1 + count) (rest.drop count) (charOf lead followers :: read)
termination_by bytes.length
decreasing_by simp only [List.length_drop, List.length_cons]; omega

def decode (bytes : List UInt8) : Except Fault (List Char) := decodeFrom 0 bytes []

end ApiCatalog.Utf8
