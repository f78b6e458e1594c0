import ApiCatalog.Text.Charset.Eastern

/-!
Charsets that write everything in ASCII, and switch to other sets of characters by escapes. A
step reads one character or one escape.
-/

set_option autoImplicit false

namespace ApiCatalog.Text

inductive Switch (σ : Type)
  | read (text : List Char) (state : σ) (length : Nat)
  | wrong (length : Nat)
  | unfinished

-- Reads on as long as there are bytes. An unfinished end is kept back, for which there is
-- little space.
def switchAll {σ : Type} (step : σ → List UInt8 → Switch σ) :
    Nat → σ → List UInt8 → Option (List Char)
  | _, _, [] => some []
  | 0, _, _ => some []
  | fuel + 1, state, bytes =>
    match step state bytes with
    | .read text state length => (switchAll step fuel state (bytes.drop length)).map (text ++ ·)
    | .wrong length => (switchAll step fuel state (bytes.drop length)).map (replacement :: ·)
    | .unfinished => if bytes.length ≤ 8 then some [replacement] else none

inductive CodedSet
  | ascii
  | roman
  | kana
  | latin
  | greek
  | jis
  | jisMore
  | chinese
  | korean
  | newJis (edition : Edition)
  | secondJis
  deriving DecidableEq, Repr

namespace CodedSet

def width : CodedSet → Nat
  | ascii | roman | kana | latin | greek => 1
  | _ => 2

def placed? (char? : Nat → Nat → Option (List Char)) (a b : Nat) : Option (List Char) :=
  if a < 0x21 ∨ b < 0x21 ∨ 0x7e < b then none else char? (a - 0x20) (b - 0x20)

def planeText? (p : Plane) : Nat → Nat → Option (List Char) :=
  placed? fun row column => (p.char? row column).map ([·])

def text? : CodedSet → Nat → Nat → Option (List Char)
  | roman, a, _ => some [if a = 0x5c then '¥' else if a = 0x7e then '‾' else Char.ofNat a]
  | kana, a, _ => (narrowKana? (a + 0x80)).map ([·])
  | jis, a, b => planeText? jisPlane a b
  | jisMore, a, b => planeText? jisMorePlane a b
  | chinese, a, b => planeText? gbPlane a b
  | korean, a, b => planeText? ksPlane a b
  | newJis edition, a, b =>
    if a = 0x22 ∧ b = 0x32 then some ['~'] else placed? (newJis? edition) a b
  | secondJis, a, b =>
    placed? (fun row column => (secondJis? .second row column).map ([·])) a b
  | _, _, _ => none

def upperText? (set : CodedSet) (a : Nat) : Option Char :=
  match set with
  | ascii => if a < 0x80 then some (Char.ofNat a) else none
  | latin => if a < 0x80 then some (Char.ofNat (a + 0x80)) else none
  | greek => if 0x80 ≤ a then some (Char.ofNat (a - 0x80)) else greekChar? (a + 0x80)
  | _ => none
where
  greekChar? (b : Nat) : Option Char :=
    if [0xa4, 0xa5, 0xaa, 0xae, 0xd2, 0xff].contains b then none
    else if b = 0xa1 then some '‘'
    else if b = 0xa2 then some '’'
    else if b = 0xaf then some '―'
    else if 0xb4 ≤ b ∧ b ≠ 0xb7 ∧ b ≠ 0xbb ∧ b ≠ 0xbd then some (Char.ofNat (b + 0x2d0))
    else some (Char.ofNat b)

end CodedSet

structure EscapeRules where
  sets : List (Bool × Char × CodedSet)
  shifts : Bool := false
  third : Bool := false
  announces : Bool := false
  deriving DecidableEq, Repr

structure EscapeState where
  first : CodedSet := .ascii
  second : CodedSet := .ascii
  third : CodedSet := .ascii
  shifted : Bool := false
  foreign : Bool := false

def isEscapeEnd (b : UInt8) : Bool := (65 ≤ b && b ≤ 90) || b = 64

-- How long an escape is: it ends with a capital, and in the first sixteen bytes. The result is
-- none if the bytes end before, and zero if there is no end.
def escapeLength? (announces : Bool) : Nat → List UInt8 → Option Nat
  | 0, _ => some 0
  | _ + 1, [] => none
  | left + 1, b :: rest =>
    if isEscapeEnd b then some (16 - left)
    else if announces && b = 38 && rest.head? == some 64 then
      escapeLength? announces (left - 2) (rest.drop 2)
    else escapeLength? announces left rest
termination_by left _ => left

namespace EscapeRules

def find? (rules : EscapeRules) (wide : Bool) (letter : Char) : Option CodedSet :=
  if !wide && letter = 'B' then some .ascii
  else (rules.sets.find? fun (w, l, _) => w == wide && l == letter).map (·.2.2)

def designate? (rules : EscapeRules) (state : EscapeState) (escape : List Char) :
    Option EscapeState :=
  match escape with
  | [_, '$', letter] | [_, '$', '(', letter] =>
    (rules.find? true letter).map fun set => { state with first := set }
  | [_, '(', letter] => (rules.find? false letter).map fun set => { state with first := set }
  | [_, ')', letter] => (rules.find? false letter).map fun set => { state with second := set }
  | [_, '$', ')', letter] => (rules.find? true letter).map fun set => { state with second := set }
  | [_, '.', letter] =>
    if rules.third then (rules.find? false letter).map fun set => { state with third := set }
    else none
  | [_, _, _, '\x1b', '$', 'B'] =>
    if rules.announces then (rules.find? true 'B').map fun set => { state with first := set }
    else none
  | _ => none

def escape (rules : EscapeRules) (state : EscapeState) (bytes : List UInt8) :
    Switch EscapeState :=
  match escapeLength? rules.announces 15 (bytes.drop 1) with
  | none => .unfinished
  | some 0 => .wrong 1
  | some length =>
    match rules.designate? state ((bytes.take length).map fun b => Char.ofNat b.toNat) with
    | some state => .read [] state length
    | none => .wrong length

def single (state : EscapeState) : List UInt8 → Switch EscapeState
  | _ :: _ :: b :: _ =>
    match state.third.upperText? b.toNat with
    | some c => .read [c] state 3
    | none => .wrong 3
  | _ => .unfinished

def character (state : EscapeState) (b : UInt8) (rest : List UInt8) : Switch EscapeState :=
  let set := if state.shifted then state.second else state.first
  if set = .ascii then .read [Char.ofNat b.toNat] state 1
  else if rest.length + 1 < set.width then .unfinished
  else
    match set.text? b.toNat (rest.headD 0).toNat with
    | some text => .read text state set.width
    | none => .wrong set.width

-- What is no escape of these rules is text up to its end. A line ends a shift.
def step (rules : EscapeRules) (state : EscapeState) : List UInt8 → Switch EscapeState
  | [] => .unfinished
  | b :: rest =>
    let c := Char.ofNat b.toNat
    if state.foreign then .read [c] { state with foreign := !isEscapeEnd b } 1
    else if c = '\x1b' then
      match rest.head?.map fun b => Char.ofNat b.toNat with
      | none => .unfinished
      | some next =>
        if ['(', ')', '$', '.', '&'].contains next then rules.escape state (b :: rest)
        else if rules.third && next = 'N' then single state (b :: rest)
        else .read [c] { state with foreign := true } 1
    else if rules.shifts && c = '\x0e' then .read [] { state with shifted := true } 1
    else if rules.shifts && c = '\x0f' then .read [] { state with shifted := false } 1
    else if c = '\n' then .read [c] { state with shifted := false } 1
    else if b < 0x20 then .read [c] state 1
    else if 0x80 ≤ b then .wrong 1
    else character state b rest

def decode? (rules : EscapeRules) (bytes : List UInt8) : Option (List Char) :=
  switchAll rules.step bytes.length {} bytes

end EscapeRules

def tildeStep (chinese : Bool) : List UInt8 → Switch Bool
  | [] => .unfinished
  | 126 :: rest =>
    match rest.head?.map fun b => Char.ofNat b.toNat with
    | none => .unfinished
    | some '~' => if chinese then .wrong 1 else .read ['~'] false 2
    | some '\x7b' => if chinese then .wrong 1 else .read [] true 2
    | some '\n' => if chinese then .wrong 1 else .read [] false 2
    | some '\x7d' => if chinese then .read [] false 2 else .wrong 1
    | some _ => .wrong 1
  | b :: rest =>
    if 0x80 ≤ b then .wrong 1
    else if !chinese then .read [Char.ofNat b.toNat] false 1
    else
      match rest with
      | [] => .unfinished
      | next :: _ =>
        match CodedSet.text? .chinese b.toNat next.toNat with
        | some text => .read text true 2
        | none => .wrong 1

def decodeTildes? (bytes : List UInt8) : Option (List Char) :=
  switchAll tildeStep bytes.length false bytes

end ApiCatalog.Text
