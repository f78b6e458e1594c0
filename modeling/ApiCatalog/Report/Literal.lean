import ApiCatalog.Report.Literal.Lexeme

/-!
Which texts are literals: numbers, texts, bytes, a few words, and tuples, sets and dictionaries of
literals. The members of a set and the keys of a dictionary have to be fixed values, so neither
sets nor dictionaries are among them.
-/

set_option autoImplicit false

namespace ApiCatalog.Literal

-- What has been read. The name of the type of sets is no value, but can be called.
inductive Kind
  | number (imaginary signed : Bool)
  | other (fixed : Bool)
  | setName
  deriving DecidableEq, Repr

namespace Kind

def isValue (k : Kind) : Bool := k != setName

def isFixed : Kind → Bool
  | number .. => true
  | other fixed => fixed
  | setName => false

def call : Kind × List Lexeme → Kind × List Lexeme
  | (setName, .mark '(' :: .mark ')' :: rest) => (other false, rest)
  | read => read

def sign? : Kind → Option Kind
  | number imaginary false => some (number imaginary true)
  | _ => none

def sum? : Kind → Kind → Option Kind
  | number false _, number true false => some (other true)
  | _, _ => none

end Kind

def isText : Lexeme → Bool
  | .text _ => true
  | _ => false

def isSign (lexeme : Lexeme) : Bool := lexeme == .mark '+' || lexeme == .mark '-'

-- Three calls read at least one lexeme: three times their number is fuel enough.
mutual
def readAtom : Nat → List Lexeme → Option (Kind × List Lexeme)
  | 0, _ => none
  | _ + 1, [] => none
  | fuel + 1, first :: rest =>
    match first with
    | .number imaginary => some (.number imaginary false, rest)
    | .text bytes =>
      if (rest.takeWhile isText).all (· == .text bytes) then
        some (.other true, rest.dropWhile isText)
      else none
    | .word "set" => some (Kind.call (.setName, rest))
    | .word _ => some (.other true, rest)
    | .mark '(' =>
      match rest with
      | .mark ')' :: rest => some (.other true, rest)
      | _ => readGroup fuel rest
    | .mark '\x7b' =>
      match rest with
      | .mark '\x7d' :: rest => some (.other false, rest)
      | _ => readMembers fuel rest
    | .mark _ => none

def readSum : Nat → List Lexeme → Option (Kind × List Lexeme)
  | 0, _ => none
  | fuel + 1, lexemes => do
    let signed := (lexemes.head?.map isSign).getD false
    let (left, rest) ← readAtom fuel (if signed then lexemes.drop 1 else lexemes)
    let left ← if signed then left.sign? else some left
    match rest with
    | first :: more =>
      if isSign first then
        let (right, rest) ← readAtom fuel more
        return (← left.sum? right, rest)
      else return (left, rest)
    | [] => return (left, rest)

def readMore (close : Char) : Nat → List Lexeme → Option (Bool × List Lexeme)
  | 0, _ => none
  | fuel + 1, lexemes =>
    match lexemes with
    | .mark ',' :: rest =>
      if rest.head? = some (.mark close) then some (true, rest.drop 1)
      else do
        let (item, rest) ← readSum fuel rest
        if !item.isValue then none
        else
          let (fixed, rest) ← readMore close fuel rest
          return (item.isFixed && fixed, rest)
    | .mark c :: rest => if c = close then some (true, rest) else none
    | _ => none

def readGroup : Nat → List Lexeme → Option (Kind × List Lexeme)
  | 0, _ => none
  | fuel + 1, lexemes => do
    let (first, rest) ← readSum fuel lexemes
    match rest with
    | .mark ')' :: rest => return Kind.call (first, rest)
    | _ =>
      let (fixed, rest) ← readMore ')' fuel rest
      if first.isValue then some (.other (first.isFixed && fixed), rest) else none

def readMembers : Nat → List Lexeme → Option (Kind × List Lexeme)
  | 0, _ => none
  | fuel + 1, lexemes => do
    let (first, rest) ← readSum fuel lexemes
    if !first.isFixed then none
    else
      match rest with
      | .mark ':' :: _ => return (.other false, ← readPairs fuel rest)
      | _ =>
        let (fixed, rest) ← readMore '\x7d' fuel rest
        if fixed then some (.other false, rest) else none

def readPairs : Nat → List Lexeme → Option (List Lexeme)
  | 0, _ => none
  | fuel + 1, lexemes =>
    match lexemes with
    | .mark ':' :: rest => do
      let (value, rest) ← readSum fuel rest
      match value.isValue, rest with
      | true, .mark '\x7d' :: rest => return rest
      | true, .mark ',' :: .mark '\x7d' :: rest => return rest
      | true, .mark ',' :: rest =>
        let (key, rest) ← readSum fuel rest
        if key.isFixed then readPairs fuel rest else none
      | _, _ => none
    | _ => none
end

def isLiteral (cs : List Char) : Bool :=
  match lexemes? cs with
  | none | some [] => false
  | some lexemes =>
    match readGroup (3 * lexemes.length + 3) (lexemes ++ [.mark ')']) with
    | some (kind, []) => kind.isValue
    | _ => false

end ApiCatalog.Literal
