set_option autoImplicit false

/-!
Which kind of scalar a plain text denotes. Each kind is a small pattern on the whole text.
-/

namespace ApiCatalog.Yaml

inductive Tag
  | null
  | bool
  | int
  | float
  | binary
  | timestamp
  | text
  | sequence
  | mapping
  | orderedMapping
  | pairs
  | set
  | merge
  | value
  | other (name : String)
  deriving DecidableEq

def Tag.isCollection : Tag → Bool
  | .sequence | .mapping | .set | .orderedMapping | .pairs => true
  | _ => false

def Tag.isScalar : Tag → Bool
  | .null | .bool | .int | .float | .binary | .timestamp | .text => true
  | _ => false

def Tag.standard : String → Option Tag
  | "null" => some .null
  | "bool" => some .bool
  | "int" => some .int
  | "float" => some .float
  | "binary" => some .binary
  | "timestamp" => some .timestamp
  | "str" => some .text
  | "seq" => some .sequence
  | "map" => some .mapping
  | "omap" => some .orderedMapping
  | "pairs" => some .pairs
  | "set" => some .set
  | "merge" => some .merge
  | "value" => some .value
  | _ => none

def standardAddress : String := "tag:yaml.org,2002:"

def Tag.ofName (name : String) : Tag :=
  match name.dropPrefix? standardAddress with
  | some short => (Tag.standard short.toString).getD (.other name)
  | none => .other name

abbrev Pattern := List Char → List (List Char)

namespace Pattern

def one (p : Char → Bool) : Pattern
  | c :: rest => if p c then [rest] else []
  | [] => []

def char (c : Char) : Pattern := one (· == c)

def word (w : String) : Pattern := fun cs =>
  if w.toList.isPrefixOf cs then [cs.drop w.length] else []

def seq (patterns : List Pattern) : Pattern := fun cs =>
  patterns.foldl (fun rests p => rests.flatMap p) [cs]

def alt (patterns : List Pattern) : Pattern := fun cs => patterns.flatMap (· cs)

def maybe (p : Pattern) : Pattern := fun cs => cs :: p cs

-- The longest run; nothing that the patterns here put after a run could also end it.
def run (p : Char → Bool) : Pattern := fun cs => [cs.dropWhile p]

def run1 (p : Char → Bool) : Pattern := seq [one p, run p]

def repeatFrom (p : Pattern) : Nat → Pattern
  | 0, _ => []
  | fuel + 1, cs => (p cs).flatMap fun rest => rest :: repeatFrom p fuel rest

def some_ (p : Pattern) : Pattern := fun cs => repeatFrom p cs.length cs

def matchesAll (p : Pattern) (cs : List Char) : Bool := (p cs).any List.isEmpty

def isDigitOr (c : Char) : Bool := c.isDigit || c == '_'

def sign : Pattern := maybe (one fun c => c == '-' || c == '+')

def digit : Pattern := one Char.isDigit

def nonzero : Pattern := one fun c => c.isDigit && c != '0'

def sixty : Pattern := seq [char ':', maybe (one fun c => '0' ≤ c && c ≤ '5'), digit]

def int : Pattern :=
  alt
    [seq [sign, word "0b", run1 fun c => c == '0' || c == '1' || c == '_'],
     seq [sign, char '0', run1 fun c => ('0' ≤ c && c ≤ '7') || c == '_'],
     seq [sign, char '0'],
     seq [sign, nonzero, run isDigitOr],
     seq [sign, word "0x",
       run1 fun c => isDigitOr c || ('a' ≤ c && c ≤ 'f') || ('A' ≤ c && c ≤ 'F')],
     seq [sign, nonzero, run isDigitOr, some_ sixty]]

def exponent : Pattern :=
  maybe (seq [one fun c => c == 'e' || c == 'E', one fun c => c == '-' || c == '+',
    run1 Char.isDigit])

def float : Pattern :=
  alt
    [seq [sign, digit, run isDigitOr, char '.', run isDigitOr, exponent],
     seq [char '.', digit, run isDigitOr, exponent],
     seq [sign, digit, run isDigitOr, some_ sixty, char '.', run isDigitOr],
     seq [sign, char '.', alt [word "inf", word "Inf", word "INF"]],
     seq [char '.', alt [word "nan", word "NaN", word "NAN"]]]

def digits (n : Nat) : Pattern := seq (List.replicate n digit)

def oneOrTwo : Pattern := seq [digit, maybe digit]

def blanks : Char → Bool := fun c => c == ' ' || c == '\t'

def timestamp : Pattern :=
  alt
    [seq [digits 4, char '-', digits 2, char '-', digits 2],
     seq [digits 4, char '-', oneOrTwo, char '-', oneOrTwo,
       alt [one fun c => c == 'T' || c == 't', run1 blanks], oneOrTwo, char ':', digits 2, char ':',
       digits 2, maybe (seq [char '.', run Char.isDigit]),
       maybe (seq [run blanks, alt [char 'Z', seq [one fun c => c == '-' || c == '+', oneOrTwo,
         maybe (seq [char ':', digits 2])]]])]]

end Pattern

def flagWords : List (String × Bool) :=
  [("yes", true), ("Yes", true), ("YES", true), ("no", false), ("No", false), ("NO", false),
   ("true", true), ("True", true), ("TRUE", true), ("false", false), ("False", false),
   ("FALSE", false), ("on", true), ("On", true), ("ON", true), ("off", false), ("Off", false),
   ("OFF", false)]

def withoutLastBreak (text : String) : String :=
  match text.toList.reverse with
  | '\n' :: c :: rest => String.ofList (c :: rest).reverse
  | _ => text

def Tag.ofPlain (text : String) : Tag :=
  let text := withoutLastBreak text
  let cs := text.toList
  if (flagWords.lookup text).isSome then .bool
  else if Pattern.matchesAll Pattern.float cs then .float
  else if Pattern.matchesAll Pattern.int cs then .int
  else if text = "<<" then .merge
  else if ["", "~", "null", "Null", "NULL"].contains text then .null
  else if Pattern.matchesAll Pattern.timestamp cs then .timestamp
  else if text = "=" then .value
  else if ["!", "&", "*"].contains text then .other text
  else .text

end ApiCatalog.Yaml
