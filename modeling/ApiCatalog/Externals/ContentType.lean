import ApiCatalog.Number.Literal
import ApiCatalog.Text.Casing
import ApiCatalog.Text.Charset

/-!
The charset that a content type names. After the type come parameters, each with its value. A long
value may be given in numbered parts, and a part whose name ends in a star has characters by their
codes; if there is one, two quotes end the description of the value in front.
-/

set_option autoImplicit false

namespace ApiCatalog.ContentType

open Text

def partsFrom : Bool → Char → List Char → List Char → List (List Char)
  | _, _, part, [] => [part.reverse]
  | quoted, previous, part, c :: rest =>
    if c = ';' ∧ !quoted then part.reverse :: partsFrom false ' ' [] rest
    else
      let toggles := c == '"' && previous != '\\'
      partsFrom (if toggles then !quoted else quoted) c (c :: part) rest

def parameter (part : List Char) : String × List Char :=
  let name := part.takeWhile (· != '=')
  (lower (String.ofList (trim name)), trim (part.drop (name.length + 1)))

def parameters (contentType : String) : List (String × List Char) :=
  (partsFrom false ' ' [] contentType.toList).map parameter

def unquote : List Char → List Char
  | '"' :: rest => if rest.getLast? = some '"' then rest.dropLast else '"' :: rest
  | '<' :: rest => if rest.getLast? = some '>' then rest.dropLast else '<' :: rest
  | cs => cs

def decodePercents : List Char → List Char
  | '%' :: a :: b :: rest =>
    match Number.hexDigit? a, Number.hexDigit? b with
    | some high, some low => Char.ofNat (16 * high + low) :: decodePercents rest
    | _, _ => '%' :: decodePercents (a :: b :: rest)
  | c :: rest => c :: decodePercents rest
  | [] => []

structure ValuePart where
  number : Nat
  coded : Bool
  text : List Char

def valuePart? : String × List Char → Option ValuePart
  | (name, value) =>
    if !"charset*".toList.isPrefixOf name.toList then none
    else
      let rest := name.toList.drop 8
      let digits := rest.takeWhile Char.isDigit
      let number := Number.natOfDigits digits
      match digits, rest.drop digits.length with
      | [], [] => some ⟨number, true, unquote value⟩
      | _ :: _, [] => some ⟨number, false, unquote value⟩
      | _ :: _, ['*'] => some ⟨number, true, unquote value⟩
      | _, _ => none

def afterDescription (value : List Char) : List Char :=
  match value.splitOn '\'' with
  | _ :: _ :: first :: rest => ['\''].intercalate (first :: rest)
  | _ => value

def joinParts (parts : List ValuePart) : List Char :=
  let sorted := parts.mergeSort fun a b => a.number ≤ b.number
  let value := sorted.flatMap fun part =>
    if part.coded then decodePercents part.text else part.text
  if parts.any (·.coded) then afterDescription value else value

-- A charset as a whole comes before one in parts.
def charsetName? (contentType : String) : Option (List Char) :=
  let parameters := parameters contentType
  match parameters.lookup "charset", parameters.filterMap valuePart? with
  | some value, _ => some value
  | none, [] => none
  | none, parts => some (joinParts parts)

-- UTF-8 is the charset of what names none, or none that is known.
def charset (contentType : String) : Charset :=
  match charsetName? contentType with
  | some name =>
    if name.all fun c => c.toNat < 128 then (Charset.ofName? (String.ofList name)).getD .utf8
    else .utf8
  | none => .utf8

end ApiCatalog.ContentType
