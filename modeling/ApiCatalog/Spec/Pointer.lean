import ApiCatalog.Data.Value
import ApiCatalog.Number.Literal
import ApiCatalog.Spec.Decode

set_option autoImplicit false

namespace ApiCatalog.Spec

def decodeSlashes : List Char → List Char
  | '~' :: '1' :: rest => '/' :: decodeSlashes rest
  | c :: rest => c :: decodeSlashes rest
  | [] => []

def decodeTildes : List Char → List Char
  | '~' :: '0' :: rest => '~' :: decodeTildes rest
  | c :: rest => c :: decodeTildes rest
  | [] => []

def decodeSegment (cs : List Char) : List Char := decodeTildes (decodeSlashes cs)

def isInternal (reference : String) : Bool := "#/".toList.isPrefixOf reference.toList

def segments (reference : String) : List String :=
  ((reference.toList.drop 2).splitOn '/').map fun segment => String.ofList (decodeSegment segment)

-- Negative positions count from the end.
def itemAt? (items : List Value) (position : Int) : Option Value :=
  if position < 0 then
    if position + items.length < 0 then none else items[(position + items.length).toNat]?
  else items[position.toNat]?

-- A value and the collections around it, nearest first.
structure Place where
  value : Value
  around : List Value

def Place.enter (p : Place) : Value → Place
  | .again kind between =>
    match (p.value :: p.around).drop between with
    | value :: around => ⟨value, around⟩
    | [] => ⟨.again kind between, []⟩
  | value => ⟨value, p.value :: p.around⟩

def descend (reference : String) (current : Value) (segment : String) :
    Except SpecFailure Value :=
  match current with
  | .mapping entries =>
    match Entries.get? segment entries with
    | some value => .ok value
    | none => .error (.reported (.missingKey reference segment))
  | .list items =>
    match (Number.readInteger? segment).bind (itemAt? items) with
    | some value => .ok value
    | none => .error (.reported (.badIndex reference segment))
  | value => .error (.reported (.notContainer reference value.typeName))

def lookup (root : Value) (reference : String) : Except SpecFailure Value :=
  let place := (segments reference).foldlM (fun (place : Place) segment => do
    return place.enter (← descend reference place.value segment)) ⟨root, []⟩
  place.map (·.value)

end ApiCatalog.Spec
