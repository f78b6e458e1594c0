import ApiCatalog.Data.Moment
import ApiCatalog.Number.Binary64

set_option autoImplicit false

namespace ApiCatalog

inductive Scalar
  | null
  | bool (b : Bool)
  | int (n : Int)
  | float (x : Binary64)
  | text (s : String)
  | moment (m : Moment)
  | bytes (b : List UInt8)
  deriving DecidableEq, Repr

inductive Collection
  | list
  | tuple
  | mapping
  deriving DecidableEq, Repr

/-- Decoded data. A mapping keeps its entries in order of insertion. A collection that contains
itself is written out once, and `again` stands for it inside of it, with the number of collections
between them. -/
inductive Value
  | scalar (s : Scalar)
  | list (items : List Value)
  | tuple (items : List Value)
  | set (items : List Scalar)
  | mapping (entries : List (Scalar × Value))
  | again (kind : Collection) (between : Nat)
  deriving Repr, Inhabited

abbrev Entries := List (Scalar × Value)

namespace Scalar

def asInt? : Scalar → Option Int
  | bool b => some (if b then 1 else 0)
  | int n => some n
  | float x => x.toInt?
  | _ => none

def instant? : Scalar → Option Int
  | moment m => m.instant?
  | _ => none

def equalIn {α : Type} [BEq α] (measure : Scalar → Option α) (a b : Scalar) : Bool :=
  match measure a, measure b with
  | some m, some n => m == n
  | _, _ => false

-- Whether two scalars are the same key: numbers of different kinds are if they are equal, and
-- moments with an offset if they are the same point in time.
def sameKey (a b : Scalar) : Bool :=
  a == b || equalIn asInt? a b || equalIn instant? a b

-- A text is neither a number nor a moment, so it is the same key as itself only.
theorem sameKey_text (a : Scalar) (s : String) : a.sameKey (.text s) = (a == .text s) := by
  cases a <;> simp [sameKey, equalIn, asInt?, instant?]

-- Zero, the empty text and null are the scalars that count as false.
def isTruthy : Scalar → Bool
  | null => false
  | bool b => b
  | int n => n != 0
  | float x => !x.isZero
  | text s => s != ""
  | moment _ => true
  | bytes b => !b.isEmpty

def isFinite : Scalar → Bool
  | float x => x.isFinite
  | _ => true

def typeName : Scalar → String
  | null => "NoneType"
  | bool _ => "bool"
  | int _ => "int"
  | float _ => "float"
  | text _ => "str"
  | moment m => if m.time.isNone then "date" else "datetime"
  | bytes _ => "bytes"

-- The name of a type with that of the module that it comes from.
def className : Scalar → String
  | moment m => "datetime." ++ (moment m).typeName
  | s => s.typeName

end Scalar

namespace Entries

-- A key that is already there keeps its place and takes the new value.
def put {α : Type} (key : Scalar) (value : α) : List (Scalar × α) → List (Scalar × α)
  | [] => [(key, value)]
  | (k, v) :: rest => if k.sameKey key then (k, value) :: rest else (k, v) :: put key value rest

def ofPairs (pairs : List (Scalar × Value)) : Entries :=
  pairs.foldl (fun entries (key, value) => put key value entries) []

def get? (key : String) (entries : Entries) : Option Value :=
  (entries.find? fun (k, _) => k == .text key).map (·.2)

theorem sizeOf_lt_of_get? {key : String} {entries : Entries} {value : Value}
    (found : get? key entries = some value) : sizeOf value < sizeOf entries := by
  simp only [get?, Option.map_eq_some_iff] at found
  obtain ⟨⟨k, v⟩, found, rfl⟩ := found
  have := List.sizeOf_lt_of_mem (List.mem_of_find?_eq_some found)
  simp only [Prod.mk.sizeOf_spec] at this ⊢
  omega

theorem get?_cons (key : String) (k : Scalar) (value : Value) (rest : Entries) :
    get? key ((k, value) :: rest) = if k = .text key then some value else get? key rest := by
  by_cases same : k = .text key <;> simp [get?, same]

end Entries

namespace Value

abbrev null : Value := .scalar .null
abbrev bool (b : Bool) : Value := .scalar (.bool b)
abbrev int (n : Int) : Value := .scalar (.int n)
abbrev float (x : Binary64) : Value := .scalar (.float x)
abbrev text (s : String) : Value := .scalar (.text s)

def texts (items : List String) : Value := .list (items.map Value.text)

def isTruthy : Value → Bool
  | scalar s => s.isTruthy
  | list items | tuple items => !items.isEmpty
  | set items => !items.isEmpty
  | mapping entries => !entries.isEmpty
  | again _ _ => true

def typeName : Value → String
  | scalar s => s.typeName
  | list _ | again .list _ => "list"
  | tuple _ | again .tuple _ => "tuple"
  | set _ => "set"
  | mapping _ | again .mapping _ => "dict"

mutual
-- Whether a value can be compared with others as a key: scalars can, and tuples of such values.
def isKey : Value → Bool
  | scalar _ => true
  | tuple items => areKeys items
  | list _ | set _ | mapping _ | again _ _ => false

def areKeys : List Value → Bool
  | [] => true
  | item :: rest => isKey item && areKeys rest
end

def className : Value → String
  | scalar s => s.className
  | value => value.typeName

mutual
-- The type of the first part that keeps a value from being a key.
def unhashableType : Value → String
  | tuple items => unhashableTypeIn items
  | value => value.typeName

def unhashableTypeIn : List Value → String
  | [] => "tuple"
  | item :: rest => if isKey item then unhashableTypeIn rest else unhashableType item
end

mutual
def sameKey : Value → Value → Bool
  | scalar a, scalar b => a.sameKey b
  | tuple items, tuple others => sameKeys items others
  | _, _ => false

def sameKeys : List Value → List Value → Bool
  | [], [] => true
  | item :: rest, other :: others => sameKey item other && sameKeys rest others
  | _, _ => false
end

mutual
def isEndless : Value → Bool
  | scalar _ | set _ => false
  | list items | tuple items => anyEndless items
  | mapping entries => anyEntryEndless entries
  | again _ _ => true

def anyEndless : List Value → Bool
  | [] => false
  | item :: rest => isEndless item || anyEndless rest

def anyEntryEndless : Entries → Bool
  | [] => false
  | (_, value) :: rest => isEndless value || anyEntryEndless rest
end

end Value

end ApiCatalog
