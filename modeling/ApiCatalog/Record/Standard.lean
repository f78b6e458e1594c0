import ApiCatalog.Number.Literal
import ApiCatalog.Record

set_option autoImplicit false

namespace ApiCatalog

namespace Value

def checkText : Value → Checked String
  | .scalar (.text s) => .ok s
  | value@(.scalar (.bytes b)) =>
    match String.fromUTF8? (ByteArray.mk b.toArray) with
    | some s => .ok s
    | none => .fail .notUnicode value
  | value => .fail .notText value

def flagOfWord? (word : String) : Option Bool :=
  let word := String.ofList (word.toList.map Char.toLower)
  if ["0", "f", "n", "no", "off", "false"].contains word then some false
  else if ["1", "t", "y", "on", "yes", "true"].contains word then some true
  else none

def flagOfInt (n : Int) : Except IssueKind Bool :=
  if n = 0 then .ok false
  else if n = 1 then .ok true
  else if -0x8000000000000000 ≤ n ∧ n < 0x8000000000000000 then .error .unreadableFlag
  else .error .notFlag

def flagOfFloat (x : Binary64) : Except IssueKind Bool :=
  match x.toInt? with
  | some n => if n = -0x8000000000000000 then .error .notFlag else flagOfInt n
  | none => .error .notFlag

def flagOfScalar : Scalar → Except IssueKind Bool
  | .bool b => .ok b
  | .int n => flagOfInt n
  | .float x => flagOfFloat x
  | .text s => (flagOfWord? s).elim (.error .unreadableFlag) .ok
  | _ => .error .notFlag

-- Truth values, the numbers 0 and 1 and the usual words for yes and no.
def checkFlag : Value → Checked Bool
  | .scalar s =>
    match flagOfScalar s with
    | .ok b => .ok b
    | .error kind => .fail kind (.scalar s)
  | value => .fail .notFlag value

def numberOfScalar : Scalar → Except IssueKind Binary64
  | .bool b => .ok (.ofRatio false (if b then 1 else 0) 1)
  | .int n => (Binary64.ofInt? n).elim (.error .notNumber) .ok
  | .float x => .ok x
  | .text s => (Number.readAscii? s).elim (.error .unreadableNumber) .ok
  | _ => .error .notNumber

def checkNumber : Value → Checked Binary64
  | .scalar s =>
    match numberOfScalar s with
    | .ok x => .ok x
    | .error kind => .fail kind (.scalar s)
  | value => .fail .notNumber value

end Value

def Conversions.standard : Conversions where
  text := Value.checkText
  flag := Value.checkFlag
  number := Value.checkNumber

theorem Key.sizeOf_lt_of_find? {key : Key} {entries : Entries} {spelling : String} {value : Value}
    (found : key.find? entries = some (spelling, value)) : sizeOf value < sizeOf entries := by
  unfold Key.find? at found
  split at found
  · rename_i v outward
    simp only [Option.some.injEq, Prod.mk.injEq] at found
    exact found.2 ▸ Entries.sizeOf_lt_of_get? outward
  · simp only [Option.map_eq_some_iff, Prod.mk.injEq] at found
    obtain ⟨v, plain, -, rfl⟩ := found
    exact Entries.sizeOf_lt_of_get? plain

namespace RecordLibrary

def outwardName (name : String) : String :=
  camelCase ((name.toList.splitOn '_').map String.ofList)

section Dump

variable (spelling : Spelling)

mutual
def dumpItem : Item → Value
  | .scalar s => .scalar s
  | .choice name => .text name
  | .list items => .list (dumpItems items)
  | .record _ members => .mapping (dumpMembers members)

def dumpItems : List Item → List Value
  | [] => []
  | item :: rest => dumpItem item :: dumpItems rest

def dumpMembers : List (String × Item) → Entries
  | [] => []
  | (name, item) :: rest =>
    if spelling.keepsAbsent || !item.isNull then
      (.text (if spelling.isOutward then outwardName name else name), dumpItem item) ::
        dumpMembers rest
    else dumpMembers rest
end

end Dump

def kindLabel : Plain → String
  | .text | .strictText => "str"
  | .flag | .strictFlag => "bool"
  | .number => "float"
  | .count => "int"

def checkPlain (kind : Plain) (value : Value) : Checked Item :=
  match kind, value with
  | .text, _ => Item.text <$> value.checkText
  | .flag, _ => Item.flag <$> value.checkFlag
  | .number, _ => (fun x => Item.scalar (.float x)) <$> value.checkNumber
  | .count, .scalar (.int n) => .ok (.scalar (.int n))
  | .count, _ => .fail .notNumber value
  | .strictText, .scalar (.text s) => .ok (.text s)
  | .strictText, _ => .fail .notText value
  | .strictFlag, .scalar (.bool b) => .ok (.flag b)
  | .strictFlag, _ => .fail .notFlag value

def checkKinds (kinds : List Plain) (value : Value) : Checked Item :=
  match kinds.findSome? fun kind => (checkPlain kind value).value? with
  | some item => .ok item
  | none =>
    .bad (kinds.flatMap fun kind => ((checkPlain kind value).within (kindLabel kind)).issues)

def checkUnion (kinds : List Plain) (value : Value) : Checked Item :=
  match value with
  | .scalar s =>
    match kinds.find? (·.isExact s) with
    | some kind => checkPlain kind value
    | none => checkKinds kinds value
  | _ => checkKinds kinds value

def checkChoice (names : List String) (value : Value) : Checked Item :=
  match value with
  | .scalar (.text name) => if name ∈ names then .ok (.choice name) else .fail .notChoice value
  | _ => .fail .notChoice value

mutual
def checkShape (shape : Shape) (value : Value) : Checked Item :=
  match shape with
  | .plain kind => checkPlain kind value
  | .union kinds => checkUnion kinds value
  | .choice names => checkChoice names value
  | .optional shape => if value matches .scalar .null then .ok .null else checkShape shape value
  | .list shape =>
    match value with
    | .list values => Item.list <$> checkItemsFrom shape 0 values
    | _ => .fail .notList value
  | .record name =>
    match value with
    | .mapping entries => Item.of name <$> checkMembers name.members entries
    | _ => .fail .notRecord value
termination_by (sizeOf value, sizeOf shape)

def checkItemsFrom (shape : Shape) (i : Nat) (values : List Value) : Checked (List Item) :=
  match values with
  | [] => .ok []
  | value :: rest =>
    List.cons <$> (checkShape shape value).within (toString i) <*> checkItemsFrom shape (i + 1) rest
termination_by (sizeOf values, sizeOf shape)

def checkMembers (members : List Member) (entries : Entries) : Checked (List Item) :=
  match members with
  | [] => .ok []
  | m :: rest =>
    List.cons <$>
      (match found : (Key.mk (outwardName m.name) m.name).find? entries with
        | some (spelling, value) =>
          have := Key.sizeOf_lt_of_find? found
          (checkShape m.shape value).within spelling
        | none =>
          match m.default with
          | some item => .ok item
          | none => .bad [⟨[outwardName m.name], .missing, .mapping entries⟩])
      <*> checkMembers rest entries
termination_by (sizeOf entries, sizeOf members)
end

end RecordLibrary

def RecordLibrary.standard : RecordLibrary where
  outward := outwardName
  dump := dumpItem
  check := checkShape

end ApiCatalog
