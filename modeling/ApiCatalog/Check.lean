import ApiCatalog.Data.Value

set_option autoImplicit false

namespace ApiCatalog

inductive IssueKind
  | missing
  | notText
  | notUnicode
  | notFlag
  | unreadableFlag
  | notNumber
  | unreadableNumber
  | notList
  | notRecord
  | notChoice
  deriving DecidableEq, Repr

-- `location` leads from the outermost record to the part, which is `input`.
structure Issue where
  location : List String
  kind : IssueKind
  input : Value
  deriving Repr

inductive Checked (α : Type)
  | ok (value : α)
  | bad (issues : List Issue)

namespace Checked

def issues {α : Type} : Checked α → List Issue
  | ok _ => []
  | bad issues => issues

def value? {α : Type} : Checked α → Option α
  | ok value => some value
  | bad _ => none

def map {α β : Type} (f : α → β) : Checked α → Checked β
  | ok a => ok (f a)
  | bad issues => bad issues

def apply {α β : Type} : Checked (α → β) → Checked α → Checked β
  | ok f, ok a => ok (f a)
  | f, a => bad (f.issues ++ a.issues)

instance : Applicative Checked where
  pure := ok
  seq f a := apply f (a ())

def fail {α : Type} (kind : IssueKind) (input : Value) : Checked α := bad [⟨[], kind, input⟩]

def within {α : Type} (part : String) : Checked α → Checked α
  | ok a => ok a
  | bad issues => bad (issues.map fun i => { i with location := part :: i.location })

end Checked

/-- What reads the members of a record that hold a text, a truth value or a number. Values of other
kinds may be converted. -/
structure Conversions where
  text : Value → Checked String
  flag : Value → Checked Bool
  number : Value → Checked Binary64

-- The name of a member of a record, in outward and in plain spelling. Either is understood, and
-- the outward one goes first.
structure Key where
  outward : String
  plain : String
  deriving DecidableEq, Repr

namespace Key

def word (name : String) : Key := ⟨name, name⟩

def find? (key : Key) (entries : Entries) : Option (String × Value) :=
  match Entries.get? key.outward entries with
  | some value => some (key.outward, value)
  | none => (Entries.get? key.plain entries).map (key.plain, ·)

variable {α : Type}

def withDefault (key : Key) (default : α) (check : Value → Checked α) (entries : Entries) :
    Checked α :=
  match key.find? entries with
  | some (spelling, value) => (check value).within spelling
  | none => .ok default

def orNull (check : Value → Checked α) : Value → Checked (Option α)
  | .scalar .null => .ok none
  | value => (check value).map some

end Key

end ApiCatalog
