set_option autoImplicit false

namespace ApiCatalog.Cli

structure OptionSpec where
  name : String
  short : Option Char := none
  takesValue : Bool := false
  choices : Option (List String) := none
  isEager : Bool := false
  deriving DecidableEq, Repr

structure CommandSpec where
  options : List OptionSpec := []
  needed : List String := []
  commands : List String := []
  deriving DecidableEq, Repr

structure Occurrence where
  name : String
  value : String := ""
  deriving DecidableEq, Repr

structure Arguments where
  options : List Occurrence := []
  values : List String := []
  deriving DecidableEq, Repr

namespace Arguments

def withOptions (more : List Occurrence) (a : Arguments) : Arguments :=
  { a with options := more ++ a.options }

def has (a : Arguments) (name : String) : Bool := a.options.any (·.name == name)

def value? (a : Arguments) (name : String) : Option String :=
  (a.options.reverse.find? (·.name == name)).map (·.value)

end Arguments

inductive Detour
  | eager (option : String)
  | misused (detail : String)
  deriving DecidableEq, Repr

structure Parser where
  read : CommandSpec → List String → Except Detour Arguments

end ApiCatalog.Cli
