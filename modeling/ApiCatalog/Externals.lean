import ApiCatalog.Check

set_option autoImplicit false

namespace ApiCatalog

-- What no part of the program is prepared for. A fault of what others provide has a name.
inductive Crash
  | longInteger
  | hugeNumber
  | endless
  | longFileName
  | nullInPath
  | strayInPath
  | invalidHost
  | foreign (fault : String)
  deriving DecidableEq, Repr

inductive Failure (ε : Type)
  | reported (e : ε)
  | crashed (c : Crash)

inductive LogLevel
  | info
  | warning
  deriving DecidableEq, Repr

def LogLevel.name : LogLevel → String
  | info => "INFO"
  | warning => "WARNING"

structure LogRecord where
  level : LogLevel
  message : String
  deriving DecidableEq, Repr

-- How long a reply is waited for is in seconds, and it may be got from another address if
-- redirects are followed.
structure Request where
  url : String
  timeout : Binary64
  followsRedirects : Bool
  deriving DecidableEq, Repr

inductive FetchFault
  | status (code : Int)
  | transport (detail : String)
  | crashed (c : Crash)

-- The body is only read as text when it is wanted, and that may fail.
structure Reply where
  contentType : String := ""
  text : Except Crash String

inductive YamlFault
  | malformed (detail : String)
  | crashed (c : Crash)

abbrev YamlReader := String → Except YamlFault Value

/-- What the program leaves to others: asking the network, reading YAML and the members of records,
and putting into words what is wrong with the members of a record, given its title. -/
structure Externals where
  fetch : Request → Except FetchFault Reply
  yaml : YamlReader
  conversions : Conversions
  explain : String → List Issue → String

-- A result, and what was asked of the network for it.
structure Asked (α : Type) where
  requests : List Request
  result : α

namespace Asked

variable {α β : Type}

def silent (a : α) : Asked α := ⟨[], a⟩

def map (f : α → β) (asked : Asked α) : Asked β := ⟨asked.requests, f asked.result⟩

@[simp]
theorem requests_map (f : α → β) (asked : Asked α) : (asked.map f).requests = asked.requests := rfl

@[simp]
theorem result_map (f : α → β) (asked : Asked α) : (asked.map f).result = f asked.result := rfl

end Asked

def Externals.ask (externals : Externals) (request : Request) : Asked (Except FetchFault Reply) :=
  ⟨[request], externals.fetch request⟩

end ApiCatalog
