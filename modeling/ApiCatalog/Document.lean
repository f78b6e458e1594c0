import ApiCatalog.Number.Binary64

set_option autoImplicit false

namespace ApiCatalog

inductive FieldType
  | string
  | number
  | boolean
  | array
  | object
  deriving DecidableEq, Repr

inductive Literal
  | bool (b : Bool)
  | number (x : Binary64)
  | text (s : String)
  deriving DecidableEq, Repr

-- An ordered list of fields. Names may repeat; the later field then shadows the earlier one.
structure FieldBlock (F : Type) where
  fields : List F := []
  optional : Bool := false
  deriving BEq, Repr

structure Field where
  name : String
  type : FieldType := .string
  optional : Bool := false
  nested : Option (FieldBlock Field) := none
  mock : Option Literal := none
  sample : Option Literal := none
  comment : Option String := none
  isParameter : Bool := false
  deriving BEq, Repr

abbrev Schema := FieldBlock Field

structure Variable where
  name : String
  type : String := "String"
  default : Option String := none
  deriving DecidableEq, Repr

structure Header where
  name : String
  default : Option String := none
  deriving DecidableEq, Repr

-- The first base address is the one that endpoint addresses are built on.
structure Config where
  baseUrls : List String := []
  cors : Bool := false
  mock : Bool := false
  vars : List Variable := []
  headers : List Header := []
  deriving DecidableEq, Repr

structure Method where
  verb : String
  name : Option String := none
  description : Option String := none
  request : Option Schema := none
  response : Option Schema := none
  deriving BEq, Repr

structure Api where
  path : String
  methods : List Method := []
  deriving BEq, Repr

structure SocketEvent where
  name : String
  request : Option Schema := none
  response : Option Schema := none
  deriving BEq, Repr

structure Socket where
  url : String
  name : Option String := none
  description : Option String := none
  auth : Option Schema := none
  connectHeaders : Option Schema := none
  events : List SocketEvent := []
  deriving BEq, Repr

structure StreamEvent where
  name : String
  fields : List Field := []
  deriving BEq, Repr

structure EventStream where
  path : String
  name : Option String := none
  description : Option String := none
  request : Option Schema := none
  events : List StreamEvent := []
  deriving BEq, Repr

structure Category where
  id : String
  name : Option String := none
  description : Option String := none
  basePath : Option String := none
  apis : List Api := []
  sockets : List Socket := []
  eventSockets : List Socket := []
  streams : List EventStream := []
  children : List Category := []
  deriving BEq, Repr

/-- `imports` holds the references as they are written; resolving them empties the list. -/
structure Document where
  config : Option Config := none
  imports : List String := []
  apis : List Api := []
  sockets : List Socket := []
  eventSockets : List Socket := []
  streams : List EventStream := []
  categories : List Category := []
  deriving BEq, Repr

-- The first config wins, but takes base addresses from the next one if it has none itself.
def Config.merge : Option Config → Option Config → Option Config
  | none, other => other
  | some c, none => some c
  | some c, some other =>
    some { c with baseUrls := if c.baseUrls.isEmpty then other.baseUrls else c.baseUrls }

-- Puts the blocks of a second document behind those of the first. The imports of the second one
-- are dropped.
def Document.merge (d other : Document) : Document :=
  { d with
    config := Config.merge d.config other.config
    apis := d.apis ++ other.apis
    sockets := d.sockets ++ other.sockets
    eventSockets := d.eventSockets ++ other.eventSockets
    streams := d.streams ++ other.streams
    categories := d.categories ++ other.categories }

end ApiCatalog
