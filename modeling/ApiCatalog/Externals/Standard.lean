import ApiCatalog.Externals
import ApiCatalog.Externals.ContentType
import ApiCatalog.Record.Standard
import ApiCatalog.Url.Request
import ApiCatalog.Yaml.Load

set_option autoImplicit false

namespace ApiCatalog

def Url.RequestFault.name : Url.RequestFault → String
  | .malformed => "malformed address"
  | .label .form => "label of no form"
  | .label .character => "label with a foreign character"
  | .label .context => "label with a character out of context"
  | .label .direction => "label of two directions"

def Text.CharsetFault.name : Text.CharsetFault → String
  | .packing => "packed charset"
  | .hiding => "hidden charset"
  | .undefined => "undefined charset"
  | .unmarked => "charset without a mark"
  | .unfinished => "unfinished charset"
  | .digits => "charset with wrong digits"

def Yaml.Fault.name : Yaml.Fault → String
  | .malformed => "YAML"
  | .codePoint => "YAML code point"
  | .hugeCodePoint => "huge YAML code point"
  | .number => "YAML number"
  | .emptyNumber => "empty YAML number"
  | .hugeNumber => "huge YAML number"
  | .flag => "YAML flag"
  | .date => "YAML date"
  | .timestamp => "YAML timestamp"
  | .notText => "YAML text"
  | .endless => "endless YAML"

-- What is at an address. The body comes in UTF-8, whatever the content type says.
structure Page where
  status : Int := 200
  contentType : String := ""
  body : String := ""
  deriving DecidableEq, Repr

namespace Page

def isSuccess (page : Page) : Bool := 200 ≤ page.status && page.status < 300

def hasAsciiHeader (page : Page) : Bool := page.contentType.toList.all fun c => c.toNat < 128

def text (page : Page) : Except Crash String :=
  match (ContentType.charset page.contentType).reread page.body with
  | .ok chars => .ok (String.ofList chars)
  | .error fault => .error (.foreign fault.name)

def reply (page : Page) : Except FetchFault Reply :=
  if !page.hasAsciiHeader then .error (.crashed (.foreign "header"))
  else if page.isSuccess then .ok { contentType := page.contentType, text := page.text }
  else .error (.status page.status)

end Page

-- A network that consists of a few pages, and of addresses that cannot be reached.
abbrev Remote := List (String × Except String Page)

namespace Externals

def fetchFrom (remote : Remote) (request : Request) : Except FetchFault Reply :=
  match Url.checkRequest request.url with
  | .error fault => .error (.crashed (.foreign fault.name))
  | .ok () =>
    match (remote.lookup request.url).getD (.error "connection refused") with
    | .error detail => .error (.transport detail)
    | .ok page => page.reply

def readYaml : YamlReader := fun text =>
  match Yaml.load text with
  | .ok value => .ok value
  | .error .malformed => .error (.malformed "not YAML")
  | .error fault => .error (.crashed (.foreign fault.name))

def explainKind : IssueKind → String
  | .missing => "Field required"
  | .notText => "Input should be a valid string"
  | .notUnicode => "Input should be a valid string, unable to parse raw data as a unicode string"
  | .notFlag => "Input should be a valid boolean"
  | .unreadableFlag => "Input should be a valid boolean, unable to interpret input"
  | .notNumber => "Input should be a valid number"
  | .unreadableNumber => "Input should be a valid number, unable to parse string as a number"
  | .notList => "Input should be a valid list"
  | .notRecord => "Input should be a valid dictionary or instance of a record"
  | .notChoice => "Input should be one of the choices"

def explainIssue (issue : Issue) : String :=
  "\n" ++ ".".intercalate issue.location ++ "\n  " ++ explainKind issue.kind

-- One line for the record, and two for each member.
def explainIssues (title : String) (issues : List Issue) : String :=
  let errors := if issues.length = 1 then "error" else "errors"
  s!"{issues.length} validation {errors} for {title}" ++ String.join (issues.map explainIssue)

def standard (remote : Remote) : Externals where
  fetch := fetchFrom remote
  yaml := readYaml
  conversions := .standard
  explain := explainIssues

end Externals

end ApiCatalog
