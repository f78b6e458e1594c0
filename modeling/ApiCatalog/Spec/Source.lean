import ApiCatalog.Files.Disk
import ApiCatalog.Spec.Convert
import ApiCatalog.Text.Basic
import ApiCatalog.Url.Host

set_option autoImplicit false

namespace ApiCatalog.Spec

def Hint.ofSuffix (suffix : String) : Hint :=
  match String.ofList ((Text.lower suffix).toList.dropWhile (· == '.')) with
  | "json" => .json
  | "yaml" | "yml" => .yaml
  | _ => .none

def ofFile (disk : Disk) (yaml : YamlReader) (path : PathName) : Except SpecFailure Entries := do
  let isFile ← (disk.isFile path).mapError .crashed
  if !isFile then .error (.reported (.fileNotFound path.toText))
  else
    match disk.readText path with
    | .error e => .error (.reported (.unreadable path.toText (e.message path)))
    | .ok content =>
      if (Text.trim content.toList).isEmpty then .error (.reported (.emptyFile path.toText))
      else decode yaml (.ofSuffix path.suffix) content

def mentions (part : String) : List Char → Bool
  | [] => part.isEmpty
  | c :: rest => part.toList.isPrefixOf (c :: rest) || mentions part rest

-- The declared type of the content decides; if it tells nothing, the suffix of the address.
def hintOfReply (url : String) (reply : Reply) : Except SpecFailure Hint :=
  let type := reply.contentType.toList
  if mentions "yaml" type || mentions "yml" type then .ok .yaml
  else if mentions "json" type then .ok .json
  else if Url.isValidHost (Url.host url) then
    .ok (.ofSuffix (PathName.ofText (Url.path url)).suffix)
  else .error (.crashed .invalidHost)

def ofReply (yaml : YamlReader) (url : String) :
    Except FetchFault Reply → Except SpecFailure Entries
  | .error (.status code) => .error (.reported (.status code url))
  | .error (.transport detail) => .error (.reported (.unreachable url detail))
  | .error (.crashed crash) => .error (.crashed crash)
  | .ok reply => do
    let hint ← hintOfReply url reply
    decode yaml hint (← reply.text.mapError .crashed)

def ofUrl (externals : Externals) (timeout : Binary64) (url : String) :
    Asked (Except SpecFailure Entries) :=
  (externals.ask { url, timeout, followsRedirects := true }).map (ofReply externals.yaml url)

def ofSource (disk : Disk) (externals : Externals) (timeout : Binary64) (source : String) :
    Asked (Except SpecFailure Entries) :=
  if Url.isUrl source then ofUrl externals timeout source
  else .silent (ofFile disk externals.yaml (.ofText source))

def documentOfFile (disk : Disk) (externals : Externals) (path : PathName) :
    Converted Document := do
  toDocument externals.conversions.text (← ofFile disk externals.yaml path)

def documentOfUrl (externals : Externals) (timeout : Binary64) (url : String) :
    Asked (Converted Document) :=
  (ofUrl externals timeout url).map fun spec => do
    toDocument externals.conversions.text (← spec)

end ApiCatalog.Spec
