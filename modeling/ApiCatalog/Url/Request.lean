import ApiCatalog.Text.Casing
import ApiCatalog.Url.Host
import ApiCatalog.Url.Label

set_option autoImplicit false

namespace ApiCatalog.Url

inductive RequestFault
  | malformed
  | label (fault : LabelFault)
  deriving DecidableEq, Repr

def maxLength : Nat := 65536

def isControl (c : Char) : Bool := c.toNat < 0x20 || c.toNat == 0x7f

def authority (url : String) : List Char :=
  let authority := ((url.toList.dropWhile (· != '/')).drop 2).takeWhile (!endsHost ·)
  (authority.reverse.takeWhile (· != '@')).reverse

def splitHost (authority : List Char) : List Char × List Char :=
  let host :=
    if authority.head? == some '[' && authority.contains ']' then
      (authority.reverse.dropWhile (· != ']')).reverse
    else authority.takeWhile (· != ':')
  match authority.drop host.length with
  | ':' :: number => (host, number)
  | number => (host, number)

def looksDotted (host : List Char) : Bool :=
  let groups := host.splitOnP (!·.isDigit)
  let spare := groups.foldl (fun n group => n + (group.length - 1) / 2) 0
  groups.all (!·.isEmpty) && groups.length ≤ 4 && 4 - groups.length ≤ spare

def looksBracketed (host : List Char) : Bool :=
  host.head? == some '[' && host.getLast? == some ']' && 1 < host.length

-- A host that looks like a network address has to be one. Any other is a name, of which ASCII
-- is taken as it is.
def isRequestHost (host : List Char) : Bool :=
  if host.isEmpty then true
  else if looksDotted host then isDotted host
  else if looksBracketed host then isScopedAddress (host.drop 1).dropLast
  else if host.all fun c => c.toNat < 128 then true
  else isSendableName (Text.lower (String.ofList host)).toList

def isHostNumber (number : List Char) : Bool :=
  number.isEmpty || (Number.readInteger? (String.ofList number)).isSome

-- The name of a host is looked up if its first label has the mark.
def checkHostName (host : List Char) : Except RequestFault Unit :=
  let name := host.map Char.toLower
  if Label.asciiMark.isPrefixOf name then (checkName name).mapError .label else .ok ()

def checkRequest (url : String) : Except RequestFault Unit :=
  let (host, number) := splitHost (authority url)
  if maxLength < url.length || url.toList.any isControl then .error .malformed
  else if !isRequestHost host || !isHostNumber number then .error .malformed
  else checkHostName host

end ApiCatalog.Url
