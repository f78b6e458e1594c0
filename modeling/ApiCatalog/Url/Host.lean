import ApiCatalog.Number.Literal

/-!
Which hosts an address may have. A host in brackets is a network address: eight groups of
hexadecimal digits, where two colons in a row stand for one or more groups of zeros and the last
two groups may be written as four decimal numbers.
-/

set_option autoImplicit false

namespace ApiCatalog.Url

def isUrl (reference : String) : Bool :=
  "http://".toList.isPrefixOf reference.toList || "https://".toList.isPrefixOf reference.toList

-- Host and what follows it. Tabs and line ends inside an address do not count.
def afterScheme (url : String) : List Char :=
  ((url.toList.filter fun c => c != '\t' && c != '\n' && c != '\r').dropWhile (· != '/')).drop 2

def endsHost (c : Char) : Bool := c == '/' || c == '?' || c == '#'

def host (url : String) : List Char := (afterScheme url).takeWhile (!endsHost ·)

def dropParameters (path : List Char) : List Char :=
  let last := (path.reverse.takeWhile (· != '/')).reverse
  path.take (path.length - last.length) ++ last.takeWhile (· != ';')

def path (url : String) : String :=
  let rest := (afterScheme url).dropWhile (!endsHost ·)
  String.ofList (dropParameters ((rest.takeWhile (· != '#')).takeWhile (· != '?')))

def isHexDigit (c : Char) : Bool := (Number.hexDigit? c).isSome

def isGroup (group : List Char) : Bool :=
  !group.isEmpty && group.length ≤ 4 && group.all isHexDigit

def isOctet (digits : List Char) : Bool :=
  !digits.isEmpty && digits.length ≤ 3 && digits.all Char.isDigit &&
    (digits == ['0'] || digits.head? != some '0') && Number.natOfDigits digits ≤ 255

def isDotted (text : List Char) : Bool :=
  (text.splitOn '.').length == 4 && (text.splitOn '.').all isOctet

def groupCount? : List (List Char) → Option Nat
  | [] => some 0
  | [last] => if isGroup last then some 1 else if isDotted last then some 2 else none
  | group :: rest => if isGroup group then (groupCount? rest).map (· + 1) else none

def splitAtGap? : List Char → Option (List Char × List Char)
  | [] => none
  | ':' :: ':' :: rest => some ([], rest)
  | c :: rest => (splitAtGap? rest).map fun (before, after) => (c :: before, after)

def groups (text : List Char) : List (List Char) := if text.isEmpty then [] else text.splitOn ':'

def isAddress (text : List Char) : Bool :=
  match splitAtGap? text with
  | none => groupCount? (text.splitOn ':') == some 8
  | some (before, after) =>
    match groupCount? (groups after) with
    | some n => (groups before).all isGroup && (groups before).length + n ≤ 7
    | none => false

def isScopedAddress (text : List Char) : Bool :=
  isAddress (text.takeWhile (· != '%')) &&
    match text.dropWhile (· != '%') with
    | [] => true
    | _ :: scope => !scope.isEmpty && !scope.contains '%'

def isLaterAddress (text : List Char) : Bool :=
  let version := (text.drop 1).takeWhile isHexDigit
  !version.isEmpty &&
    match text.drop (version.length + 1) with
    | '.' :: _ :: _ => true
    | _ => false

def isBracketed (text : List Char) : Bool :=
  if text.head? == some 'v' then isLaterAddress text else isScopedAddress text

def lookalikes : List Char :=
  ['\u2047', '\u2048', '\u2049', '\u2100', '\u2101', '\u2105', '\u2106', '\u2a74', '\ufe13',
   '\ufe16', '\ufe55', '\ufe56', '\ufe5f', '\ufe6b', '\uff03', '\uff0f', '\uff1a', '\uff1f',
   '\uff20']

def isValidHost (host : List Char) : Bool :=
  !host.any lookalikes.contains &&
    match host.contains '[', host.contains ']' with
    | false, false => true
    | true, true => isBracketed (((host.dropWhile (· != '[')).drop 1).takeWhile (· != ']'))
    | _, _ => false

end ApiCatalog.Url
