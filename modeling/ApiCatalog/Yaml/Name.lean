import ApiCatalog.Json.Read
import ApiCatalog.Yaml.Source

set_option autoImplicit false

namespace ApiCatalog.Yaml

def isNameChar (c : Char) : Bool :=
  ('0' ≤ c && c ≤ '9') || ('A' ≤ c && c ≤ 'Z') || ('a' ≤ c && c ≤ 'z') || c == '-' || c == '_'

def isUriChar (c : Char) : Bool := isNameChar c || ";/?:@&=+$,.!~*'()[]".toList.contains c

structure TagName where
  handle : Option String
  suffix : String

def anchorName (s : Source) : Except Fault (String × Source) :=
  let name := s.rest.takeWhile isNameChar
  let s := s.skip name.length
  let c := s.peek
  if name.isEmpty || !(isBlankOrEnd c || "?:,]\x7d%@`".toList.contains c) then .error .malformed
  else .ok (String.ofList name, s)

def uriBytes : Nat → Source → List UInt8 → Except Fault (List UInt8 × Source)
  | 0, s, bytes => .ok (bytes, s)
  | fuel + 1, s, bytes =>
    if s.peek == '%' then
      match Number.hexDigit? (s.peekAt 1), Number.hexDigit? (s.peekAt 2) with
      | some a, some b => uriBytes fuel (s.skip 3) (bytes ++ [(16 * a + b).toUInt8])
      | _, _ => .error .malformed
    else .ok (bytes, s)

def uriFrom : Nat → Source → List Char → Except Fault (List Char × Source)
  | 0, s, read => .ok (read, s)
  | fuel + 1, s, read => do
    if s.peek == '%' then
      let (bytes, s) ← uriBytes (s.rest.length + 1) s []
      match String.fromUTF8? (ByteArray.mk bytes.toArray) with
      | some text => uriFrom fuel s (read ++ text.toList)
      | none => .error .malformed
    else
      let run := s.rest.takeWhile isUriChar
      if run.isEmpty then return (read, s) else uriFrom fuel (s.skip run.length) (read ++ run)

def uri (s : Source) : Except Fault (String × Source) := do
  let start := s.index
  let (read, s) ← uriFrom (s.rest.length + 1) s []
  if s.index == start then .error .malformed else return (String.ofList read, s)

def tagHandle (s : Source) : Except Fault (String × Source) :=
  if s.peek != '!' then .error .malformed
  else if s.peekAt 1 == ' ' then .ok ("!", s.next)
  else
    let name := s.next.rest.takeWhile isNameChar
    if s.peekAt (name.length + 1) == '!' then
      .ok (String.ofList ('!' :: name ++ ['!']), s.skip (name.length + 2))
    else .error .malformed

def hasHandle (s : Source) : Bool :=
  (s.rest.drop 1).takeWhile (!isSpaceOrEnd ·) |>.contains '!'

def tagName (s : Source) : Except Fault (TagName × Source) := do
  let (name, s) ←
    if s.peekAt 1 == '<' then
      let (suffix, s) ← uri (s.skip 2)
      if s.peek == '>' then pure (TagName.mk none suffix, s.next) else .error .malformed
    else if isBlankOrEnd (s.peekAt 1) then pure (TagName.mk none "!", s.next)
    else
      let (handle, s) ← if hasHandle s then tagHandle s else pure ("!", s.next)
      let (suffix, s) ← uri s
      pure (TagName.mk (some handle) suffix, s)
  if isSpaceOrEnd s.peek then return (name, s) else .error .malformed

inductive Directive
  | version (major : Nat)
  | tag (handle address : String)
  | other

def versionPart (s : Source) : Except Fault (Nat × Source) :=
  let digits := s.rest.takeWhile Char.isDigit
  if digits.isEmpty then .error .malformed
  else .ok (digits.foldl (fun n d => 10 * n + (d.toNat - 48)) 0, s.skip digits.length)

def versionDirective (s : Source) : Except Fault (Directive × Source) := do
  let (major, s) ← versionPart s.skipSpaces
  if s.peek != '.' then .error .malformed
  else
    let (_, s) ← versionPart s.next
    if isSpaceOrEnd s.peek then return (.version major, s) else .error .malformed

def tagDirective (s : Source) : Except Fault (Directive × Source) := do
  let (handle, s) ← tagHandle s.skipSpaces
  if s.peek != ' ' then .error .malformed
  else
    let (address, s) ← uri s.skipSpaces
    if isSpaceOrEnd s.peek then return (.tag handle address, s) else .error .malformed

def directive (s : Source) : Except Fault (Directive × Source) := do
  let name := s.next.rest.takeWhile isNameChar
  let s := s.skip (name.length + 1)
  if name.isEmpty || !isSpaceOrEnd s.peek then .error .malformed
  else
    let (directive, s) ←
      match String.ofList name with
      | "YAML" => versionDirective s
      | "TAG" => tagDirective s
      | _ => pure (.other, s.skipWhile (!isBreak ·))
    return (directive, ← s.endLine)

end ApiCatalog.Yaml
