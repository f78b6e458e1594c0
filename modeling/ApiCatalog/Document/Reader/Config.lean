import ApiCatalog.Document.Reader.Schema
import ApiCatalog.Text.Basic

set_option autoImplicit false

namespace ApiCatalog

namespace ConfigReader

inductive DefaultPlace
  | opening
  | value
  | closing (text : String)

inductive Place
  | opening
  | entries
  | baseUrl
  | cors
  | mock
  | variableName
  | variableType (name : String)
  | variableDefault (v : Variable)
  | variableValue (v : Variable) (place : DefaultPlace)
  | headerName
  | headerMark (h : Header)
  | headerDefault (h : Header)
  | headerValue (h : Header) (place : DefaultPlace)

end ConfigReader

structure ConfigReader where
  config : Config
  place : ConfigReader.Place

namespace ConfigReader

def start : ConfigReader := ⟨{}, .opening⟩

def splitUrls (text : String) : List String :=
  ((text.toList.splitOn ',').map Text.trim).filterMap fun url =>
    if url.isEmpty then none else some (String.ofList url)

def entry (config : Config) (t : Token) : Progress ConfigReader Config :=
  if t.kind = .closeBrace then .finished config
  else
    .reading ⟨config, match t.literal with
      | "baseUrl" => .baseUrl
      | "cors" => .cors
      | "mock" => .mock
      | "variable" => .variableName
      | "header" => .headerName
      | _ => .entries⟩

def addVariable (config : Config) (v : Variable) : Config :=
  { config with vars := config.vars ++ [v] }

def addHeader (config : Config) (h : Header) : Config :=
  { config with headers := config.headers ++ [h] }

def variableDefault (config : Config) (v : Variable) (t : Token) : Progress ConfigReader Config :=
  if t.literal = "default" then .reading ⟨config, .variableValue v .opening⟩
  else entry (addVariable config v) t

-- What starts the next entry, or ends the block, is no type.
def variableType (config : Config) (name : String) (t : Token) : Progress ConfigReader Config :=
  if ["default", "variable", "header"].contains t.literal || t.kind = .closeBrace then
    variableDefault config { name } t
  else .reading ⟨config, .variableDefault { name, type := t.literal }⟩

def headerMark (config : Config) (h : Header) (t : Token) : Progress ConfigReader Config :=
  if t.kind = .atSign then .reading ⟨config, .headerDefault h⟩ else entry (addHeader config h) t

def headerDefault (config : Config) (h : Header) (t : Token) : Progress ConfigReader Config :=
  if t.literal = "default" then .reading ⟨config, .headerValue h .opening⟩
  else entry (addHeader config h) t

def defaultValue (place : DefaultPlace) (t : Token) : Step DefaultPlace String :=
  match place with
  | .opening => t.require .openParen (.reading .value)
  | .value => .ok (.reading (.closing t.literal))
  | .closing text => t.require .closeParen (.finished text)

def step (r : ConfigReader) (t : Token) : Step ConfigReader Config :=
  let go (place : Place) : Progress ConfigReader Config := .reading ⟨r.config, place⟩
  let set (config : Config) : Progress ConfigReader Config := .reading ⟨config, .entries⟩
  match r.place with
  | .opening => t.require .openBrace (go .entries)
  | .entries => .ok (entry r.config t)
  | .baseUrl => .ok (set { r.config with baseUrls := splitUrls t.literal })
  | .cors => .ok (set { r.config with cors := t.literal == "true" })
  | .mock => .ok (set { r.config with mock := t.literal == "true" })
  | .variableName => .ok (go (.variableType t.literal))
  | .variableType name => .ok (variableType r.config name t)
  | .variableDefault v => .ok (variableDefault r.config v t)
  | .variableValue v place =>
    (defaultValue place t).map fun
      | .reading place => go (.variableValue v place)
      | .finished text => set (addVariable r.config { v with default := some text })
  | .headerName => .ok (go (.headerMark { name := t.literal }))
  | .headerMark h => .ok (headerMark r.config h t)
  | .headerDefault h => .ok (headerDefault r.config h t)
  | .headerValue h place =>
    (defaultValue place t).map fun
      | .reading place => go (.headerValue h place)
      | .finished text => set (addHeader r.config { h with default := some text })

def DefaultPlace.expectedAtEnd : DefaultPlace → TokenKind
  | opening => .openParen
  | _ => .closeParen

def expectedAtEnd (r : ConfigReader) : TokenKind :=
  match r.place with
  | .opening => .openBrace
  | .variableValue _ place | .headerValue _ place => place.expectedAtEnd
  | _ => .closeBrace

end ConfigReader

end ApiCatalog
