set_option autoImplicit false

namespace ApiCatalog

inductive TokenKind
  | identifier
  | text
  | number
  | openBrace
  | closeBrace
  | openParen
  | closeParen
  | question
  | atSign
  | comment
  | docComment
  | unknown
  | endOfText
  deriving DecidableEq, Repr

def TokenKind.name : TokenKind → String
  | identifier => "IDENT"
  | text => "STRING"
  | number => "NUMBER"
  | openBrace => "LBRACE"
  | closeBrace => "RBRACE"
  | openParen => "LPAREN"
  | closeParen => "RPAREN"
  | question => "QUESTION"
  | atSign => "AT"
  | comment => "COMMENT"
  | docComment => "DOC_COMMENT"
  | unknown => "UNKNOWN"
  | endOfText => "EOF"

structure Token where
  kind : TokenKind
  literal : String
  line : Nat
  deriving DecidableEq, Repr

structure TokenStream where
  tokens : List Token
  endLine : Nat
  deriving DecidableEq, Repr

def TokenStream.terminator (s : TokenStream) : Token := ⟨.endOfText, "", s.endLine⟩

end ApiCatalog
