import ShaderUplift.Text.Blank

/-! The tokens of a shader, and the text they spell.
Tokens cover every character of a shader, blanks and comments included, so a list of tokens
is written out by putting the texts one after another.
-/

namespace ShaderUplift

/-- What a token is. A token that was not read from text may also be of a kind of its own. -/
inductive TokenKind where
  | keyword
  | builtin
  | identifier
  | operator
  | directive
  | whitespace
  | integer
  | float
  | lineComment
  | blockComment
  | other (name : String)
deriving DecidableEq, Repr

namespace TokenKind

/-- The name of a kind. -/
def name : TokenKind → String
  | keyword => "keyword"
  | builtin => "builtin"
  | identifier => "ident"
  | operator => "operator"
  | directive => "preprocessor"
  | whitespace => "whitespace"
  | integer => "integer"
  | float => "float"
  | lineComment => "line-comment"
  | blockComment => "block-comment"
  | other name => name

/-- The kinds that tokens read from text have. -/
def lexical : List TokenKind :=
  [ keyword, builtin, identifier, operator, directive, whitespace, integer, float, lineComment,
    blockComment ]

/-- The kind with a given name. -/
def ofName (name : String) : TokenKind :=
  (lexical.find? fun kind => kind.name = name).getD (other name)

/-- Kinds that are skipped between two tokens that belong together. -/
def isLayout : TokenKind → Bool
  | whitespace | lineComment | blockComment => true
  | _ => false

end TokenKind

/-- A piece of a shader. -/
structure Token where
  kind : TokenKind
  text : String
deriving DecidableEq, Repr

namespace Token

/-- The characters of a token. -/
def chars (token : Token) : List Char :=
  token.text.toList

/-- The token of a kind with given characters. -/
def ofChars (kind : TokenKind) (chars : List Char) : Token :=
  ⟨kind, String.ofList chars⟩

@[simp] theorem chars_ofChars (kind : TokenKind) (chars : List Char)
    : (ofChars kind chars).chars = chars := by
  simp [ofChars, Token.chars]

@[simp] theorem kind_ofChars (kind : TokenKind) (chars : List Char)
    : (ofChars kind chars).kind = kind :=
  rfl

@[simp] theorem ofChars_chars (token : Token)
    : ofChars token.kind token.chars = token := by
  simp [ofChars, Token.chars]

/-- The whitespace token that ends a line. -/
def newline : Token :=
  ⟨.whitespace, "\n"⟩

/-- A directive with a given text. -/
def directive (text : String) : Token :=
  ⟨.directive, text⟩

/-- Whether a token is the keyword `word`. -/
def isKeyword (word : String) (token : Token) : Bool :=
  token.kind = .keyword && token.text = word

/-- Whether a token is the operator `symbol`. -/
def isOperator (symbol : String) (token : Token) : Bool :=
  token.kind = .operator && token.text = symbol

/-- Whether the text of a token begins with a line break. -/
def startsWithBreak (token : Token) : Bool :=
  token.chars.head?.any Text.isLineBreak

/-- Whether the text of a token ends with a line break. -/
def endsWithBreak (token : Token) : Bool :=
  token.chars.getLast?.any Text.isLineBreak

/-- The text that tokens spell. -/
def render (tokens : List Token) : String :=
  String.ofList (tokens.flatMap chars)

/-- The texts of tokens with a separator between each two. -/
def renderWith (separator : String) (tokens : List Token) : String :=
  separator.intercalate (tokens.map text)

@[simp] theorem toList_render (tokens : List Token)
    : (render tokens).toList = tokens.flatMap chars := by
  simp [render]

theorem render_append (front back : List Token)
    : render (front ++ back) = render front ++ render back := by
  simp [render, List.flatMap_append]

end Token

end ShaderUplift
