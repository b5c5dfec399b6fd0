import ShaderUplift.Text.Scan
import ShaderUplift.Text.WordChar
import ShaderUplift.Token.Vocabulary

/-! The token at the front of a text.
Each class of tokens has a reader that takes the longest stretch of its shape from the front
of a text, and nothing if the text does not begin with that shape. The classes are tried in
a fixed order, and a character that none of them takes is an operator by itself.
-/

namespace ShaderUplift.Lexeme
open ShaderUplift.Text

/-- The part of a text through the first end mark of a block comment, or all of it. -/
def throughEndMark : List Char → List Char
  | [] => []
  | c :: rest =>
      if ['*', '/'].isPrefixOf (c :: rest) then ['*', '/'] else c :: throughEndMark rest

/-- A comment between marks, which runs to the end of the text if the end mark is missing. -/
def blockComment (text : List Char) : List Char :=
  match after? ['/', '*'] text with
  | some rest => '/' :: '*' :: throughEndMark rest
  | none => []

/-- A comment that runs to the end of its line. -/
def lineComment (text : List Char) : List Char :=
  match after? ['/', '/'] text with
  | some rest => '/' :: '/' :: rest.takeWhile fun c => !isLineBreak c
  | none => []

/-- The part of a text up to the first line break that is not continued.
A backslash continues a line over a line feed, and over a carriage return that a line feed
follows.
-/
def logicalLine : (continued : Bool) → List Char → List Char
  | _, [] => []
  | continued, c :: rest =>
      if c = '\n' then
        if continued then c :: logicalLine false rest else []
      else if c = '\r' then
        if continued && rest.head? == some '\n' then c :: logicalLine true rest else []
      else c :: logicalLine (c == '\\') rest

/-- A directive, which runs to the end of its logical line. -/
def directive : List Char → List Char
  | [] => []
  | c :: rest => if c = '#' then c :: logicalLine false rest else []

/-- A run of blanks. -/
def blanks (text : List Char) : List Char :=
  text.takeWhile isBlank

/-- A run of decimal digits. -/
def digits (text : List Char) : List Char :=
  text.takeWhile isDecimalDigit

/-- Decimal digits with a point before, among or after them. -/
def pointed (text : List Char) : List Char :=
  match after? ['.'] (text.dropWhile isDecimalDigit) with
  | some rest =>
      if digits text = [] ∧ digits rest = [] then []
      else digits text ++ '.' :: digits rest
  | none => []

/-- An exponent: its mark, an optional sign and at least one digit. -/
def exponent : List Char → List Char
  | [] => []
  | mark :: rest =>
      let sign := takeOne (fun c => c == '+' || c == '-') rest
      let number := digits (rest.drop sign.length)
      if (mark = 'e' ∨ mark = 'E') ∧ number ≠ [] then mark :: (sign ++ number) else []

/-- Digits with a point, or else plain digits. -/
def mantissa (text : List Char) : List Char :=
  if pointed text = [] then digits text else pointed text

/-- The exponent after the mantissa at the front of a text. -/
def power (text : List Char) : List Char :=
  exponent (text.drop (mantissa text).length)

/-- A floating point number: digits with a point, an exponent, or both, and its suffix. -/
def float (text : List Char) : List Char :=
  if mantissa text = [] ∨ (pointed text = [] ∧ power text = []) then []
  else
    mantissa text ++ power text ++
      takeOne (fun c => c == 'f' || c == 'F') (text.drop (mantissa text ++ power text).length)

/-- Whether a character is a hexadecimal digit. -/
def isHexDigit (c : Char) : Bool :=
  c.isDigit || ('a' ≤ c && c ≤ 'f') || ('A' ≤ c && c ≤ 'F')

/-- A hexadecimal number without its suffix. -/
def hexadecimal : List Char → List Char
  | zero :: mark :: rest =>
      let figures := rest.takeWhile isHexDigit
      if zero = '0' ∧ (mark = 'x' ∨ mark = 'X') ∧ figures ≠ [] then zero :: mark :: figures
      else []
  | _ => []

/-- Hexadecimal or else decimal figures. -/
def magnitude (text : List Char) : List Char :=
  if hexadecimal text = [] then digits text else hexadecimal text

/-- An integer, hexadecimal or decimal, and its suffix. -/
def integer (text : List Char) : List Char :=
  if magnitude text = [] then []
  else
    magnitude text ++
      takeOne (fun c => c == 'u' || c == 'U') (text.drop (magnitude text).length)

/-- A word: a letter or underscore and the word characters after it. -/
def word : List Char → List Char
  | [] => []
  | c :: rest => if isWordStart c then c :: rest.takeWhile isWordChar else []

/-- The longest operator that a text begins with. -/
def operator (text : List Char) : List Char :=
  match Vocabulary.operators.find? fun op => op.toList.isPrefixOf text with
  | some op => op.toList
  | none => []

/-- The token that a reader has taken, if it has taken anything. -/
def token? (kind : TokenKind) (taken : List Char) : Option Token :=
  if taken = [] then none else some (.ofChars kind taken)

/-- The token of the first class that a text begins with. -/
def classed? (text : List Char) : Option Token :=
  token? .blockComment (blockComment text)
    <|> token? .lineComment (lineComment text)
    <|> token? .directive (directive text)
    <|> token? .whitespace (blanks text)
    <|> token? .float (float text)
    <|> token? .integer (integer text)
    <|> token? (Vocabulary.classify (String.ofList (word text))) (word text)
    <|> token? .operator (operator text)

/-- The token at the front of the text `c :: rest`. -/
def front (c : Char) (rest : List Char) : Token :=
  (classed? (c :: rest)).getD (.ofChars .operator [c])

end ShaderUplift.Lexeme
