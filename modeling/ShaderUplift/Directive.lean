import ShaderUplift.Text.Scan
import ShaderUplift.Text.WordChar
import ShaderUplift.Token.Basic

/-! What directives declare.
A version directive declares a number and perhaps a profile, an extension directive the name of
an extension. Both lead a shader: declarations have to come after them.
-/

namespace ShaderUplift

namespace Directive
open ShaderUplift.Text

/-- The text after the directive `keyword`, which blanks may part from its number sign. -/
def afterKeyword? (keyword : String) (text : List Char) : Option (List Char) :=
  (after? ['#'] text).bind fun rest => after? keyword.toList (skipBlanks rest)

/-- The letters after the number of a version, which blanks have to part from it. -/
def profile (text : List Char) : List Char :=
  ((skipSomeBlanks? text).getD []).takeWhile Char.isAlpha

/-- The number at the front of a text, with the profile that follows it after one space. -/
def numberWithProfile? (text : List Char) : Option String :=
  let number := text.takeWhile Char.isDigit
  let profile := profile (text.dropWhile Char.isDigit)
  if number = [] then none
  else if profile = [] then some (String.ofList number)
  else some (String.ofList (number ++ ' ' :: profile))

/-- The version that the text of a directive declares. -/
def version? (text : List Char) : Option String :=
  ((afterKeyword? "version" (skipBlanks text)).bind skipSomeBlanks?).bind numberWithProfile?

/-- The trimmed text before the last colon of a line, unless nothing is left of it. -/
def nameBeforeColon? (text : List Char) : Option String :=
  (beforeLastColon? (text.takeWhile fun c => c != '\n')).bind fun front =>
    if trim front = [] then none else some (String.ofList (trim front))

/-- The extension that the text of a directive names. -/
def extension? (text : List Char) : Option String :=
  ((afterKeyword? "extension" text).bind skipSomeBlanks?).bind nameBeforeColon?

/-- Whether a text goes on without a word character. -/
def endsWord (text : List Char) : Bool :=
  !text.head?.any isWordChar

/-- Whether the text of a directive has to come before every declaration. -/
def isLeading (text : List Char) : Bool :=
  (afterKeyword? "extension" text).any endsWord || (afterKeyword? "version" text).any endsWord

end Directive

namespace Token

/-- The version that a token declares. -/
def version? (token : Token) : Option String :=
  if token.kind = .directive then Directive.version? token.chars else none

/-- The extension that a token names. -/
def extension? (token : Token) : Option String :=
  if token.kind = .directive then Directive.extension? token.chars else none

/-- Whether a token is a directive that has to come before every declaration. -/
def isLeadingDirective (token : Token) : Bool :=
  token.kind = .directive && Directive.isLeading token.chars

end Token

end ShaderUplift
