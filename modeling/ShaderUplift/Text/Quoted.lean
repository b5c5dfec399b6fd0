import ShaderUplift.Text.Printable

/-! Text between quotation marks, as messages show it.
The single mark is used unless the text holds it and no double mark. The mark itself, the
backslash and every character that cannot be shown are written as escapes.
-/

namespace ShaderUplift.Text.Quoted

/-- The quotation mark that a text is put in. -/
def mark (text : List Char) : Char :=
  if '\x27' ∈ text ∧ '\x22' ∉ text then '\x22' else '\x27'

/-- The lowest `width` hexadecimal digits of a number, in lower case. -/
def hex : (width : Nat) → Nat → List Char
  | 0, _ => []
  | width + 1, n => hex width (n / 16) ++ [Nat.digitChar (n % 16)]

/-- The escape of a character that cannot be shown, of the least width that holds its code. -/
def codeEscape (c : Char) : List Char :=
  if c.toNat < 0x100 then '\\' :: 'x' :: hex 2 c.toNat
  else if c.toNat < 0x10000 then '\\' :: 'u' :: hex 4 c.toNat
  else '\\' :: 'U' :: hex 8 c.toNat

/-- One character between two marks. -/
def encodeChar (mark c : Char) : List Char :=
  if c = mark ∨ c = '\\' then ['\\', c]
  else if c = '\n' then ['\\', 'n']
  else if c = '\r' then ['\\', 'r']
  else if c = '\t' then ['\\', 't']
  else if isPrintable c then [c]
  else codeEscape c

/-- A text with its quotation marks. -/
def encode (text : List Char) : List Char :=
  mark text :: (text.flatMap (encodeChar (mark text)) ++ [mark text])

example : encode ['a', '\n', '\x27', '\x22'] =
    ['\x27', 'a', '\\', 'n', '\\', '\x27', '\x22', '\x27'] := by decide +kernel

example : encode ['\x27', '\x1f'] = ['\x22', '\x27', '\\', 'x', '1', 'f', '\x22'] := by
  decide +kernel

end ShaderUplift.Text.Quoted
