import MonkeySyntax.Text.CharClass

/-!
# Quoted text

The delimiter is an apostrophe, or a double quote when the text holds an apostrophe and no double
quote.  Unprintable characters are escaped, most by their code point in lower-case hexadecimal
digits.
-/

set_option autoImplicit false

namespace MonkeySyntax.Text

def hexDigits : Nat → Nat → List Char
  | 0, _ => []
  | width + 1, value => hexDigits width (value / 16) ++ [(value % 16).digitChar]

def delimiterOf (text : List Char) : Char :=
  if text.contains '\x27' && !text.contains '"' then '"' else '\x27'

def escapeChar (delimiter c : Char) : List Char :=
  if c = delimiter ∨ c = '\\' then ['\\', c]
  else if c = '\n' then ['\\', 'n']
  else if c = '\r' then ['\\', 'r']
  else if c = '\t' then ['\\', 't']
  else if isPrintable c then [c]
  else if c.toNat < 0x100 then '\\' :: 'x' :: hexDigits 2 c.toNat
  else if c.toNat < 0x10000 then '\\' :: 'u' :: hexDigits 4 c.toNat
  else '\\' :: 'U' :: hexDigits 8 c.toNat

def quotedChars (text : List Char) : List Char :=
  let delimiter := delimiterOf text
  delimiter :: (text.flatMap (escapeChar delimiter) ++ [delimiter])

def quoted (text : String) : String :=
  String.ofList (quotedChars text.toList)

end MonkeySyntax.Text
