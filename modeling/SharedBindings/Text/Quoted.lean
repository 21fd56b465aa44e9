/-!
# Quoted text

The quoted spelling of a text in descriptions: between double quotes, with the quote, the
backslash and the control characters of ASCII escaped.
-/

namespace SharedBindings.Text

/-- A control character without a short escape is written by its code point, in lower-case
hexadecimal digits between braces. -/
def escapeCode (character : Char) : List Char :=
  ['\\', 'u', '\x7b'] ++ Nat.toDigits 16 character.toNat ++ ['\x7d']

def escape (character : Char) : List Char :=
  if character = '"' then ['\\', '"']
  else if character = '\\' then ['\\', '\\']
  else if character = '\n' then ['\\', 'n']
  else if character = '\r' then ['\\', 'r']
  else if character = '\t' then ['\\', 't']
  else if character = '\x00' then ['\\', '0']
  else if character.toNat < 0x20 || character.toNat = 0x7F then escapeCode character
  else [character]

def quoted (text : String) : String :=
  String.ofList ('"' :: text.toList.flatMap escape ++ ['"'])

end SharedBindings.Text
