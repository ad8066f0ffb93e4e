/-
# Quoted texts in messages

A text that is quoted in a message stands in double quotes. Quotes, backslashes
and the common controls have short escapes; other characters that are not
printable are shown by their code point in hexadecimal.
-/

import BuildSettings.Text.Printable

namespace BuildSettings.Text

/-- A character inside a quoted text. -/
def quoteChar (c : Char) : List Char :=
  match c with
  | '\x00' => ['\\', '0']
  | '\t' => ['\\', 't']
  | '\n' => ['\\', 'n']
  | '\r' => ['\\', 'r']
  | '"' => ['\\', '"']
  | '\\' => ['\\', '\\']
  | c =>
    if isPrintable c then [c]
    else ['\\', 'u', '{'] ++ Nat.toDigits 16 c.toNat ++ ['}']

/-- A text in double quotes. -/
def quoted (s : String) : String :=
  String.ofList ('"' :: s.toList.flatMap quoteChar ++ ['"'])

end BuildSettings.Text
