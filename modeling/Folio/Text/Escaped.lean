import Folio.Unicode.Printable

/-!
# Quoting text in messages

Main definition:

* `quote`: a text between double quotes, with escapes for what would not show.
-/

namespace Folio.Text

/-- A number in lower-case hexadecimal. -/
def hexadecimal (n : Nat) : List Char := Nat.toDigits 16 n

/-- A character inside quotes. -/
def escapeForMessage (c : Char) : List Char :=
  if c = '"' then ['\\', '"']
  else if c = '\\' then ['\\', '\\']
  else if c = '\n' then ['\\', 'n']
  else if c = '\r' then ['\\', 'r']
  else if c = '\t' then ['\\', 't']
  else if c.toNat = 0 then ['\\', '0']
  else if Unicode.isPrintable c then [c]
  else ['\\', 'u', '\x7b'] ++ hexadecimal c.toNat ++ ['\x7d']

/-- A text between double quotes, with escapes for what would not show. -/
def quote (text : String) : String :=
  .ofList ('"' :: text.toList.flatMap escapeForMessage ++ ['"'])

end Folio.Text
