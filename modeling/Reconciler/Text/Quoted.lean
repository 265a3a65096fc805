import Reconciler.Text.Printable

/-!
# Quoted text

A text between double quotes, as it appears when a value is shown to a reader: the quote,
the backslash and the common control characters have short escapes, other unprintable
characters are shown by their code point in lowercase hexadecimal.
-/

set_option autoImplicit false

namespace Reconciler.Text

def quoteChar (c : Char) : List Char :=
  if c = '"' then ['\\', '"']
  else if c = '\\' then ['\\', '\\']
  else if c = '\n' then ['\\', 'n']
  else if c = '\r' then ['\\', 'r']
  else if c = '\t' then ['\\', 't']
  else if c.toNat = 0 then ['\\', '0']
  else if isPrintable c then [c]
  else ['\\', 'u', '\x7b'] ++ Nat.toDigits 16 c.toNat ++ ['\x7d']

def quote (text : String) : String :=
  String.ofList ('"' :: text.toList.flatMap quoteChar ++ ['"'])

end Reconciler.Text
