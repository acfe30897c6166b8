import ImageVerification.Decimal.Notation
import ImageVerification.Text.Printable

/-! Quoted texts as log lines show them. -/

namespace ImageVerification.Text

def hexDigits (n : Nat) : List Char := Nat.toDigits 16 n

/-- What cannot be shown is written as its code in braces. -/
def quoteChar (c : Char) : List Char :=
  if c.toNat = 0 then ['\\', '0']
  else if c = '\t' then ['\\', 't']
  else if c = '\r' then ['\\', 'r']
  else if c = '\n' then ['\\', 'n']
  else if c = '"' then ['\\', '"']
  else if c = '\\' then ['\\', '\\']
  else if isPrintable c then [c]
  else '\\' :: 'u' :: '\x7b' :: hexDigits c.toNat ++ ['\x7d']

def quoted (text : String) : String :=
  String.ofList ('"' :: text.toList.flatMap quoteChar ++ ['"'])

end ImageVerification.Text
