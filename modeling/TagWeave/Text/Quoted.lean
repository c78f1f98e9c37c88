import TagWeave.Text.HiddenTable

/-!
# Quoted text in messages

A quoted text stands between double quotes on one line and shows every character: what a reader
could not see, or could take for the end of the quotation, is escaped.
-/

namespace TagWeave.Text

/-- The number in base 16, in small letters. -/
def hexadecimal (n : Nat) : List Char := Nat.toDigits 16 n

/-- How a character is written inside a quotation. -/
def quotedForm (c : Char) : List Char :=
  if c == '"' then ['\\', '"']
  else if c == '\\' then ['\\', '\\']
  else if c == '\n' then ['\\', 'n']
  else if c == '\r' then ['\\', 'r']
  else if c == '\t' then ['\\', 't']
  else if c == '\x00' then ['\\', '0']
  else if hidden.contains c then ['\\', 'u', '\x7b'] ++ hexadecimal c.toNat ++ ['\x7d']
  else [c]

/-- The text between double quotes. -/
def quoted (text : String) : String :=
  .ofList ('"' :: text.toList.flatMap quotedForm ++ ['"'])

end TagWeave.Text
