import SchemaGrammar.Text.Invisible

/-!
# Quoted text

A text between quotes in which everything that could be mistaken or not be seen is written with a
backslash: quotes, backslashes, the common control characters by letter, and other characters
without a shape of their own by number.
-/

namespace SchemaGrammar.Text

/-- A character by its number. -/
def numbered (c : Char) : List Char :=
  ['\\', 'u', '\x7b'] ++ Nat.toDigits 16 c.toNat ++ ['\x7d']

/-- One character as it stands between quotes. -/
def visibleChar (c : Char) : List Char :=
  if c = '"' then ['\\', '"']
  else if c = '\\' then ['\\', '\\']
  else if c = '\n' then ['\\', 'n']
  else if c = '\r' then ['\\', 'r']
  else if c = '\t' then ['\\', 't']
  else if c.toNat = 0 then ['\\', '0']
  else if c.toNat < 0x20 then numbered c
  else if c.toNat < 0x7F then [c]
  else if c.toNat = 0x7F then numbered c
  else if isInvisible c then numbered c
  else [c]

/-- The text between quotes. -/
def quote (s : String) : String :=
  String.ofList ('"' :: s.toList.flatMap visibleChar ++ ['"'])

end SchemaGrammar.Text
