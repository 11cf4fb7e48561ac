import SchemaGrammar.Document.Basic
import SchemaGrammar.Number.Text

/-!
# The compact text of a document

Error messages, enumerated literals, patterns and reference targets quote a document as compact
JSON: no blanks, members in order, only quotes, backslashes and control characters escaped.
-/

namespace SchemaGrammar

/-- A lower-case hexadecimal digit. -/
def hexDigit (n : Nat) : Char := Nat.digitChar (n % 16)

/-- One character of a string as it stands between quotes: quotes, backslashes and the characters
below the blank are escaped, everything else stands for itself. -/
def escapedChar (c : Char) : List Char :=
  if c = '"' then ['\\', '"']
  else if c = '\\' then ['\\', '\\']
  else if c = '\x08' then ['\\', 'b']
  else if c = '\t' then ['\\', 't']
  else if c = '\n' then ['\\', 'n']
  else if c = '\x0c' then ['\\', 'f']
  else if c = '\r' then ['\\', 'r']
  else if c.toNat < 0x20 then ['\\', 'u', '0', '0', hexDigit (c.toNat / 16), hexDigit c.toNat]
  else [c]

/-- A string between quotes. -/
def quotedText (s : String) : List Char :=
  '"' :: s.toList.flatMap escapedChar ++ ['"']

/-- Floating-point numbers of a document are positional from `10 ^ -5` up to below `10 ^ 16`. -/
def documentNumbers : DecimalStyle := ⟨-5, 15⟩

/-- The text of a number. -/
def Number.text : Number → List Char
  | .natural n => natText n
  | .negative n => '-' :: natText (n + 1)
  | .float x => x.text documentNumbers

namespace Document

mutual
/-- The characters of the compact text. -/
def chars : Document → List Char
  | .null => ['n', 'u', 'l', 'l']
  | .bool true => ['t', 'r', 'u', 'e']
  | .bool false => ['f', 'a', 'l', 's', 'e']
  | .number n => n.text
  | .string s => quotedText s
  | .list [] => ['[', ']']
  | .list (item :: items) => '[' :: chars item ++ itemsChars items
  | .object [] => ['\x7b', '\x7d']
  | .object ((name, value) :: members) =>
    '\x7b' :: quotedText name ++ ':' :: chars value ++ membersChars members

/-- The items of a list after the first, and the closing bracket. -/
def itemsChars : List Document → List Char
  | [] => [']']
  | item :: items => ',' :: chars item ++ itemsChars items

/-- The members of an object after the first, and the closing brace. -/
def membersChars : List (String × Document) → List Char
  | [] => ['\x7d']
  | (name, value) :: members =>
    ',' :: quotedText name ++ ':' :: chars value ++ membersChars members
end

/-- The compact text of a document. -/
def text (d : Document) : String := String.ofList d.chars

/-- A document where a plain text is wanted: a string is its own text, anything else is quoted as
its compact text. -/
def literalText : Document → String
  | .string s => s
  | other => other.text

end Document

end SchemaGrammar
