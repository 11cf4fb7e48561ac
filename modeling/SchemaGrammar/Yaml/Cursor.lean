/-!
# Characters and places of a YAML text

Which characters a text may hold, which of them are blanks and line breaks, and where in the text a
reader stands. Places matter in three ways: the column decides nesting, the line decides whether a
key can still be completed, and the number of bytes bounds the length of such a key. Columns count
characters, whatever their width in bytes.
-/

namespace SchemaGrammar.Yaml

/-! ## Characters -/

/-- Whether a text may hold the character: no control characters but the usual blanks and
breaks. -/
def isAllowed (c : Char) : Bool :=
  let n := c.toNat
  n == 0x09 || n == 0x0A || n == 0x0D || (0x20 ≤ n && n ≤ 0x7E) || n == 0x85 ||
    (0xA0 ≤ n && n ≤ 0xFFFD) || 0x10000 ≤ n

/-- A line break. A carriage return and a line feed together are one break. -/
def isBreak (c : Char) : Bool :=
  c == '\n' || c == '\r' || c == '\x85' || c == '\u2028' || c == '\u2029'

/-- A byte order mark. At the beginning of a line it may stand before a token and means nothing;
anywhere else it is a character like others. -/
def isByteOrderMark (c : Char) : Bool := c == '\ufeff'

/-- A blank or a tab. -/
def isBlank (c : Char) : Bool := c == ' ' || c == '\t'

/-- A character of a name: a letter, a digit, an underscore or a hyphen. -/
def isWordChar (c : Char) : Bool := c.isAlphanum || c == '_' || c == '-'

/-- A break as it stands in a scalar: the separators keep their character, all others are a line
feed. -/
def breakChar (c : Char) : Char := if c == '\u2028' || c == '\u2029' then c else '\n'

/-- Whether a blank, a break or the end of the text comes next. -/
def blankNext : List Char → Bool
  | [] => true
  | c :: _ => isBlank c || isBreak c

/-- Whether a break or the end of the text comes next. -/
def breakNext : List Char → Bool
  | [] => true
  | c :: _ => isBreak c

/-- Whether a document marker comes next: three hyphens or three points and then a blank. -/
def markerNext : List Char → Bool
  | '-' :: '-' :: '-' :: rest => blankNext rest
  | '.' :: '.' :: '.' :: rest => blankNext rest
  | _ => false

/-! ## Places -/

/-- A place in the text. -/
structure Position where
  /-- The number of bytes before the place, in UTF-8. -/
  offset : Nat
  line : Nat
  column : Nat

namespace Position

/-- The start of a text. -/
def start : Position := ⟨0, 0, 0⟩

/-- The place after a character that is no break. -/
def past (p : Position) (c : Char) : Position := ⟨p.offset + c.utf8Size, p.line, p.column + 1⟩

/-- The place after some characters that are no breaks. -/
def pastAll (p : Position) (cs : List Char) : Position := cs.foldl past p

/-- The place after some ASCII characters that are no breaks. -/
def right (p : Position) (count : Nat) : Position :=
  ⟨p.offset + count, p.line, p.column + count⟩

/-- The place after a break of the given number of bytes. -/
def newLine (p : Position) (bytes : Nat) : Position := ⟨p.offset + bytes, p.line + 1, 0⟩

end Position

/-- The text from a place on. -/
structure Cursor where
  rest : List Char
  position : Position

namespace Cursor

/-- Moves over characters that are no breaks. -/
def skip (c : Cursor) (count : Nat) : Cursor :=
  ⟨c.rest.drop count, c.position.pastAll (c.rest.take count)⟩

/-- The characters from here on that satisfy the predicate, which no break does. -/
def taken (c : Cursor) (p : Char → Bool) : List Char := c.rest.takeWhile p

/-- Moves over the characters that satisfy the predicate, which no break does. -/
def skipWhile (c : Cursor) (p : Char → Bool) : Cursor := c.skip (c.taken p).length

/-- Moves over the break that comes next, if one does. -/
def skipBreak (c : Cursor) : Cursor :=
  match c.rest with
  | '\r' :: '\n' :: rest => ⟨rest, c.position.newLine 2⟩
  | b :: rest => if isBreak b then ⟨rest, c.position.newLine b.utf8Size⟩ else c
  | [] => c

/-- The break that comes next as it stands in a scalar, if one does. -/
def nextBreak (c : Cursor) : List Char :=
  match c.rest with
  | b :: _ => if isBreak b then [breakChar b] else []
  | [] => []

/-- Moves over blanks and a comment to the end of the line and over its break; none if anything
else stands there. -/
def finishLine? (c : Cursor) : Option Cursor :=
  let c := c.skipWhile isBlank
  let c := if c.rest.head? = some '#' then c.skipWhile (!isBreak ·) else c
  if breakNext c.rest then some c.skipBreak else none

end Cursor

end SchemaGrammar.Yaml
