import SchemaGrammar.Text.Digits

/-!
# Strings in JSON text

The text between two quotes, with escapes for quotes, backslashes, control characters and arbitrary
code units. Two units that form a surrogate pair are one character; a unit of a pair that stands
alone is refused, as is a raw control character.
-/

namespace SchemaGrammar.Json

/-- The code unit that four hexadecimal digits spell. -/
def codeUnit? (a b c d : Char) : Option Nat := Text.digitsIn? 16 [a, b, c, d]

/-- Whether a code unit opens a surrogate pair. -/
def isLeading (unit : Nat) : Bool := 0xD800 ≤ unit && unit < 0xDC00

/-- Whether a code unit closes a surrogate pair. -/
def isTrailing (unit : Nat) : Bool := 0xDC00 ≤ unit && unit < 0xE000

/-- The character of a surrogate pair. -/
def pairChar (leading trailing : Nat) : Char :=
  Char.ofNat (0x10000 + (leading - 0xD800) * 0x400 + (trailing - 0xDC00))

/-- The character that a one-letter escape stands for. -/
def escapeChar? : Char → Option Char
  | '"' => some '"'
  | '\\' => some '\\'
  | '/' => some '/'
  | 'b' => some '\x08'
  | 'f' => some '\x0c'
  | 'n' => some '\n'
  | 'r' => some '\r'
  | 't' => some '\t'
  | _ => none

/-- The characters up to the closing quote, and the rest after it. -/
def readQuoted : List Char → Option (List Char × List Char)
  | [] => none
  | '"' :: rest => some ([], rest)
  | '\\' :: 'u' :: a :: b :: c :: d :: rest =>
    match codeUnit? a b c d with
    | none => none
    | some unit =>
      if isLeading unit then
        match rest with
        | '\\' :: 'u' :: e :: f :: g :: h :: rest =>
          match codeUnit? e f g h with
          | none => none
          | some trailing =>
            if isTrailing trailing then
              (readQuoted rest).map fun (s, rest) => (pairChar unit trailing :: s, rest)
            else none
        | _ => none
      else if isTrailing unit then none
      else (readQuoted rest).map fun (s, rest) => (Char.ofNat unit :: s, rest)
  | '\\' :: e :: rest =>
    match escapeChar? e with
    | none => none
    | some c => (readQuoted rest).map fun (s, rest) => (c :: s, rest)
  | c :: rest =>
    if c = '\\' ∨ c.toNat < 0x20 then none
    else (readQuoted rest).map fun (s, rest) => (c :: s, rest)

end SchemaGrammar.Json
