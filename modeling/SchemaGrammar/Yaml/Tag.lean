import SchemaGrammar.Yaml.FlowScalar

/-!
# Tags and directives

A tag is written in full, with a handle that a directive defines, or with one of the two handles
that always exist. Escapes spell bytes: each sequence of them has as many bytes as its first one
announces, but it need not spell a character.
-/

namespace SchemaGrammar.Yaml

/-- The text of a tag: characters, and none where a sequence of bytes spells no character. -/
abbrev TagText := List (Option Char)

/-- A text of characters as the text of a tag. -/
def tagText (s : String) : TagText := s.toList.map some

/-- A tag as written: a handle and what follows it. An empty handle means that the rest is the
whole tag. -/
structure TagSpelling where
  handle : List Char
  suffix : TagText

/-- The handles of a document with what they stand for. -/
abbrev Handles := List (List Char × TagText)

/-- A tag of the core schema. -/
def coreTag (name : String) : TagText := tagText "tag:yaml.org,2002:" ++ tagText name

/-- The handles that always exist. -/
def defaultHandles : Handles := [(['!'], tagText "!"), (['!', '!'], coreTag "")]

/-- The full tag; none if its handle is not defined. -/
def TagSpelling.resolve (handles : Handles) (t : TagSpelling) : Option TagText :=
  if t.handle.isEmpty then some t.suffix
  else (handles.lookup t.handle).map (· ++ t.suffix)

/-! ## Reading tags -/

/-- The characters of a tag beside the escapes. The delimiters of flow collections belong to it
only where it is enclosed or defines a handle. -/
def isTagChar (enclosed : Bool) (c : Char) : Bool :=
  isWordChar c || ";/?:@&=+$.!~*'()".toList.contains c || (enclosed && ",[]".toList.contains c)

/-- The byte of an escape that comes next, and the rest. -/
def escapedByte? : List Char → Option (Nat × List Char)
  | '%' :: a :: b :: rest => (Text.digitsIn? 16 [a, b]).map (·, rest)
  | _ => none

/-- How many bytes a sequence has that begins with the given byte. -/
def sequenceWidth? (byte : Nat) : Option Nat :=
  if byte < 0x80 then some 1
  else if byte < 0xC0 then none
  else if byte < 0xE0 then some 2
  else if byte < 0xF0 then some 3
  else if byte < 0xF8 then some 4
  else none

/-- The part of a character's number that the first byte of a sequence holds. -/
def leadingBits (width byte : Nat) : Nat :=
  match width with
  | 1 => byte
  | 2 => byte % 0x20
  | 3 => byte % 0x10
  | _ => byte % 0x08

/-- The least number that takes as many bytes. -/
def leastNumber : Nat → Nat
  | 1 => 0
  | 2 => 0x80
  | 3 => 0x800
  | _ => 0x10000

/-- The given number of escaped continuation bytes, each of which adds six bits to a number. -/
def readContinuation : Nat → Nat → List Char → Option (Nat × List Char)
  | 0, number, cs => some (number, cs)
  | count + 1, number, cs =>
    match escapedByte? cs with
    | some (byte, rest) =>
      if byte / 0x40 = 2 then readContinuation count (number * 0x40 + byte % 0x40) rest else none
    | none => none

/-- The character with a number that a sequence of the given width spells: the number has to be one
of a character, and to need that many bytes. -/
def sequenceChar? (width number : Nat) : Option Char :=
  if leastNumber width ≤ number ∧ number.isValidChar then some (Char.ofNat number) else none

/-- What an escaped sequence of bytes spells, and the rest. -/
def readSequence (cs : List Char) : Option (Option Char × List Char) := do
  let (byte, rest) ← escapedByte? cs
  let width ← sequenceWidth? byte
  let (number, rest) ← readContinuation (width - 1) (leadingBits width byte) rest
  some (sequenceChar? width number, rest)

/-- The characters of a tag up to the first that cannot belong to it, and the rest. The first
argument bounds their number. -/
def readTagChars (enclosed : Bool) : Nat → List Char → Option (TagText × List Char)
  | 0, cs => some ([], cs)
  | bound + 1, cs =>
    match cs with
    | [] => some ([], [])
    | c :: rest =>
      if c = '%' then
        match readSequence cs with
        | none => none
        | some (d, rest) =>
          (readTagChars enclosed bound rest).map fun (ds, rest) => (d :: ds, rest)
      else if isTagChar enclosed c then
        (readTagChars enclosed bound rest).map fun (ds, rest) => (some c :: ds, rest)
      else some ([], cs)

/-- What follows a handle, or a whole tag. A zero byte ends it. -/
def readTagText (enclosed : Bool) (c : Cursor) : Option (TagText × Cursor) := do
  let (text, rest) ← readTagChars enclosed c.rest.length c.rest
  some (text.takeWhile (· != some '\x00'), c.skip (c.rest.length - rest.length))

/-- A handle: an exclamation mark, a name and, if it comes next, another mark. -/
def readHandle (c : Cursor) : Option (List Char × Cursor) :=
  match c.rest with
  | '!' :: rest =>
    let name := rest.takeWhile isWordChar
    let c := c.skip (1 + name.length)
    if c.rest.head? = some '!' then some ('!' :: name ++ ['!'], c.skip 1)
    else some ('!' :: name, c)
  | _ => none

/-- A tag that is written in full between angle brackets. -/
def readEnclosedTag (c : Cursor) : Option (TagSpelling × Cursor) := do
  let inner := c.skip 2
  let (text, c) ← readTagText true inner
  if inner.rest.length = c.rest.length then none
  else if c.rest.head? = some '>' then some (⟨[], text⟩, c.skip 1)
  else none

/-- A tag with a handle. A name without a closing mark is no handle but the beginning of a local
tag; the mark alone is a tag of its own. -/
def readHandledTag (c : Cursor) : Option (TagSpelling × Cursor) := do
  let (handle, inner) ← readHandle c
  let (text, c) ← readTagText false inner
  if 1 < handle.length ∧ handle.getLast? = some '!' then
    if inner.rest.length = c.rest.length then none else some (⟨handle, text⟩, c)
  else
    match (handle.drop 1).map some ++ text with
    | [] => some (⟨[], tagText "!"⟩, c)
    | suffix => some (⟨['!'], suffix⟩, c)

/-- A tag. A blank has to follow it, or a comma inside a flow collection. -/
def readTag (inFlow : Bool) (c : Cursor) : Option (TagSpelling × Cursor) := do
  let (tag, c) ← if c.rest[1]? = some '<' then readEnclosedTag c else readHandledTag c
  if blankNext c.rest || (inFlow && c.rest.head? = some ',') then some (tag, c) else none

/-! ## Directives -/

/-- A line that says how to read the document after it. -/
inductive Directive where
  | version (major minor : Nat)
  | handle (handle : List Char) (meaning : TagText)

/-- A number of at most nine digits. -/
def readVersionNumber (c : Cursor) : Option (Nat × Cursor) :=
  let digits := c.taken Char.isDigit
  if digits.isEmpty ∨ 9 < digits.length then none
  else some (Text.digitsValue digits, c.skip digits.length)

/-- The version after its directive's name. -/
def readVersion (c : Cursor) : Option (Directive × Cursor) := do
  let (major, c) ← readVersionNumber (c.skipWhile isBlank)
  if c.rest.head? = some '.' then
    let (minor, c) ← readVersionNumber (c.skip 1)
    some (.version major minor, c)
  else none

/-- The definition of a handle after its directive's name. -/
def readHandleDefinition (c : Cursor) : Option (Directive × Cursor) := do
  let (handle, c) ← readHandle (c.skipWhile isBlank)
  let closed := handle.length = 1 ∨ handle.getLast? = some '!'
  let inner := c.skipWhile isBlank
  let (meaning, after) ← readTagText true inner
  if closed ∧ (c.rest.head?.map isBlank).getD false ∧ inner.rest.length ≠ after.rest.length ∧
      blankNext after.rest then
    some (.handle handle meaning, after)
  else none

/-- A directive after its percent sign, up to the end of the line. -/
def readDirective (c : Cursor) : Option (Directive × Cursor) := do
  let name := c.taken isWordChar
  let after := c.skip name.length
  if name.isEmpty || !blankNext after.rest then none
  else
    let (directive, after) ←
      if name = "YAML".toList then readVersion after
      else if name = "TAG".toList then readHandleDefinition after
      else none
    some (directive, ← after.finishLine?)

end SchemaGrammar.Yaml
