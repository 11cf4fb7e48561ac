import SchemaGrammar.Yaml.BlockScalar
import SchemaGrammar.Yaml.Token

/-!
# Reading tokens

The tokens of a text in order. Whether a scalar or a flow collection is a key shows only when a
colon follows it. So the reader remembers where a key may have begun (`KeyStart`), one such place
for each flow collection that is open, and puts the key token in front of it once the colon comes. A
key has to be completed on its line and within `maxKeyLength` bytes; where the indentation
admits nothing but a key, failing to complete it is an error.
-/

namespace SchemaGrammar.Yaml

/-- How many bytes a key may have before its colon, if it is not marked as a key. -/
def maxKeyLength : Nat := 1024

/-- A place where a key may have begun. -/
structure KeyStart where
  /-- Whether only a key can stand here. -/
  required : Bool
  /-- The number of tokens before it. -/
  token : Nat
  position : Position

/-- Whether a key that began here can no longer be completed. -/
def KeyStart.expired (k : KeyStart) (now : Position) : Bool :=
  k.position.line < now.line || k.position.offset + maxKeyLength < now.offset

/-- The state of the token reader. -/
structure Lexer where
  cursor : Cursor
  tokens : Array Token
  /-- The column of the innermost block collection, or -1. -/
  indent : Int
  /-- The columns of the block collections around it. -/
  indents : List Int
  /-- Whether a key may begin here. -/
  keyAllowed : Bool
  /-- Where a key may have begun inside the innermost flow collection. -/
  keyStart : Option KeyStart
  /-- The same for what is around it, innermost first. -/
  outerStarts : List (Option KeyStart)

namespace Lexer

/-- The reader at the start of a text. -/
def start (text : List Char) : Lexer :=
  ⟨⟨text, .start⟩, #[], -1, [], true, none, []⟩

/-- Whether a flow collection is open. -/
def inFlow (l : Lexer) : Bool := !l.outerStarts.isEmpty

/-- The column where the reader stands. -/
def column (l : Lexer) : Nat := l.cursor.position.column

/-- Adds a token. -/
def push (l : Lexer) (t : Token) : Lexer := { l with tokens := l.tokens.push t }

/-- Adds a token of the given width and moves over it. -/
def pushMark (l : Lexer) (t : Token) (width : Nat) : Lexer :=
  { l.push t with cursor := l.cursor.skip width }

/-- Says whether a key may begin next. -/
def allowKey (l : Lexer) (allowed : Bool) : Lexer := { l with keyAllowed := allowed }

/-! ## Where keys begin -/

/-- Forgets the innermost place where a key may have begun, unless only a key can stand there. -/
def dropKeyStart (l : Lexer) : Option Lexer :=
  match l.keyStart with
  | some k => if k.required then none else some { l with keyStart := none }
  | none => some l

/-- Remembers that a key may begin here, if it may. -/
def markKeyStart (l : Lexer) : Option Lexer :=
  if l.keyAllowed then
    let required := !l.inFlow && l.indent == l.column
    l.dropKeyStart.map fun l =>
      { l with keyStart := some ⟨required, l.tokens.size, l.cursor.position⟩ }
  else some l

/-- Forgets a place where a key can no longer be completed. -/
def expire (now : Position) : Option KeyStart → Option (Option KeyStart)
  | some k =>
    if k.expired now then
      if k.required then none else some none
    else some (some k)
  | none => some none

/-- Forgets all places where a key can no longer be completed. -/
def expireKeyStarts (l : Lexer) : Option Lexer := do
  let now := l.cursor.position
  let inner ← expire now l.keyStart
  let outer ← l.outerStarts.mapM (expire now)
  some { l with keyStart := inner, outerStarts := outer }

/-! ## Indentation -/

/-- Opens a block collection at the given column if it lies deeper than the innermost one; its
token goes in front of the token with the given number. -/
def openBlock (l : Lexer) (column : Nat) (token : Nat) (t : Token) : Lexer :=
  if !l.inFlow && l.indent < column then
    { l with
      tokens := l.tokens.insertIdxIfInBounds token t
      indent := column
      indents := l.indent :: l.indents }
  else l

/-- Opens a block collection at the current place. -/
def openBlockHere (l : Lexer) (t : Token) : Lexer := l.openBlock l.column l.tokens.size t

/-- Closes one block collection after another down to the given column. -/
def closeBlocksTo (column : Int) (tokens : Array Token) (indent : Int) :
    List Int → Array Token × Int × List Int
  | [] => (tokens, indent, [])
  | outer :: indents =>
    if column < indent then closeBlocksTo column (tokens.push .blockEnd) outer indents
    else (tokens, indent, outer :: indents)

/-- Closes the block collections that lie deeper than the given column. -/
def closeBlocks (l : Lexer) (column : Int) : Lexer :=
  if l.inFlow then l
  else
    let (tokens, indent, indents) := closeBlocksTo column l.tokens l.indent l.indents
    { l with tokens, indent, indents }

/-! ## Between tokens -/

/-- Passes blanks, comments, breaks and byte order marks at the beginning of lines. A break outside
flow collections lets a key begin, and where a key may begin outside of them a tab is no blank. -/
def passBlanks (inFlow : Bool) : List Char → Position → Bool → Bool → Cursor × Bool
  | [], p, _, keyAllowed => (⟨[], p⟩, keyAllowed)
  | '\r' :: '\n' :: rest, p, _, keyAllowed =>
    passBlanks inFlow rest (p.newLine 2) false (keyAllowed || !inFlow)
  | c :: rest, p, comment, keyAllowed =>
    if isBreak c then passBlanks inFlow rest (p.newLine c.utf8Size) false (keyAllowed || !inFlow)
    else if p.column == 0 && isByteOrderMark c then
      passBlanks inFlow rest (p.past c) false keyAllowed
    else if comment || c == '#' then passBlanks inFlow rest (p.past c) true keyAllowed
    else if c == ' ' || (c == '\t' && (inFlow || !keyAllowed)) then
      passBlanks inFlow rest (p.right 1) false keyAllowed
    else (⟨c :: rest, p⟩, keyAllowed)

/-- Moves to the next token and settles what its place decides: which keys can no longer be
completed and which block collections have ended. -/
def advance (l : Lexer) : Option Lexer := do
  let (cursor, keyAllowed) :=
    passBlanks l.inFlow l.cursor.rest l.cursor.position false l.keyAllowed
  let l ← { l with cursor, keyAllowed }.expireKeyStarts
  some (l.closeBlocks l.column)

/-! ## Tokens one by one -/

/-- Ends all block collections and refuses an unfinished key. -/
def endDocument (l : Lexer) : Option Lexer :=
  (l.closeBlocks (-1)).dropKeyStart.map (·.allowKey false)

/-- A directive. -/
def readDirectiveToken (l : Lexer) : Option Lexer := do
  let l ← l.endDocument
  let (directive, cursor) ← readDirective (l.cursor.skip 1)
  some { l.push (.directive directive) with cursor }

/-- A document marker. -/
def readMarker (l : Lexer) (t : Token) : Option Lexer :=
  l.endDocument.map (·.pushMark t 3)

/-- The beginning of a flow collection, which may be a key. -/
def openFlow (l : Lexer) (t : Token) : Option Lexer :=
  l.markKeyStart.map fun l =>
    ({ l with keyStart := none, outerStarts := l.keyStart :: l.outerStarts }.allowKey true).pushMark
      t 1

/-- The end of a flow collection. -/
def closeFlow (l : Lexer) (t : Token) : Option Lexer :=
  l.dropKeyStart.map fun l =>
    let l :=
      match l.outerStarts with
      | outer :: starts => { l with keyStart := outer, outerStarts := starts }
      | [] => l
    (l.allowKey false).pushMark t 1

/-- A comma between the items of a flow collection. -/
def readFlowEntry (l : Lexer) : Option Lexer :=
  l.dropKeyStart.map fun l => (l.allowKey true).pushMark .flowEntry 1

/-- A hyphen before an item of a block sequence. -/
def readBlockEntry (l : Lexer) : Option Lexer :=
  if !l.inFlow && !l.keyAllowed then none
  else
    (l.openBlockHere .blockSequenceStart).dropKeyStart.map fun l =>
      (l.allowKey true).pushMark .blockEntry 1

/-- A question mark before a key. -/
def readKey (l : Lexer) : Option Lexer :=
  if !l.inFlow && !l.keyAllowed then none
  else
    (l.openBlockHere .blockMappingStart).dropKeyStart.map fun l =>
      (l.allowKey (!l.inFlow)).pushMark .key 1

/-- A colon before a value. If a key may have begun, it did. -/
def readValue (l : Lexer) : Option Lexer :=
  match l.keyStart with
  | some k =>
    let marked := { l with tokens := l.tokens.insertIdxIfInBounds k.token .key, keyStart := none }
    let opened := marked.openBlock k.position.column k.token .blockMappingStart
    some ((opened.allowKey false).pushMark .value 1)
  | none =>
    if !l.inFlow && !l.keyAllowed then none
    else
      let l := l.openBlockHere .blockMappingStart
      some ((l.allowKey (!l.inFlow)).pushMark .value 1)

/-- The characters that may follow a name directly. -/
def endsName (rest : List Char) : Bool :=
  blankNext rest ||
    match rest with
    | c :: _ => "?:,]\x7d%@`".toList.contains c
    | [] => false

/-- A name after its first character. -/
def readName (l : Lexer) (t : List Char → Token) : Option Lexer := do
  let l := (← l.markKeyStart).allowKey false
  let name := (l.cursor.skip 1).taken isWordChar
  let after := l.cursor.skip (1 + name.length)
  if name.isEmpty || !endsName after.rest then none
  else some { l.push (t name) with cursor := after }

/-- A tag. -/
def readTagToken (l : Lexer) : Option Lexer := do
  let l := (← l.markKeyStart).allowKey false
  let (tag, cursor) ← readTag l.inFlow l.cursor
  some { l.push (.tag tag) with cursor }

/-- A block scalar, which is never a key. -/
def readBlock (l : Lexer) (folded : Bool) : Option Lexer := do
  let l := (← l.dropKeyStart).allowKey true
  let (text, cursor) ← readBlockScalar folded l.indent (l.cursor.skip 1)
  some { l.push (.scalar false text) with cursor }

/-- A quoted scalar, read by the given reader after its opening quote. -/
def readQuoted (l : Lexer) (read : List Char → Position → Gap → Option FlowScalar) :
    Option Lexer := do
  let l := (← l.markKeyStart).allowKey false
  let inner := l.cursor.skip 1
  let scalar ← read inner.rest inner.position .empty
  some { l.push (.scalar false scalar.text) with cursor := scalar.after }

/-- A plain scalar. If a break was passed after its last word, a key may begin next. -/
def readPlainToken (l : Lexer) : Option Lexer := do
  let l := (← l.markKeyStart).allowKey false
  let scalar ← readPlain l.inFlow (l.indent + 1) l.cursor.rest l.cursor.position .empty
  let l := { l.push (.scalar true scalar.text) with cursor := scalar.after }
  some (if scalar.broken then l.allowKey true else l)

/-- The characters that begin no plain scalar, or only in some places. -/
def isIndicator (c : Char) : Bool :=
  "-?:,[]\x7b\x7d#&*!|>'\"%@`".toList.contains c

/-- Whether a plain scalar may begin here. -/
def plainNext (inFlow : Bool) (c : Char) (rest : List Char) : Bool :=
  !(isBlank c || isIndicator c) || (c == '-' && (rest.head?.map (!isBlank ·)).getD true) ||
    (!inFlow && (c == '?' || c == ':') && !blankNext rest)

/-- The token that comes next, where the reader stands on its first character. -/
def readToken (l : Lexer) (c : Char) (rest : List Char) : Option Lexer :=
  if l.column == 0 && c == '%' then l.readDirectiveToken
  else if l.column == 0 && markerNext (c :: rest) then
    l.readMarker (if c == '-' then .documentStart else .documentEnd)
  else if c == '[' then l.openFlow .flowSequenceStart
  else if c == '\x7b' then l.openFlow .flowMappingStart
  else if c == ']' then l.closeFlow .flowSequenceEnd
  else if c == '\x7d' then l.closeFlow .flowMappingEnd
  else if c == ',' then l.readFlowEntry
  else if c == '-' && blankNext rest then l.readBlockEntry
  else if c == '?' && (l.inFlow || blankNext rest) then l.readKey
  else if c == ':' && (l.inFlow || blankNext rest) then l.readValue
  else if c == '*' then l.readName .alias
  else if c == '&' then l.readName .anchor
  else if c == '!' then l.readTagToken
  else if c == '|' && !l.inFlow then l.readBlock false
  else if c == '>' && !l.inFlow then l.readBlock true
  else if c == '\'' then l.readQuoted readSingleQuoted
  else if c == '"' then l.readQuoted readDoubleQuoted
  else if plainNext l.inFlow c rest then l.readPlainToken
  else none

/-- Reads all tokens. The first argument bounds their number. -/
def readAll : Nat → Lexer → Option Lexer
  | 0, _ => none
  | bound + 1, l =>
    match l.advance with
    | none => none
    | some l =>
      match l.cursor.rest with
      | [] => l.endDocument
      | c :: rest =>
        match l.readToken c rest with
        | none => none
        | some l => readAll bound l

end Lexer

/-- The tokens of a text; none if it has a character or a token that no text may have. -/
def Token.ofText? (text : List Char) : Option (List Token) :=
  if text.all isAllowed then
    (Lexer.readAll (text.length + 1) (.start text)).map (·.tokens.toList)
  else none

end SchemaGrammar.Yaml
