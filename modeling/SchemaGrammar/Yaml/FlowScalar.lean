import SchemaGrammar.Text.Digits
import SchemaGrammar.Yaml.Cursor

/-!
# Scalars that flow over lines

Plain and quoted scalars may run over several lines. What stands between two words of such a scalar
is a `Gap`: blanks on one line stay as they are, and a gap with breaks is folded, a single line feed
to a blank and several to all but the first. The three readers walk the text one character at a
time and carry the gap that has been seen since the last word.
-/

namespace SchemaGrammar.Yaml

/-! ## Gaps -/

/-- What was seen since the last word of a scalar. -/
inductive Gap where
  /-- Nothing. -/
  | empty
  /-- Blanks on one line. -/
  | blanks (cs : List Char)
  /-- A break and then further breaks; blanks around them do not count. An escaped break leaves no
  character. -/
  | broken (first : List Char) (further : List Char)

namespace Gap

/-- Adds a blank. -/
def blank : Gap → Char → Gap
  | .empty, c => .blanks [c]
  | .blanks cs, c => .blanks (cs ++ [c])
  | .broken first further, _ => .broken first further

/-- Adds a break. -/
def lineBreak : Gap → Char → Gap
  | .broken first further, b => .broken first (further ++ [b])
  | _, b => .broken [b] []

/-- What the gap contributes to the scalar. -/
def text : Gap → List Char
  | .empty => []
  | .blanks cs => cs
  | .broken ['\n'] [] => [' ']
  | .broken ['\n'] further => further
  | .broken first further => first ++ further

/-- Whether the gap holds anything. -/
def isEmpty : Gap → Bool
  | .empty => true
  | _ => false

/-- Whether the gap holds a break. -/
def isBroken : Gap → Bool
  | .broken _ _ => true
  | _ => false

end Gap

/-- A scalar that was read and where the reader stands after it. -/
structure FlowScalar where
  text : List Char
  after : Cursor
  /-- Whether a break was passed since the last word. -/
  broken : Bool

/-- The scalar with more text in front. -/
def FlowScalar.prepend (front : List Char) (s : FlowScalar) : FlowScalar :=
  { s with text := front ++ s.text }

/-! ## Plain scalars -/

/-- The characters that delimit the items of a flow collection. -/
def isFlowIndicator (c : Char) : Bool :=
  c == ',' || c == '[' || c == ']' || c == '\x7b' || c == '\x7d'

/-- Whether a plain scalar ends before this character, which is no blank. After a gap a comment, a
document marker or, outside flow collections, a shallower column ends it; a colon with a blank
after it always does, and inside flow collections so do their delimiters. -/
def endsPlain (inFlow : Bool) (indent : Int) (gap : Gap) (p : Position) (c : Char)
    (rest : List Char) : Bool :=
  (!gap.isEmpty &&
    ((!inFlow && (p.column : Int) < indent) || (p.column == 0 && markerNext (c :: rest)) ||
      c == '#')) ||
  (c == ':' && blankNext rest) || (inFlow && isFlowIndicator c)

/-- Whether a colon inside a flow collection stands where it can neither end a key nor belong to a
scalar. -/
def strayColon (inFlow : Bool) (c : Char) (rest : List Char) : Bool :=
  inFlow && c == ':' &&
    match rest with
    | d :: _ => isFlowIndicator d || d == '?'
    | [] => false

/-- A plain scalar. The gap is what was seen since its last word, and the scalar's lines have to
reach the given column. -/
def readPlain (inFlow : Bool) (indent : Int) : List Char → Position → Gap → Option FlowScalar
  | [], p, gap => some ⟨[], ⟨[], p⟩, gap.isBroken⟩
  | '\r' :: '\n' :: rest, p, gap =>
    readPlain inFlow indent rest (p.newLine 2) (gap.lineBreak '\n')
  | c :: rest, p, gap =>
    if isBreak c then
      readPlain inFlow indent rest (p.newLine c.utf8Size) (gap.lineBreak (breakChar c))
    else if isBlank c then
      if c = '\t' ∧ gap.isBroken ∧ (p.column : Int) < indent then none
      else readPlain inFlow indent rest (p.right 1) (gap.blank c)
    else if endsPlain inFlow indent gap p c rest then
      some ⟨[], ⟨c :: rest, p⟩, gap.isBroken⟩
    else if strayColon inFlow c rest then none
    else (readPlain inFlow indent rest (p.past c) .empty).map (·.prepend (gap.text ++ [c]))

/-! ## Quoted scalars -/

/-- A single-quoted scalar after its opening quote; a quote is written twice. -/
def readSingleQuoted : List Char → Position → Gap → Option FlowScalar
  | [], _, _ => none
  | '\'' :: '\'' :: rest, p, gap =>
    (readSingleQuoted rest (p.right 2) .empty).map (·.prepend (gap.text ++ ['\'']))
  | '\'' :: rest, p, gap => some ⟨gap.text, ⟨rest, p.right 1⟩, false⟩
  | '\r' :: '\n' :: rest, p, gap => readSingleQuoted rest (p.newLine 2) (gap.lineBreak '\n')
  | c :: rest, p, gap =>
    if isBreak c then
      readSingleQuoted rest (p.newLine c.utf8Size) (gap.lineBreak (breakChar c))
    else if isBlank c then readSingleQuoted rest (p.right 1) (gap.blank c)
    else if p.column == 0 && markerNext (c :: rest) then none
    else (readSingleQuoted rest (p.past c) .empty).map (·.prepend (gap.text ++ [c]))

/-- The character that a one-letter escape stands for. -/
def escapeChar? : Char → Option Char
  | '0' => some '\x00'
  | 'a' => some '\x07'
  | 'b' => some '\x08'
  | 't' => some '\t'
  | '\t' => some '\t'
  | 'n' => some '\n'
  | 'v' => some '\x0b'
  | 'f' => some '\x0c'
  | 'r' => some '\r'
  | 'e' => some '\x1b'
  | ' ' => some ' '
  | '"' => some '"'
  | '/' => some '/'
  | '\\' => some '\\'
  | 'N' => some '\x85'
  | '_' => some '\xa0'
  | 'L' => some '\u2028'
  | 'P' => some '\u2029'
  | _ => none

/-- The character whose number hexadecimal digits spell, if there is one. -/
def hexChar? (digits : List Char) : Option Char := do
  let n ← Text.digitsIn? 16 digits
  if n.isValidChar then some (Char.ofNat n) else none

/-- A double-quoted scalar after its opening quote. -/
def readDoubleQuoted : List Char → Position → Gap → Option FlowScalar
  | [], _, _ => none
  | '"' :: rest, p, gap => some ⟨gap.text, ⟨rest, p.right 1⟩, false⟩
  | '\\' :: 'x' :: a :: b :: rest, p, gap =>
    match hexChar? [a, b] with
    | none => none
    | some c => (readDoubleQuoted rest (p.right 4) .empty).map (·.prepend (gap.text ++ [c]))
  | '\\' :: 'u' :: a :: b :: c :: d :: rest, p, gap =>
    match hexChar? [a, b, c, d] with
    | none => none
    | some c => (readDoubleQuoted rest (p.right 6) .empty).map (·.prepend (gap.text ++ [c]))
  | '\\' :: 'U' :: a :: b :: c :: d :: e :: f :: g :: h :: rest, p, gap =>
    match hexChar? [a, b, c, d, e, f, g, h] with
    | none => none
    | some c => (readDoubleQuoted rest (p.right 10) .empty).map (·.prepend (gap.text ++ [c]))
  | '\\' :: '\r' :: '\n' :: rest, p, gap =>
    (readDoubleQuoted rest ((p.right 1).newLine 2) (.broken [] [])).map (·.prepend gap.text)
  | '\\' :: e :: rest, p, gap =>
    if isBreak e then
      (readDoubleQuoted rest ((p.right 1).newLine e.utf8Size) (.broken [] [])).map
        (·.prepend gap.text)
    else
      match escapeChar? e with
      | none => none
      | some c => (readDoubleQuoted rest (p.right 2) .empty).map (·.prepend (gap.text ++ [c]))
  | '\r' :: '\n' :: rest, p, gap => readDoubleQuoted rest (p.newLine 2) (gap.lineBreak '\n')
  | c :: rest, p, gap =>
    if c = '\\' then none
    else if isBreak c then
      readDoubleQuoted rest (p.newLine c.utf8Size) (gap.lineBreak (breakChar c))
    else if isBlank c then readDoubleQuoted rest (p.right 1) (gap.blank c)
    else if p.column == 0 && markerNext (c :: rest) then none
    else (readDoubleQuoted rest (p.past c) .empty).map (·.prepend (gap.text ++ [c]))

end SchemaGrammar.Yaml
