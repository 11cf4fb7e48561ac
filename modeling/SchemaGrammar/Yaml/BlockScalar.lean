import SchemaGrammar.Text.Digits
import SchemaGrammar.Yaml.Cursor

/-!
# Block scalars

A literal scalar keeps its line breaks and a folded one joins its lines. The header may state how
far the lines are indented and what becomes of the breaks at the end; without a stated indentation
the first line that is not empty sets it, or the longest run of blanks before it.
-/

namespace SchemaGrammar.Yaml

/-- What becomes of the breaks at the end of a block scalar. -/
inductive Chomping where
  /-- All are dropped. -/
  | strip
  /-- One is kept. -/
  | clip
  /-- All are kept. -/
  | keep

/-- The header of a block scalar: what becomes of its last breaks, and how much further than its
parent it is indented, if that is stated. -/
structure BlockHeader where
  chomping : Chomping
  increment : Option Nat

/-- The chomping indicator that comes next, if one does. -/
def chompingNext : List Char → Option Chomping
  | '+' :: _ => some .keep
  | '-' :: _ => some .strip
  | _ => none

/-- The indentation indicator that comes next, if one does: a digit other than zero. The outer
option is none for a zero. -/
def incrementNext : List Char → Option (Option Nat)
  | c :: _ =>
    if c = '0' then none
    else if c.isDigit then some (some (Text.digitValue c))
    else some none
  | [] => some none

/-- The header after its first character. The two indicators may stand in either order. -/
def readBlockHeader (c : Cursor) : Option (BlockHeader × Cursor) :=
  match chompingNext c.rest with
  | some chomping =>
    let c := c.skip 1
    match incrementNext c.rest with
    | none => none
    | some none => c.finishLine?.map (⟨chomping, none⟩, ·)
    | some (some n) => (c.skip 1).finishLine?.map (⟨chomping, some n⟩, ·)
  | none =>
    match incrementNext c.rest with
    | none => none
    | some none => c.finishLine?.map (⟨.clip, none⟩, ·)
    | some (some n) =>
      let c := c.skip 1
      match chompingNext c.rest with
      | some chomping => (c.skip 1).finishLine?.map (⟨chomping, some n⟩, ·)
      | none => c.finishLine?.map (⟨.clip, some n⟩, ·)

/-- Empty lines: the breaks that were passed, the greatest column that was reached and the place
after them. -/
structure EmptyLines where
  breaks : List Char
  reached : Nat
  after : Cursor

/-- Passes indentation and empty lines. Indentation ends at the given column, or at the first
character that is no blank if no column is given; a tab inside it is refused. -/
def passEmptyLines (indent : Option Nat) : List Char → Position → List Char → Nat →
    Option EmptyLines
  | [], p, breaks, reached => some ⟨breaks, max reached p.column, ⟨[], p⟩⟩
  | '\r' :: '\n' :: rest, p, breaks, reached =>
    passEmptyLines indent rest (p.newLine 2) (breaks ++ ['\n']) (max reached p.column)
  | c :: rest, p, breaks, reached =>
    let inside := indent.all (p.column < ·)
    if inside && c == ' ' then passEmptyLines indent rest (p.right 1) breaks reached
    else if inside && c == '\t' then none
    else if isBreak c then
      passEmptyLines indent rest (p.newLine c.utf8Size) (breaks ++ [breakChar c])
        (max reached p.column)
    else some ⟨breaks, max reached p.column, ⟨c :: rest, p⟩⟩

/-- Lines of a block scalar, and what was seen after them. -/
structure BlockLines where
  text : List Char
  /-- The break after the last line, not yet part of the text. -/
  lineEnd : List Char
  /-- The breaks of the empty lines after it, not yet part of the text. -/
  further : List Char
  /-- Whether the last line began with a blank. -/
  indented : Bool
  cursor : Cursor

/-- What stands between the lines read so far and a next line, which may begin with a blank. A
folded scalar joins two lines that do not begin with a blank. -/
def BlockLines.separator (lines : BlockLines) (folded : Bool) (nextIndented : Bool) : List Char :=
  if folded && lines.lineEnd == ['\n'] && !lines.indented && !nextIndented then
    if lines.further.isEmpty then [' '] else lines.further
  else lines.lineEnd ++ lines.further

/-- The lines with more text in front. -/
def BlockLines.prepend (front : List Char) (lines : BlockLines) : BlockLines :=
  { lines with text := front ++ lines.text }

/-- Reads the lines that begin at the given column, after what was read so far. The first argument
bounds their number. -/
def readBlockLines (folded : Bool) (indent : Nat) : Nat → BlockLines → Option BlockLines
  | 0, lines => some lines
  | bound + 1, lines =>
    match lines.cursor.rest with
    | [] => some lines
    | c :: _ =>
      if lines.cursor.position.column = indent then
        let line := lines.cursor.taken (!isBreak ·)
        let lineEnd := lines.cursor.skip line.length
        let next := lineEnd.skipBreak
        match passEmptyLines (some indent) next.rest next.position [] 0 with
        | none => none
        | some empty =>
          let front := lines.separator folded (isBlank c) ++ line
          (readBlockLines folded indent bound
            ⟨[], lineEnd.nextBreak, empty.breaks, isBlank c, empty.after⟩).map (·.prepend front)
      else some lines

/-- The text with the breaks at its end treated as the header says. -/
def BlockLines.chomped (lines : BlockLines) : Chomping → List Char
  | .strip => lines.text
  | .clip => lines.text ++ lines.lineEnd
  | .keep => lines.text ++ lines.lineEnd ++ lines.further

/-- A block scalar after its first character, below a node at the given column. -/
def readBlockScalar (folded : Bool) (parent : Int) (c : Cursor) : Option (List Char × Cursor) := do
  let (header, c) ← readBlockHeader c
  let stated := header.increment.map ((max parent 0).toNat + ·)
  let empty ← passEmptyLines stated c.rest c.position [] 0
  let indent := stated.getD (max (max empty.reached (parent + 1).toNat) 1)
  let lines ← readBlockLines folded indent (empty.after.rest.length + 1)
    ⟨[], [], empty.breaks, false, empty.after⟩
  some (lines.chomped header.chomping, lines.cursor)

end SchemaGrammar.Yaml
