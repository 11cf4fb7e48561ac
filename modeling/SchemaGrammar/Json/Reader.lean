import SchemaGrammar.Document.Distinct
import SchemaGrammar.Json.Number
import SchemaGrammar.Json.Quoted

/-!
# Reading JSON text

A text is one value with blanks around it. Containers nest at most `maxDepth` deep, and that bound
is what the recursion descends on: the items of a container are read by a reader that may nest one
level less. Within a container the number of characters left bounds the number of items.
-/

namespace SchemaGrammar.Json

/-- How deep containers may nest. -/
def maxDepth : Nat := 127

/-- The blanks of the format. -/
def isBlank (c : Char) : Bool := c == ' ' || c == '\t' || c == '\n' || c == '\r'

/-- The text without the blanks at its front. -/
def skipBlanks (cs : List Char) : List Char := cs.dropWhile isBlank

/-- One or more items with commas between them, up to the closing mark. The first argument bounds
their number. -/
def readSeparated {α : Type} (item : List Char → Option (α × List Char)) (close : Char) :
    Nat → List Char → Option (List α × List Char)
  | 0, _ => none
  | bound + 1, cs =>
    match item cs with
    | none => none
    | some (x, rest) =>
      match skipBlanks rest with
      | [] => none
      | c :: rest =>
        if c = close then some ([x], rest)
        else if c = ',' then
          (readSeparated item close bound rest).map fun (xs, rest) => (x :: xs, rest)
        else none

/-- Any number of items with commas between them, up to the closing mark. -/
def readContainer {α : Type} (item : List Char → Option (α × List Char)) (close : Char)
    (cs : List Char) : Option (List α × List Char) :=
  match skipBlanks cs with
  | [] => none
  | c :: rest =>
    if c = close then some ([], rest) else readSeparated item close (c :: rest).length (c :: rest)

/-- A member of an object: a name, a colon and a value. -/
def readMember (value : List Char → Option (DistinctDocument × List Char)) (cs : List Char) :
    Option ((String × DistinctDocument) × List Char) :=
  match skipBlanks cs with
  | '"' :: rest =>
    match readQuoted rest with
    | none => none
    | some (name, rest) =>
      match skipBlanks rest with
      | ':' :: rest => (value rest).map fun (d, rest) => ((String.ofList name, d), rest)
      | _ => none
  | _ => none

/-- A value at the front of the text, and the rest. The first argument is how deep its containers
may nest. -/
def readValue (depth : Nat) (cs : List Char) : Option (DistinctDocument × List Char) :=
  match skipBlanks cs with
  | 'n' :: 'u' :: 'l' :: 'l' :: rest => some (.null, rest)
  | 't' :: 'r' :: 'u' :: 'e' :: rest => some (.bool true, rest)
  | 'f' :: 'a' :: 'l' :: 's' :: 'e' :: rest => some (.bool false, rest)
  | '"' :: rest => (readQuoted rest).map fun (s, rest) => (.string (String.ofList s), rest)
  | '[' :: rest =>
    match depth with
    | 0 => none
    | depth + 1 =>
      (readContainer (readValue depth) ']' rest).map fun (items, rest) => (.list items, rest)
  | '\x7b' :: rest =>
    match depth with
    | 0 => none
    | depth + 1 =>
      (readContainer (readMember (readValue depth)) '\x7d' rest).map fun (members, rest) =>
        (.object members, rest)
  | cs => (readNumber cs).map fun (n, rest) => (.number n, rest)

/-- The document that a text spells, if it spells one. -/
def read (text : String) : Option DistinctDocument :=
  match readValue maxDepth text.toList with
  | some (d, rest) => if (skipBlanks rest).isEmpty then some d else none
  | none => none

end SchemaGrammar.Json
