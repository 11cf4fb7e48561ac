/-!
# Parts of a text

A text cut at every occurrence of a mark. There is always one part more than there are marks, so
parts may be empty.
-/

namespace SchemaGrammar.Text

/-- The parts of a text between the occurrences of a mark, empty ones included. -/
def parts (mark : Char) : List Char → List (List Char)
  | [] => [[]]
  | c :: cs =>
    if c = mark then [] :: parts mark cs
    else
      match parts mark cs with
      | [] => [[c]]
      | part :: rest => (c :: part) :: rest

end SchemaGrammar.Text
