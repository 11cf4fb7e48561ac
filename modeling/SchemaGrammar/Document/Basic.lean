import SchemaGrammar.Entries
import SchemaGrammar.Number.Binary64

/-!
# Documents

The value that a schema text denotes, whichever format it was written in: null, truth values,
numbers, strings, lists and objects, an object being a list of members in the order in which their
names first appeared.
-/

namespace SchemaGrammar

/-- One more than the greatest natural number of a document, `2 ^ 64`. -/
abbrev Number.naturalLimit : Nat := 0x10000000000000000

/-- How many negative integers a document can hold, `2 ^ 63`. -/
abbrev Number.negativeLimit : Nat := 0x8000000000000000

/-- A number of a document: a natural number below `2 ^ 64`, a negative integer down to `-2 ^ 63`,
or a finite double-precision number. -/
inductive Number where
  | natural (n : Fin Number.naturalLimit)
  /-- The integer `-(n + 1)`. -/
  | negative (n : Fin Number.negativeLimit)
  | float (x : Binary64)
deriving DecidableEq

/-- The value of a document. -/
inductive Document where
  | null
  | bool (b : Bool)
  | number (n : Number)
  | string (s : String)
  | list (items : List Document)
  | object (members : List (String × Document))

namespace Number

/-- An integer as a number, when it lies in the range of the integer forms. -/
def ofInt? : Int → Option Number
  | .ofNat n => if h : n < naturalLimit then some (.natural ⟨n, h⟩) else none
  | .negSucc n => if h : n < negativeLimit then some (.negative ⟨n, h⟩) else none

/-- Whether the number equals zero. -/
def isZero : Number → Bool
  | .natural n => n.val == 0
  | .negative _ => false
  | .float x => x.isZero

/-- Whether the number equals one. -/
def isOne : Number → Bool
  | .natural n => n.val == 1
  | .negative _ => false
  | .float x => x.isOne

end Number

namespace Document

/-- Whether a keyword with this value counts as declared: null, false, zero, the empty string and
empty containers do not. -/
def truthy : Document → Bool
  | .null => false
  | .bool b => b
  | .number n => !n.isZero
  | .string s => s != ""
  | .list items => !items.isEmpty
  | .object members => !members.isEmpty

/-- The text of a string, and nothing for any other value. -/
def asString? : Document → Option String
  | .string s => some s
  | _ => none

end Document

end SchemaGrammar
