import SchemaGrammar.Document.Distinct
import SchemaGrammar.Yaml.Tag

/-!
# The value of a scalar

A plain scalar without a tag is read as null, a truth value, an integer or a floating-point number
if it is spelled like one, and as a string otherwise. A tag of the core schema asks for one of these
readings whatever the style, and fails if the spelling does not fit; any other full tag makes the
scalar a string. A tag that begins with an exclamation mark is local: it is refused if it can be
read as text, and passed over if it cannot.
-/

namespace SchemaGrammar.Yaml

/-! ## Words -/

/-- Whether the text is one of the words for null. -/
def isNullWord (s : String) : Bool := s == "null" || s == "Null" || s == "NULL" || s == "~"

/-- The truth value that a word stands for. -/
def boolWord? : String → Option Bool
  | "true" => some true
  | "True" => some true
  | "TRUE" => some true
  | "false" => some false
  | "False" => some false
  | "FALSE" => some false
  | _ => none

/-! ## Integers -/

/-- Whether the text, up to a sign, is a zero and further digits. Such a text is no number. -/
def hasLeadingZero (cs : List Char) : Bool :=
  let unsigned :=
    match cs with
    | '-' :: rest => rest
    | '+' :: rest => rest
    | rest => rest
  match unsigned with
  | '0' :: d :: rest => (d :: rest).all Char.isDigit
  | _ => false

/-- The base that a spelling announces, and its digits. -/
def announcedBase? : List Char → Option (Nat × List Char)
  | '0' :: 'x' :: digits => some (16, digits)
  | '0' :: 'o' :: digits => some (8, digits)
  | '0' :: 'b' :: digits => some (2, digits)
  | _ => none

/-- The magnitude of an integer without its sign, in the base that it announces or in base ten. -/
def magnitude? (cs : List Char) : Option Nat :=
  match announcedBase? cs with
  | some (base, digits) => Text.digitsIn? base digits
  | none => Text.digitsIn? 10 cs

/-- The integer that a text spells. -/
def integer? (cs : List Char) : Option Int :=
  if hasLeadingZero cs then none
  else
    match cs with
    | '-' :: rest => (magnitude? rest).map fun n => -(n : Int)
    | '+' :: rest => (magnitude? rest).map Int.ofNat
    | rest => (magnitude? rest).map Int.ofNat

/-- The range in which an integer is one, whether or not a document can hold it. Beyond it a
spelling is no integer. -/
def inWideRange : Int → Bool
  | .ofNat n => n < Nat.pow 2 128
  | .negSucc n => n < Nat.pow 2 127

/-! ## Floating-point numbers -/

/-- The value of a floating-point spelling. -/
inductive FloatValue where
  | finite (x : Binary64)
  /-- An infinity or no number at all, neither of which a document can hold. -/
  | special

/-- The digits of an exponent, without its sign. -/
def exponentDigits? (negative : Bool) (digits : List Char) : Option Int :=
  (Text.digitsIn? 10 digits).map fun n => if negative then -(n : Int) else n

/-- The exponent of a number, zero if there is none. -/
def exponent? : List Char → Option Int
  | [] => some 0
  | c :: rest =>
    if c = 'e' ∨ c = 'E' then
      match rest with
      | '-' :: digits => exponentDigits? true digits
      | '+' :: digits => exponentDigits? false digits
      | digits => exponentDigits? false digits
    else none

/-- The digits after a point, if there is one, and the rest. -/
def fractionDigits : List Char → List Char × List Char
  | '.' :: rest => (rest.takeWhile Char.isDigit, rest.dropWhile Char.isDigit)
  | rest => ([], rest)

/-- The number that digits with an optional point and an optional exponent spell, if it is
finite. -/
def decimal? (cs : List Char) : Option Binary64 := do
  let whole := cs.takeWhile Char.isDigit
  let (fraction, rest) := fractionDigits (cs.dropWhile Char.isDigit)
  let digits ← Text.digitsIn? 10 (whole ++ fraction)
  let exponent ← exponent? rest
  Binary64.ofDecimal? digits (exponent - fraction.length)

/-- The words for infinity, without a sign. -/
def isInfinityWord (cs : List Char) : Bool :=
  cs == ".inf".toList || cs == ".Inf".toList || cs == ".INF".toList

/-- The words for no number. -/
def isNanWord (cs : List Char) : Bool :=
  cs == ".nan".toList || cs == ".NaN".toList || cs == ".NAN".toList

/-- The floating-point number that a text spells. -/
def float? (cs : List Char) : Option FloatValue :=
  if isNanWord cs then some .special
  else
    match cs with
    | '-' :: rest =>
      if isInfinityWord rest then some .special
      else (decimal? rest).map fun x => .finite x.neg
    | '+' :: rest =>
      if isInfinityWord rest then some .special else (decimal? rest).map .finite
    | rest => if isInfinityWord rest then some .special else (decimal? rest).map .finite

/-- A floating-point number as a document. -/
def FloatValue.document : FloatValue → DistinctDocument
  | .finite x => .number (.float x)
  | .special => .null

/-! ## Scalars -/

/-- An integer as a document, if a document can hold it. -/
def integerDocument? (n : Int) : Option DistinctDocument := (Number.ofInt? n).map .number

/-- The value of a plain scalar without a tag. An integer that no document can hold is an error,
but one beyond the wide range is a floating-point number. -/
def plainValue? (cs : List Char) : Option DistinctDocument :=
  let s := String.ofList cs
  if cs.isEmpty || isNullWord s then some .null
  else
    match boolWord? s with
    | some b => some (.bool b)
    | none =>
      match (integer? cs).filter inWideRange with
      | some n => integerDocument? n
      | none =>
        if hasLeadingZero cs then some (.string s)
        else
          match float? cs with
          | some x => some x.document
          | none => some (.string s)

/-- Whether a tag is local: it begins with an exclamation mark, and all of it spells characters. -/
def isLocalTag (tag : TagText) : Bool := tag.head? == some (some '!') && tag.all Option.isSome

/-- Whether a tag is passed over: it begins with an exclamation mark, and part of it spells no
character. -/
def isIdleTag (tag : TagText) : Bool := tag.head? == some (some '!') && !tag.all Option.isSome

/-- The value of a scalar. -/
def scalarValue? (tag : Option TagText) (plain : Bool) (cs : List Char) : Option DistinctDocument :=
  let s := String.ofList cs
  match tag.filter (!isIdleTag ·) with
  | none => if plain then plainValue? cs else some (.string s)
  | some tag =>
    if isLocalTag tag then none
    else if tag = coreTag "bool" then (boolWord? s).map .bool
    else if tag = coreTag "int" then
      ((integer? cs).filter inWideRange).bind integerDocument?
    else if tag = coreTag "float" then (float? cs).map (·.document)
    else if tag = coreTag "null" then if isNullWord s then some .null else none
    else some (.string s)

end SchemaGrammar.Yaml
