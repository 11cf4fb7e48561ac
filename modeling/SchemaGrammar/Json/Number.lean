import SchemaGrammar.Document.Basic
import SchemaGrammar.Text.Digits

/-!
# Numbers in JSON text

A number is read in two steps: its spelling is split into sign, digits before and after the point
and exponent, and the spelling is then given its value. An integer that fits keeps its exact value.
Any other number becomes a double-precision number by scaling a 64-bit significand with a power of
ten, which is not always the nearest number to the spelling: digits that do not fit the significand
are dropped, and the significand, the power and their product are each rounded.
-/

namespace SchemaGrammar.Json

/-- The spelling of a number. -/
structure NumberSpelling where
  negative : Bool
  /-- The digits before the point. -/
  whole : List Char
  /-- The digits after the point, if there is one. -/
  fraction : Option (List Char)
  /-- The exponent, if there is one: whether it is negative, and its digits. -/
  exponent : Option (Bool × List Char)

/-- One or more digits. -/
def readDigits (cs : List Char) : Option (List Char × List Char) :=
  match cs.takeWhile Char.isDigit with
  | [] => none
  | digits => some (digits, cs.dropWhile Char.isDigit)

/-- The digits before the point: a zero stands alone. -/
def readWhole : List Char → Option (List Char × List Char)
  | '0' :: rest =>
    match rest with
    | c :: _ => if c.isDigit then none else some (['0'], rest)
    | [] => some (['0'], [])
  | cs => readDigits cs

/-- The point and the digits after it, if there is a point. -/
def readFraction : List Char → Option (Option (List Char) × List Char)
  | '.' :: rest => (readDigits rest).map fun (digits, rest) => (some digits, rest)
  | cs => some (none, cs)

/-- The digits of an exponent after its sign. -/
def readExponentDigits (negative : Bool) (cs : List Char) :
    Option (Option (Bool × List Char) × List Char) :=
  (readDigits cs).map fun (digits, rest) => (some (negative, digits), rest)

/-- The exponent, if there is one. -/
def readExponent : List Char → Option (Option (Bool × List Char) × List Char)
  | c :: rest =>
    if c = 'e' ∨ c = 'E' then
      match rest with
      | '+' :: rest => readExponentDigits false rest
      | '-' :: rest => readExponentDigits true rest
      | rest => readExponentDigits false rest
    else some (none, c :: rest)
  | [] => some (none, [])

/-- A number without its sign. -/
def readUnsigned (negative : Bool) (cs : List Char) : Option (NumberSpelling × List Char) := do
  let (whole, cs) ← readWhole cs
  let (fraction, cs) ← readFraction cs
  let (exponent, cs) ← readExponent cs
  some (⟨negative, whole, fraction, exponent⟩, cs)

/-- The spelling of a number at the front of the text, and the rest. -/
def NumberSpelling.read : List Char → Option (NumberSpelling × List Char)
  | '-' :: rest => readUnsigned true rest
  | cs => readUnsigned false cs

/-- Appends digits to a significand as long as it stays below `2 ^ 64`; the second component holds
the digits that are left, from the first that did not fit. -/
def extendSignificand : Nat → List Char → Nat × List Char
  | significand, [] => (significand, [])
  | significand, d :: digits =>
    let next := significand * 10 + Text.digitValue d
    if next < Number.naturalLimit then extendSignificand next digits else (significand, d :: digits)

/-- The significand of a spelling and the power of ten that goes with it, the written exponent not
yet counted. -/
def NumberSpelling.significand (n : NumberSpelling) : Nat × Int :=
  let (whole, dropped) := extendSignificand 0 n.whole
  let fraction := n.fraction.getD []
  let (both, left) := extendSignificand whole fraction
  (both, (dropped.length : Int) - ((fraction.length : Int) - left.length))

/-- The greatest power of ten that is divided or multiplied by in one step. -/
def maxPower : Nat := 308

/-- Divides by a power of ten in steps of at most `maxPower`. -/
def scaleDown (x : Binary64) (power : Nat) : Option Binary64 :=
  if maxPower < power then
    if x.isZero then some x
    else do
      let step ← Binary64.powTen? maxPower
      scaleDown (← x.div? step) (power - maxPower)
  else do
    x.div? (← Binary64.powTen? power)
termination_by power
decreasing_by simp only [maxPower] at *; omega

/-- Multiplies by a power of ten; none when the result would not be finite. -/
def scaleUp (x : Binary64) (power : Nat) : Option Binary64 :=
  if maxPower < power then
    if x.isZero then some x else none
  else do
    x.mul? (← Binary64.powTen? power)

/-- A significand times a power of ten. -/
def scale (significand : Nat) (power : Int) : Option Binary64 := do
  let x ← Binary64.ofNat? significand
  if 0 ≤ power then scaleUp x power.toNat else scaleDown x (-power).toNat

/-- The greatest exponent that is counted; beyond it only its sign matters. -/
def maxExponent : Nat := Nat.pow 2 31 - 1

/-- The magnitude of a spelling as a double-precision number; none when it would not be finite. -/
def NumberSpelling.magnitude (n : NumberSpelling) : Option Binary64 :=
  let (significand, power) := n.significand
  match n.exponent with
  | none => scale significand power
  | some (negative, digits) =>
    let written := Text.digitsValue digits
    if written ≤ maxExponent then
      scale significand (if negative then power - written else power + written)
    else if significand ≠ 0 ∧ !negative then none
    else some Binary64.zero

/-- The value of a spelling as a double-precision number. -/
def NumberSpelling.float (n : NumberSpelling) : Option Number :=
  n.magnitude.map fun x => .float (if n.negative then x.neg else x)

/-- The value of a spelling: the integer itself when there is neither a point nor an exponent and
it is in range, and a double-precision number otherwise. A zero with a sign is the negative zero. -/
def NumberSpelling.value (n : NumberSpelling) : Option Number :=
  if n.fraction.isSome ∨ n.exponent.isSome then n.float
  else
    match n.negative, Text.digitsValue n.whole with
    | false, value =>
      if h : value < Number.naturalLimit then some (.natural ⟨value, h⟩) else n.float
    | true, 0 => n.float
    | true, value + 1 =>
      if h : value < Number.negativeLimit then some (.negative ⟨value, h⟩) else n.float

/-- A number at the front of the text, and the rest. -/
def readNumber (cs : List Char) : Option (Number × List Char) := do
  let (spelling, rest) ← NumberSpelling.read cs
  some (← spelling.value, rest)

end SchemaGrammar.Json
