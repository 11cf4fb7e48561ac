import SchemaGrammar.Number.Shortest

/-!
# The text of a number

A decimal is written positionally while its leading digit stands near the point, and with an
exponent otherwise; where the change lies is a property of the format that uses the text and is
given by a `DecimalStyle`.
-/

namespace SchemaGrammar

/-- For which exponents of the leading digit a decimal is written positionally. -/
structure DecimalStyle where
  leastPositional : Int
  greatestPositional : Int

/-- The decimal digits of a natural number. -/
def natText (n : Nat) : List Char := Nat.toDigits 10 n

/-- An exponent with its sign always written. -/
def exponentText (x : Int) : List Char :=
  (if x < 0 then '-' else '+') :: natText x.natAbs

/-- A decimal in positional notation with at least one digit on each side of the point. -/
def positionalText (digits : List Char) (lead : Int) : List Char :=
  if lead < 0 then
    ['0', '.'] ++ List.replicate (-lead - 1).toNat '0' ++ digits
  else
    let whole := lead.toNat + 1
    let padded := digits ++ List.replicate (whole - digits.length) '0'
    let fraction := digits.drop whole
    padded.take whole ++ '.' :: (if fraction.isEmpty then ['0'] else fraction)

/-- A decimal with one digit before the point, the point only if digits follow, and an exponent. -/
def scientificText (digits : List Char) (lead : Int) : List Char :=
  match digits with
  | [] => []
  | [d] => d :: 'e' :: exponentText lead
  | d :: rest => d :: '.' :: rest ++ 'e' :: exponentText lead

/-- The text of a decimal in a given style. -/
def Decimal.text (style : DecimalStyle) (d : Decimal) : List Char :=
  let digits := natText d.digits
  let lead := (digits.length : Int) - 1 + d.power
  if style.leastPositional ≤ lead ∧ lead ≤ style.greatestPositional then
    positionalText digits lead
  else scientificText digits lead

/-- The shortest text that reads back as the number, in a given style. -/
def Binary64.text (style : DecimalStyle) (x : Binary64) : List Char :=
  (if x.negative then ['-'] else []) ++ x.shortest.text style

end SchemaGrammar
