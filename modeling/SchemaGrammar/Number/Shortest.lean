import SchemaGrammar.Number.Binary64

/-!
# The shortest decimal of a number

Among the decimals that round to a given number the one with the fewest digits is taken, of those
the nearest to the number, and of two equally near ones the one that ends in an even digit. The
search tries one digit, two digits and so on: on each grid only the two neighbours of the number
can be nearest, and seventeen digits always suffice.
-/

namespace SchemaGrammar

/-- The decimal `digits * 10 ^ power`. -/
structure Decimal where
  digits : Nat
  power : Int
deriving DecidableEq

namespace Decimal

/-- Compares `a * 10 ^ p` with `b * 2 ^ q` exactly. -/
def compareBinary (a : Nat) (p : Int) (b : Nat) (q : Int) : Ordering :=
  compare (a * Nat.pow 10 p.toNat * Nat.pow 2 (-q).toNat)
    (b * Nat.pow 2 q.toNat * Nat.pow 10 (-p).toNat)

/-- The power of ten `x` with `10 ^ x ≤ num / den < 10 ^ (x + 1)`, for a positive ratio. -/
def magnitude (num den : Nat) : Int :=
  if den ≤ num then ((Nat.toDigits 10 (num / den)).length : Int) - 1
  else
    let size := (Nat.toDigits 10 (den / num)).length
    if den ≤ num * Nat.pow 10 (size - 1) then 1 - (size : Int) else -(size : Int)

/-- Removes trailing zeros by moving them into the power; the count bounds how many. -/
def trim : Nat → Decimal → Decimal
  | 0, d => d
  | n + 1, d => if d.digits % 10 = 0 then trim n ⟨d.digits / 10, d.power + 1⟩ else d

end Decimal

namespace Binary64

/-- Whether the decimal rounds to the given positive number: it lies between the midpoints to the
two neighbouring numbers, the midpoints included when the significand is even. Below a power of two
the lower neighbour is twice as near. -/
def admits (x : Binary64) (d : Decimal) : Bool :=
  let m := x.significand
  let q := x.exponent - 2
  let low := if m = leastNormal ∧ minExponent < x.exponent then 4 * m - 1 else 4 * m - 2
  let fromLow := Decimal.compareBinary d.digits d.power low q
  let fromHigh := Decimal.compareBinary d.digits d.power (4 * m + 2) q
  (fromLow == .gt || (m % 2 == 0 && fromLow == .eq)) &&
    (fromHigh == .lt || (m % 2 == 0 && fromHigh == .eq))

/-- The nearest decimal with the given power of ten that rounds to the number, if there is one. -/
def onGrid? (x : Binary64) (num den : Nat) (power : Int) : Option Decimal :=
  let below := num * Nat.pow 10 (-power).toNat / (den * Nat.pow 10 power.toNat)
  let lower : Decimal := ⟨below, power⟩
  let upper : Decimal := ⟨below + 1, power⟩
  match x.admits lower, x.admits upper with
  | false, false => none
  | true, false => some lower
  | false, true => some upper
  | true, true =>
    match Decimal.compareBinary (2 * below + 1) power (2 * x.significand) x.exponent with
    | .gt => some lower
    | .lt => some upper
    | .eq => some (if below % 2 = 0 then lower else upper)

/-- The shortest decimal of the magnitude, without trailing zeros. -/
def shortest (x : Binary64) : Decimal :=
  if x.isZero then ⟨0, 0⟩
  else
    let (num, den) := x.toRatio
    let top := Decimal.magnitude num den
    let found := (List.range 17).findSome? fun n => onGrid? x num den (top - (n : Nat))
    match found with
    | some d => Decimal.trim 20 d
    | none => ⟨num / den, 0⟩

end Binary64

end SchemaGrammar
