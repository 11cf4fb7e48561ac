/-!
# Finite double-precision numbers

A finite binary64 number is a signed integer times a power of two, and everything a document does
with such a number is a question about that integer and that power: reading rounds a ratio of
natural numbers, printing looks for a short decimal in an interval, and the arithmetic in between
is exact arithmetic followed by one rounding. So the type here holds the two integers themselves,
and no machine float takes part.

A number has one such form only, its canonical one (`Binary64.Canonical`), and the type holds no
other. That rounding ends in canonical form is proved here, where numbers are built
(`Binary64.rounded_canonical`).
-/

namespace SchemaGrammar

namespace Binary64

/-- The exponent of the subnormal numbers, the least there is. -/
def minExponent : Int := -1074

/-- The greatest exponent of a finite number. -/
def maxExponent : Int := 971

/-- One more than the greatest significand. -/
def significandLimit : Nat := 0x20000000000000

/-- The least significand of a number that is not subnormal. -/
def leastNormal : Nat := 0x10000000000000

/-- The form in which a finite number is written as `significand * 2 ^ exponent`: with all 53 bits
of the significand in use, unless the exponent is the least one. -/
structure Canonical (significand : Nat) (exponent : Int) : Prop where
  limit : significand < significandLimit
  normal : leastNormal ≤ significand ∨ exponent = minExponent
  least : minExponent ≤ exponent
  greatest : exponent ≤ maxExponent

end Binary64

/-- A finite binary64 number, `significand * 2 ^ exponent` with a sign. Zero keeps its sign. -/
structure Binary64 where
  negative : Bool
  significand : Nat
  exponent : Int
  canonical : Binary64.Canonical significand exponent
deriving DecidableEq

namespace Binary64

/-- Positive zero. -/
def zero : Binary64 where
  negative := false
  significand := 0
  exponent := minExponent
  canonical := ⟨by decide, .inr rfl, by decide, by decide⟩

/-- The number one. -/
def one : Binary64 where
  negative := false
  significand := leastNormal
  exponent := -52
  canonical := ⟨by decide, .inl (by decide), by decide, by decide⟩

/-- Whether the number is zero, of either sign. -/
def isZero (x : Binary64) : Bool := x.significand == 0

/-- Whether the number is exactly one. -/
def isOne (x : Binary64) : Bool := x == one

/-- The same magnitude with the opposite sign. -/
def neg (x : Binary64) : Binary64 := { x with negative := !x.negative }

/-! ## Rounding -/

/-- The quotient of two natural numbers rounded to the nearest integer, a half to the even one. -/
def roundDiv (num den : Nat) : Nat :=
  let quotient := num / den
  let twice := 2 * (num % den)
  if twice < den then quotient
  else if den < twice then quotient + 1
  else quotient + quotient % 2

/-- The ratio `num / den` divided by `2 ^ power`, again as a ratio. -/
def shiftRatio (num den : Nat) (power : Int) : Nat × Nat :=
  (num * Nat.pow 2 (-power).toNat, den * Nat.pow 2 power.toNat)

/-- The integral part of `num / den` divided by `2 ^ power`. -/
def shiftDiv (num den : Nat) (power : Int) : Nat :=
  (shiftRatio num den power).1 / (shiftRatio num den power).2

/-- The exponent at which `num / den` has a significand of 53 bits, or the least exponent for a
ratio too small for that. -/
def exponentOf (num den : Nat) : Int :=
  let coarse := max ((num.log2 : Int) - den.log2 - 53) minExponent
  if shiftDiv num den coarse < significandLimit then coarse else coarse + 1

/-- The ratio `num / den` rounded to the nearest significand and exponent, a tie to the even
significand. A significand that rounding has made too large is a power of two and is halved. -/
def rounded (num den : Nat) : Nat × Int :=
  let exponent := exponentOf num den
  let (n, d) := shiftRatio num den exponent
  let significand := roundDiv n d
  if significand < significandLimit then (significand, exponent)
  else (significand / 2, exponent + 1)

section
variable {num den : Nat}

/-- Rounding takes the integral part or the next integer. -/
theorem roundDiv_bounds (num den : Nat) :
    num / den ≤ roundDiv num den ∧ roundDiv num den ≤ num / den + 1 := by
  unfold roundDiv
  dsimp only
  split
  · omega
  · split <;> omega

/-- Dividing by a further power of two. -/
theorem shiftDiv_add (num den : Nat) (power : Int) (k : Nat) :
    shiftDiv num den (power + k) = shiftDiv num den power / Nat.pow 2 k := by
  have hone : ∀ power : Int, shiftDiv num den (power + 1) = shiftDiv num den power / 2 := by
    intro power
    simp only [shiftDiv, shiftRatio, Nat.pow_eq]
    by_cases hpower : 0 ≤ power
    · have hup : (power + 1).toNat = power.toNat + 1 := by omega
      have hdown : (-(power + 1)).toNat = (-power).toNat := by omega
      rw [hup, hdown, Nat.pow_succ, ← Nat.mul_assoc, Nat.div_div_eq_div_mul]
    · have hup : (power + 1).toNat = power.toNat := by omega
      have hdown : (-power).toNat = (-(power + 1)).toNat + 1 := by omega
      rw [hup, hdown, Nat.pow_succ, ← Nat.mul_assoc, Nat.div_div_eq_div_mul,
        Nat.mul_div_mul_right _ _ (by decide)]
  rw [Nat.pow_eq]
  induction k with
  | zero => rw [Int.natCast_zero, Int.add_zero, Nat.pow_zero, Nat.div_one]
  | succ k ih =>
    rw [Int.natCast_succ, ← Int.add_assoc, hone, ih, Nat.div_div_eq_div_mul, Nat.pow_succ]

/-- The lengths of numerator and denominator tell the length of the quotient up to one bit. -/
theorem shiftDiv_log2 (hnum : num ≠ 0) (hden : den ≠ 0) :
    leastNormal ≤ shiftDiv num den ((num.log2 : Int) - den.log2 - 53) ∧
      shiftDiv num den ((num.log2 : Int) - den.log2 - 53) < 2 * significandLimit := by
  have hlimit : 2 * significandLimit = 2 ^ 54 := by decide
  have hleast : leastNormal = 2 ^ 52 := by decide
  simp only [shiftDiv, shiftRatio, Nat.pow_eq]
  generalize ha : (-((num.log2 : Int) - den.log2 - 53)).toNat = a
  generalize hb : ((num.log2 : Int) - den.log2 - 53).toNat = b
  -- numerator and denominator are shifted by as much as their lengths differ from 53 bits
  have hab : num.log2 + a = 53 + den.log2 + b := by omega
  have hpos : 0 < den * 2 ^ b := Nat.mul_pos (Nat.pos_of_ne_zero hden) (Nat.two_pow_pos b)
  constructor
  · rw [Nat.le_div_iff_mul_le hpos, hleast]
    calc 2 ^ 52 * (den * 2 ^ b)
        ≤ 2 ^ 52 * (2 ^ (den.log2 + 1) * 2 ^ b) :=
          Nat.mul_le_mul_left _ (Nat.mul_le_mul_right _ (Nat.le_of_lt Nat.lt_log2_self))
      _ = 2 ^ num.log2 * 2 ^ a := by
          rw [← Nat.pow_add, ← Nat.pow_add, ← Nat.pow_add]
          congr 1
          omega
      _ ≤ num * 2 ^ a := Nat.mul_le_mul_right _ (Nat.log2_self_le hnum)
  · rw [Nat.div_lt_iff_lt_mul hpos, hlimit]
    calc num * 2 ^ a
        < 2 ^ (num.log2 + 1) * 2 ^ a :=
          Nat.mul_lt_mul_of_pos_right Nat.lt_log2_self (Nat.two_pow_pos a)
      _ = 2 ^ 54 * (2 ^ den.log2 * 2 ^ b) := by
          rw [← Nat.pow_add, ← Nat.pow_add, ← Nat.pow_add]
          congr 1
          omega
      _ ≤ 2 ^ 54 * (den * 2 ^ b) :=
          Nat.mul_le_mul_left _ (Nat.mul_le_mul_right _ (Nat.log2_self_le hden))

/-- At the exponent of a ratio its integral part has no more than 53 bits, and no fewer unless the
exponent is the least one. -/
theorem exponentOf_spec (hnum : num ≠ 0) (hden : den ≠ 0) :
    minExponent ≤ exponentOf num den ∧
      shiftDiv num den (exponentOf num den) < significandLimit ∧
      (leastNormal ≤ shiftDiv num den (exponentOf num den) ∨ exponentOf num den = minExponent) := by
  obtain ⟨hleast, hlimit⟩ := shiftDiv_log2 hnum hden
  have hhalf : significandLimit = 2 * leastNormal := by decide
  unfold exponentOf
  dsimp only
  generalize hfine : (num.log2 : Int) - den.log2 - 53 = fine at hleast hlimit
  by_cases hsmall : fine < minExponent
  · -- a ratio this small has its least exponent, where it is shifted once more at least
    obtain ⟨k, hk⟩ : ∃ k : Nat, minExponent = fine + (k + 1 : Nat) :=
      ⟨(minExponent - fine - 1).toNat, by omega⟩
    have hshift := shiftDiv_add num den fine (k + 1)
    rw [← hk, Nat.pow_eq, Nat.pow_succ', ← Nat.div_div_eq_div_mul] at hshift
    have hle : shiftDiv num den fine / 2 / 2 ^ k ≤ shiftDiv num den fine / 2 := Nat.div_le_self _ _
    have hmax : max fine minExponent = minExponent := by omega
    have hlt : shiftDiv num den minExponent < significandLimit := by omega
    rw [hmax, if_pos hlt]
    exact ⟨Int.le_refl _, hlt, .inr rfl⟩
  · have hmax : max fine minExponent = fine := by omega
    rw [hmax]
    split
    · next hlt => exact ⟨by omega, hlt, .inl hleast⟩
    · next hge =>
      have hshift := shiftDiv_add num den fine 1
      rw [Int.natCast_one, Nat.pow_eq, Nat.pow_one] at hshift
      rw [hshift]
      exact ⟨by omega, by omega, .inl (by omega)⟩

/-- **Rounding ends in canonical form**, where the exponent is not too great. -/
theorem rounded_canonical (hnum : num ≠ 0) (hden : den ≠ 0)
    (h : (rounded num den).2 ≤ maxExponent) :
    Canonical (rounded num den).1 (rounded num den).2 := by
  obtain ⟨hmin, hlimit, hleast⟩ := exponentOf_spec hnum hden
  obtain ⟨hlow, hhigh⟩ := roundDiv_bounds (shiftRatio num den (exponentOf num den)).1
    (shiftRatio num den (exponentOf num den)).2
  rw [← shiftDiv] at hlow hhigh
  have hhalf : significandLimit = 2 * leastNormal := by decide
  unfold rounded at h ⊢
  dsimp only at h ⊢
  split
  · next hlt =>
    rw [if_pos hlt] at h
    exact ⟨hlt, hleast.imp_left fun hle => Nat.le_trans hle hlow, hmin, h⟩
  · next hge =>
    rw [if_neg hge] at h
    have hpos : 0 < leastNormal := by decide
    exact ⟨by dsimp only; omega, .inl (by dsimp only; omega), by dsimp only; omega, h⟩

end

/-- The ratio `num / den` rounded to the nearest number; none when the result would not be
finite. -/
def ofRatio? (num den : Nat) : Option Binary64 :=
  if hnum : num = 0 then some zero
  else if hden : den = 0 then none
  else
    let nearest := rounded num den
    if h : nearest.2 ≤ maxExponent then
      some ⟨false, nearest.1, nearest.2, rounded_canonical hnum hden h⟩
    else none

/-- A natural number rounded to the nearest number. -/
def ofNat? (n : Nat) : Option Binary64 := ofRatio? n 1

/-! ## Arithmetic -/

/-- The magnitude as an exact ratio of natural numbers. -/
def toRatio (x : Binary64) : Nat × Nat :=
  shiftRatio x.significand 1 (-x.exponent)

/-- A number is zero if its ratio is. -/
theorem isZero_iff (x : Binary64) : x.isZero = true ↔ x.toRatio.1 = 0 := by
  have hpos := Nat.two_pow_pos (- -x.exponent).toNat
  simp only [isZero, beq_iff_eq, toRatio, shiftRatio, Nat.pow_eq, Nat.mul_eq_zero]
  exact ⟨.inl, fun h => h.resolve_right (Nat.ne_of_gt hpos)⟩

/-- A number whose ratio is one is `one`: its significand is a power of two, of which only one has
53 bits. -/
theorem isOne_iff (x : Binary64) :
    x.isOne = true ↔ x.toRatio.1 = x.toRatio.2 ∧ x.negative = false := by
  obtain ⟨negative, significand, exponent, hcanonical⟩ := x
  simp only [isOne, beq_iff_eq, one, Binary64.mk.injEq, toRatio, shiftRatio, Nat.pow_eq,
    Nat.one_mul, Int.neg_neg]
  constructor
  · rintro ⟨rfl, rfl, rfl⟩
    exact ⟨by decide, rfl⟩
  · rintro ⟨hratio, rfl⟩
    have hlimit : significand < 2 ^ 53 := hcanonical.limit
    have hnormal : 2 ^ 52 ≤ significand ∨ exponent = -1074 := hcanonical.normal
    obtain ⟨k, rfl⟩ | ⟨k, rfl⟩ : (∃ k : Nat, exponent = k) ∨ ∃ k : Nat, exponent = -k := by
      rcases Int.le_total 0 exponent with h | h
      · exact .inl ⟨exponent.toNat, by omega⟩
      · exact .inr ⟨(-exponent).toNat, by omega⟩
    · have hzero : (-(k : Int)).toNat = 0 := by omega
      rw [Int.toNat_natCast, hzero, Nat.pow_zero] at hratio
      have hone : significand = 1 := Nat.eq_one_of_mul_eq_one_right hratio
      omega
    · have hzero : (-(k : Int)).toNat = 0 := by omega
      rw [Int.neg_neg, Int.toNat_natCast, hzero, Nat.pow_zero, Nat.mul_one] at hratio
      have hupper : k < 53 := by
        rw [hratio] at hlimit
        exact (Nat.pow_lt_pow_iff_right (by decide)).1 hlimit
      have hlower : 52 ≤ k := by
        rcases hnormal with h | h
        · rw [hratio] at h
          exact (Nat.pow_le_pow_iff_right (by decide)).1 h
        · omega
      obtain rfl : k = 52 := by omega
      exact ⟨rfl, hratio, rfl⟩

/-- The rounded product of two magnitudes; none when it would not be finite. -/
def mul? (x y : Binary64) : Option Binary64 :=
  let (a, b) := x.toRatio
  let (c, d) := y.toRatio
  ofRatio? (a * c) (b * d)

/-- The rounded quotient of two magnitudes; none when it would not be finite. -/
def div? (x y : Binary64) : Option Binary64 :=
  let (a, b) := x.toRatio
  let (c, d) := y.toRatio
  ofRatio? (a * d) (b * c)

/-- The power of ten nearest to `10 ^ e`; none when it would not be finite. -/
def powTen? (e : Nat) : Option Binary64 := ofNat? (Nat.pow 10 e)

/-- The decimal `digits * 10 ^ power` rounded once. A decimal too large or too small for its digits
to matter is recognised from its size, so no huge power of ten is ever built. -/
def ofDecimal? (digits : Nat) (power : Int) : Option Binary64 :=
  let size := ((Nat.toDigits 10 digits).length : Int) + power
  if digits = 0 then some zero
  else if 400 < size then none
  else if size < -400 then some zero
  else if 0 ≤ power then ofRatio? (digits * Nat.pow 10 power.toNat) 1
  else ofRatio? digits (Nat.pow 10 (-power).toNat)

end Binary64

end SchemaGrammar
