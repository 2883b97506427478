/-!
# Double-precision numbers

The finite binary floating-point numbers of 64 bits, held as sign, significand and exponent of
two, so that every operation is exact arithmetic followed by one rounding.

* `Double.ofRatio?`: the double nearest to a ratio, ties going to the even significand.
* `Double.mul?`, `Double.div`: product and quotient, each rounded once.
* `Double.ofDecimal?`: the double that a decimal literal of at most twenty digits denotes.  It
  is not always the nearest one: the digits are rounded first, and then multiplied or divided
  by a power of ten that is itself a double.
-/

namespace Registrar

/-- A finite double: `significand · 2 ^ exponent` with a sign.  The significand is below
`2 ^ 53`; it is at least `2 ^ 52` unless the exponent is the least one, `-1074`. -/
structure Double where
  /-- The number is below zero, or is the negative zero. -/
  negative : Bool
  /-- The digits, as a whole number. -/
  significand : Nat
  /-- The power of two that the digits are multiplied by. -/
  exponent : Int
  deriving DecidableEq

namespace Double

/-- A power of two. -/
def twoTo (k : Nat) : Nat := Nat.pow 2 k

/-- A power of ten. -/
def tenTo (k : Nat) : Nat := Nat.pow 10 k

/-- Zero, with a sign. -/
def zero (negative : Bool) : Double := ⟨negative, 0, -1074⟩

/-- The numerator of the number without its sign. -/
def numerator (x : Double) : Nat := x.significand * twoTo x.exponent.toNat

/-- The denominator of the number without its sign: a power of two. -/
def denominator (x : Double) : Nat := twoTo (-x.exponent).toNat

/-- The quotient rounded to the nearest whole number, a half going to the even neighbour. -/
def divEven (n d : Nat) : Nat :=
  let q := n / d
  let r := n % d
  if d < 2 * r ∨ (2 * r = d ∧ q % 2 = 1) then q + 1 else q

/-- The whole part of `num / (den · 2 ^ e)`, by means of the rounding `div`. -/
def scaled (div : Nat → Nat → Nat) (num den : Nat) (e : Int) : Nat :=
  div (num * twoTo (-e).toNat) (den * twoTo e.toNat)

/-- The double nearest to `num / den`, ties going to the even significand; there is none when
the ratio is too large. -/
def ofRatio? (negative : Bool) (num den : Nat) : Option Double :=
  if num = 0 then some (zero negative)
  else
    -- the exponent with which the quotient has 53 digits is `low` or the next one
    let low : Int := max (-1074) ((num.log2 : Int) - (den.log2 : Int) - 53)
    let e := if scaled (· / ·) num den low < twoTo 53 then low else low + 1
    let m := scaled divEven num den e
    -- rounding up may carry into a digit of its own
    let (m, e) := if m < twoTo 53 then (m, e) else (twoTo 52, e + 1)
    if 971 < e then none else some ⟨negative, m, e⟩

/-- The product, rounded to the nearest double. -/
def mul? (x y : Double) : Option Double :=
  ofRatio? (x.negative != y.negative) (x.numerator * y.numerator)
    (x.denominator * y.denominator)

/-- The quotient by a number that is at least one, rounded to the nearest double. -/
def div (x y : Double) : Double :=
  (ofRatio? (x.negative != y.negative) (x.numerator * y.denominator)
    (x.denominator * y.numerator)).getD (zero false)

/-- The power of ten, rounded to the nearest double; it is used for exponents up to 308, where
there is one. -/
def powTen (k : Nat) : Double := (ofRatio? false (tenTo k) 1).getD (zero false)

/-- The number divided by ten to the power `k`, in steps of at most 308 that are each
rounded. -/
def divPowTen (x : Double) (k : Nat) : Double :=
  if h : k ≤ 308 then x.div (powTen k)
  else if x.significand = 0 then x
  else divPowTen (x.div (powTen 308)) (k - 308)
termination_by k
decreasing_by omega

/-- The double that the decimal literal `digits · 10 ^ exponent` denotes: the digits rounded to
a double, then multiplied or divided by a power of ten.  There is none when it is too large. -/
def ofDecimal? (negative : Bool) (digits : Nat) (exponent : Int) : Option Double := do
  let x ← ofRatio? negative digits 1
  match exponent with
  | .ofNat k =>
    if k ≤ 308 then x.mul? (powTen k)
    else if digits = 0 then some x else none
  | .negSucc k => some (x.divPowTen (k + 1))

end Double

end Registrar
