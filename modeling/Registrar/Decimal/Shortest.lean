import Registrar.Decimal.Double

/-!
# The shortest decimal text of a double

A double stands for every real number that rounds to it.  `Double.shortest` gives the decimal
number with the fewest digits among these, and of two with equally many the nearer to the
double.  `Double.text` writes it, in positional notation for moderate magnitudes and with an
exponent otherwise.
-/

namespace Registrar.Double

/-- A decimal number `0.d₁d₂… · 10 ^ point`, with neither a leading nor a trailing zero
digit. -/
structure Decimal where
  /-- The digits, most significant first. -/
  digits : List Char
  /-- The number of digits before the decimal point. -/
  point : Int
  deriving DecidableEq

/-- The decimal number `n · 10 ^ exponent`, its digits without trailing zeros. -/
def Decimal.ofScaled (n : Nat) (exponent : Int) : Decimal :=
  let all := Nat.toDigits 10 n
  ⟨(all.reverse.dropWhile (· == '0')).reverse, all.length + exponent⟩

/-- The power of ten of the leading digit of `num / den`, a positive ratio not below
`10 ^ (-340)`. -/
def leadingPower (num den : Nat) : Int :=
  ((Nat.toDigits 10 (num * tenTo 340 / den)).length : Int) - 341

/-- The whole number `n` on the grid of multiples of `10 ^ grid` rounds to the double: it lies
between the halfway points to the two neighbouring doubles, the ends counting when the
significand is even. -/
def roundsTo (x : Double) (grid : Int) (n : Nat) : Bool :=
  -- in units of a quarter of the last place of the double
  let quarter := x.significand * 4
  -- below a power of two the next double is only half as far away
  let below := if x.significand = twoTo 52 ∧ x.exponent ≠ -1074 then 1 else 2
  let unit : Int := x.exponent - 2
  let value := n * tenTo grid.toNat * twoTo (-unit).toNat
  let scale := tenTo (-grid).toNat * twoTo unit.toNat
  let low := (quarter - below) * scale
  let high := (quarter + 2) * scale
  if x.significand % 2 = 0 then low ≤ value && value ≤ high else low < value && value < high

/-- The multiples of `10 ^ grid` next to the double, from below and from above, that round to
it; of two the nearer one, a tie going to the even one. -/
def onGrid? (x : Double) (grid : Int) : Option Nat :=
  let num := x.numerator * tenTo (-grid).toNat
  let den := x.denominator * tenTo grid.toNat
  let below := num / den
  match roundsTo x grid below && below != 0, roundsTo x grid (below + 1) with
  | true, true => some (divEven num den)
  | true, false => some below
  | false, true => some (below + 1)
  | false, false => none

/-- The decimal number of at least `count` digits on the coarsest grid that has one which
rounds to the double. -/
def shortestFrom (x : Double) (lead : Int) : Nat → Nat → Decimal
  | 0, _ => .ofScaled x.numerator 0
  | tries + 1, count =>
    let grid := lead - count + 1
    match onGrid? x grid with
    | some n => .ofScaled n grid
    | none => shortestFrom x lead tries (count + 1)

/-- The decimal number with the fewest digits that rounds to a double which is not zero;
seventeen digits always suffice. -/
def shortest (x : Double) : Decimal :=
  shortestFrom x (leadingPower x.numerator x.denominator) 17 1

/-- The digits of a decimal number in positional notation, with at least one digit on each side
of the point. -/
def Decimal.positional (d : Decimal) : List Char :=
  let n := d.digits.length
  if d.point ≤ 0 then
    '0' :: '.' :: List.replicate (-d.point).toNat '0' ++ d.digits
  else if (n : Int) ≤ d.point then
    d.digits ++ List.replicate (d.point.toNat - n) '0' ++ ['.', '0']
  else d.digits.take d.point.toNat ++ '.' :: d.digits.drop d.point.toNat

/-- The digits of a decimal number with one digit before the point and a signed exponent. -/
def Decimal.scientific (d : Decimal) : List Char :=
  let exponent := d.point - 1
  let tail := match d.digits with
    | [] => ['0']
    | [c] => [c]
    | c :: cs => c :: '.' :: cs
  tail ++ 'e' :: (if exponent < 0 then '-' else '+') :: Nat.toDigits 10 exponent.natAbs

/-- The text of a double: its shortest decimal number, positional when the leading digit stands
for a power of ten from -5 to 15. -/
def text (x : Double) : String :=
  let sign := if x.negative then ['-'] else []
  if x.significand = 0 then .ofList (sign ++ ['0', '.', '0'])
  else
    let d := x.shortest
    .ofList (sign ++ if -5 < d.point ∧ d.point ≤ 16 then d.positional else d.scientific)

end Registrar.Double
