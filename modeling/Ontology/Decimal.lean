/-!
Shortest decimal texts of binary numbers. A finite double stands for an interval of reals, the ones
that round to it; `Decimal.shortest` picks the decimal with the fewest digits in that interval, of
those the one closest to the number, and leaves an exact tie to the caller. The search runs over
natural numbers: the number and the ends of its interval are scaled by one power of ten that makes
all three whole, and the grids of powers of ten are tried from the coarsest.
-/

set_option autoImplicit false
set_option relaxedAutoImplicit false

namespace Ontology

/-- The number `digits * 10 ^ exponent`. -/
structure Decimal where
  digits : Nat
  exponent : Int
deriving DecidableEq

namespace Decimal

/-- Which of two equally close decimals is taken. -/
inductive Tie where
  | toEven
  | awayFromZero
deriving DecidableEq

/-- A whole number between the ends of an interval, both given by their distance from it. -/
structure Bracket where
  /-- The number itself. -/
  value : Nat
  /-- How far the interval reaches below the number. -/
  below : Nat
  /-- How far the interval reaches above the number. -/
  above : Nat
  /-- Whether the ends belong to the interval. -/
  closed : Bool

namespace Bracket

/-- Whether a distance stays within a reach of the interval. -/
def reaches (bracket : Bracket) (distance reach : Nat) : Bool :=
  distance < reach || (bracket.closed && distance == reach)

/-- The multiple of `grid` that lies in the interval closest to the number, as a multiplier. Only
the two multiples next to the number come into question. -/
def nearestMultiple? (bracket : Bracket) (tie : Tie) (grid : Nat) : Option Nat :=
  let lower := bracket.value / grid
  let fromLower := bracket.value % grid
  let fromUpper := grid - fromLower
  match bracket.reaches fromLower bracket.below, bracket.reaches fromUpper bracket.above with
  | false, false => none
  | true, false => some lower
  | false, true => some (lower + 1)
  | true, true =>
    if fromLower < fromUpper then some lower
    else if fromUpper < fromLower then some (lower + 1)
    else match tie with
      | .awayFromZero => some (lower + 1)
      | .toEven => if lower % 2 = 0 then some lower else some (lower + 1)

/-- The first hit on the grids `10 ^ power`, `10 ^ (power - 1)`, and so on. The number itself is a
hit of the finest grid. -/
def shortest (bracket : Bracket) (tie : Tie) : Nat → Decimal
  | 0 => ⟨bracket.value, 0⟩
  | power + 1 =>
    match bracket.nearestMultiple? tie (10 ^ (power + 1)) with
    | some digits => ⟨digits, power + 1⟩
    | none => bracket.shortest tie power

end Bracket

/-- The shortest decimal of the finite positive double whose sign-free bits are given. The bits
read as `significand * 2 ^ exponent`; the neighbour below a power of two is half as far away as the
one above. -/
def shortest (tie : Tie) (bits : Nat) : Decimal :=
  let biased := bits >>> 52
  let fraction := bits % (1 <<< 52)
  let significand := if biased = 0 then fraction else 1 <<< 52 + fraction
  let exponent : Int := (max biased 1 : Nat) - 1075
  let places := (2 - exponent).toNat
  let quarter := Nat.pow 5 places <<< (exponent - 2 + places).toNat
  let bracket : Bracket :=
    { value := 4 * significand * quarter
      below := if fraction = 0 ∧ 1 < biased then quarter else 2 * quarter
      above := 2 * quarter
      closed := significand % 2 = 0 }
  let found := bracket.shortest tie (Nat.toDigits 10 bracket.value).length
  ⟨found.digits, found.exponent - places⟩

/-! ### Layout -/

/-- The digits of a decimal, the most significant first. -/
def text (decimal : Decimal) : List Char := Nat.toDigits 10 decimal.digits

/-- The power of ten of the leading digit. -/
def order (decimal : Decimal) : Int := decimal.text.length + decimal.exponent - 1

/-- The decimal without an exponent; `whole` is what follows the digits of a whole number. -/
def positional (whole : String) (decimal : Decimal) : String :=
  let digits := decimal.text
  if 0 ≤ decimal.exponent then
    String.ofList (digits ++ List.replicate decimal.exponent.toNat '0') ++ whole
  else
    let places := (-decimal.exponent).toNat
    let padded := List.replicate (places + 1 - digits.length) '0' ++ digits
    let split := padded.length - places
    String.ofList (padded.take split ++ '.' :: padded.drop split)

/-- The decimal with a point after its leading digit and an exponent that always has a sign. -/
def scientific (decimal : Decimal) : String :=
  let mantissa := match decimal.text with
    | [] => []
    | [digit] => [digit]
    | digit :: rest => digit :: '.' :: rest
  String.ofList mantissa ++ (if 0 ≤ decimal.order then "e+" else "e") ++ toString decimal.order

end Decimal

end Ontology
