import Screener.Number.Double

/-!
The text of a double: the fewest decimal digits that read back as the same double, and among those the
nearest to it.  A point of a decimal grid lies among the reals that round to a double only if one of
the double's two neighbours on that grid does, so each grid needs two tests.
-/

namespace Screener

structure Decimal where
  digits : Nat
  exponent : Int
  deriving DecidableEq

namespace Double

/-- A positive double between its two neighbours: three values counted in quarters of its last place,
and whether the halfway points round to it. -/
structure Interval where
  below : Nat
  centre : Nat
  above : Nat
  closed : Bool

def interval (mantissa : Nat) (exponent : Int) : Interval where
  below :=
    if mantissa = fullMantissa ∧ leastExponent < exponent then 4 * mantissa - 1
    else 4 * mantissa - 2
  centre := 4 * mantissa
  above := 4 * mantissa + 2
  closed := mantissa % 2 == 0

def leadingPower (mantissa : Nat) (exponent : Int) : Int :=
  let shift : Nat := 400
  let scaled := mantissa * Nat.pow 10 shift
  let whole :=
    if exponent < 0 then scaled / Nat.pow 2 (-exponent).toNat
    else scaled * Nat.pow 2 exponent.toNat
  ((Text.ofNat whole).length : Int) - 1 - shift

/-- The point of the grid of spacing `10 ^ power` that reads back as the double, if one does; of two
the nearer, of two at the same distance the even one. -/
def onGrid (mantissa : Nat) (exponent power : Int) : Option Decimal :=
  let bounds := interval mantissa exponent
  let quarter := exponent - 2
  let unit := Nat.pow 10 power.toNat * Nat.pow 2 (-quarter).toNat
  let scale := Nat.pow 10 (-power).toNat * Nat.pow 2 quarter.toNat
  let lower := bounds.centre * scale / unit
  let upper := lower + 1
  let readsBack (candidate : Nat) : Bool :=
    let value := candidate * unit
    if bounds.closed then bounds.below * scale ≤ value && value ≤ bounds.above * scale
    else bounds.below * scale < value && value < bounds.above * scale
  let toLower := bounds.centre * scale - lower * unit
  let toUpper := upper * unit - bounds.centre * scale
  match readsBack lower && lower != 0, readsBack upper with
  | true, false => some ⟨lower, power⟩
  | false, true => some ⟨upper, power⟩
  | true, true =>
    if toLower < toUpper || (toLower == toUpper && lower % 2 == 0) then some ⟨lower, power⟩
    else some ⟨upper, power⟩
  | false, false => none

/-- The shortest decimal that reads back as a positive double; seventeen digits always do. -/
def shortest (mantissa : Nat) (exponent : Int) : Decimal :=
  let leading := leadingPower mantissa exponent
  ((List.range 17).findSome? fun (count : Nat) => onGrid mantissa exponent (leading - count)).getD
    ⟨mantissa * Nat.pow 2 exponent.toNat, 0⟩

/-- How decimals are laid out: which powers of ten of the leading digit are written positionally, the
least number of exponent digits, and the words for what is not a number. -/
structure Layout where
  positionalFrom : Int
  positionalBelow : Int
  exponentDigits : Nat
  notANumber : Text
  infinity : Text

def sign (negative : Bool) : Text := if negative then "-" else ""

def dropTrailingZeros (digits : Text) : Text := (digits.reverse.dropWhile (· = '0')).reverse

def Layout.decimal (layout : Layout) (value : Decimal) : Text :=
  let written := Text.ofNat value.digits
  let point : Int := written.length + value.exponent
  let digits : Text := if value.digits = 0 then "0" else dropTrailingZeros written
  let leading := point - 1
  if layout.positionalFrom ≤ leading ∧ leading < layout.positionalBelow then
    if point ≤ 0 then "0." ++ List.replicate (-point).toNat '0' ++ digits
    else
      let width := point.toNat
      if digits.length ≤ width then digits ++ List.replicate (width - digits.length) '0' ++ ".0"
      else digits.take width ++ "." ++ digits.drop width
  else
    let fraction : Text := match digits.drop 1 with
      | [] => ""
      | rest => "." ++ rest
    let power := Text.ofNat leading.natAbs
    digits.take 1 ++ fraction ++ "e" ++ (if leading < 0 then "-" else "+")
      ++ List.replicate (layout.exponentDigits - power.length) '0' ++ power

def Layout.text (layout : Layout) : Double → Text
  | .nan => layout.notANumber
  | .infinite negative => sign negative ++ layout.infinity
  | .finite negative mantissa exponent =>
    sign negative ++
      layout.decimal (if mantissa = 0 then ⟨0, 0⟩ else shortest mantissa exponent)

end Double

end Screener
