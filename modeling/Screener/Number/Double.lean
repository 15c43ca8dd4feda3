import Screener.Text.Basic

namespace Screener

inductive Double
  | nan
  | infinite (negative : Bool)
  /-- The mantissa times two to the exponent; a mantissa of 53 bits, or the least exponent. -/
  | finite (negative : Bool) (mantissa : Nat) (exponent : Int)
  deriving DecidableEq

namespace Double

def leastExponent : Int := -1074

def greatestExponent : Int := 971

def fullMantissa : Nat := Nat.pow 2 52

def mantissaBound : Nat := Nat.pow 2 53

def zero (negative : Bool) : Double := .finite negative 0 leastExponent

def isZero : Double → Bool
  | .finite _ mantissa _ => mantissa == 0
  | _ => false

def toInt? : Double → Option Int
  | .finite negative mantissa exponent =>
    let scale := Nat.pow 2 (-exponent).toNat
    if mantissa % scale = 0 then
      let value := mantissa / scale * Nat.pow 2 exponent.toNat
      some (if negative then -(value : Int) else value)
    else none
  | _ => none

/-- A quotient rounded to a whole number, a half to the even neighbour. -/
def roundDiv (num den : Nat) : Nat :=
  let quotient := num / den
  let twice := 2 * (num % den)
  if twice < den then quotient
  else if den < twice then quotient + 1
  else quotient + quotient % 2

def inUnits (num den : Nat) (exponent : Int) : Nat × Nat :=
  if exponent < 0 then (num * Nat.pow 2 (-exponent).toNat, den)
  else (num, den * Nat.pow 2 exponent.toNat)

def ofFraction (negative : Bool) (num den : Nat) : Double :=
  let low := max leastExponent ((num.log2 : Int) - den.log2 - 53)
  let exponent :=
    let (scaled, unit) := inUnits num den low
    if scaled / unit < mantissaBound then low else low + 1
  let (scaled, unit) := inUnits num den exponent
  let mantissa := roundDiv scaled unit
  let (mantissa, exponent) :=
    if mantissa = mantissaBound then (fullMantissa, exponent + 1) else (mantissa, exponent)
  if greatestExponent < exponent then .infinite negative else .finite negative mantissa exponent

/-- The double nearest to `digits` times ten to the `exponent`.  A magnitude far outside the range of
doubles is settled by the number of digits alone. -/
def ofDecimal (negative : Bool) (digits : Nat) (exponent : Int) : Double :=
  let magnitude := exponent + (Text.ofNat digits).length
  if digits = 0 || magnitude < -330 then zero negative
  else if 310 < magnitude then .infinite negative
  else if exponent < 0 then ofFraction negative digits (Nat.pow 10 (-exponent).toNat)
  else ofFraction negative (digits * Nat.pow 10 exponent.toNat) 1

end Double

end Screener
