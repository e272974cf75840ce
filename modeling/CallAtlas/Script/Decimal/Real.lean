import CallAtlas.Script.Decimal.Places

/-!
Numbers of a floating point format, without their signs: what a quotient is rounded to,
and the text of the digits that are stored.
-/

namespace CallAtlas.Decimal

structure RealFormat where
  digits : Nat
  least : Int
  limit : Int
  lead : Nat

namespace RealFormat

def double : RealFormat := ⟨53, -1074, 1024, 1⟩

def extended : RealFormat := ⟨64, -16445, 16384, 4⟩

end RealFormat

inductive Real where
  | finite (mantissa : Nat) (exponent : Int)
  | infinite
  | undefined

namespace RealFormat

/-- The number nearest to a quotient, halves to the even one, and whether the format has room for
it. -/
def nearest (format : RealFormat) (x : Ratio) : Real × Bool :=
  if x.num = 0 then (.finite 0 format.least, true)
  else
    let guess : Int := (Nat.log2 x.num : Int) - Nat.log2 x.den
    let power := if x.less (.scaled 1 2 guess) then guess - 1 else guess
    let exponent := max (power + 1 - format.digits) format.least
    let units := x.inUnitsOf 2 exponent
    let mantissa := units.round
    let isExact := units.num % units.den = 0
    if Nat.pow 2 format.digits ≤ mantissa then
      if format.limit ≤ exponent + 1 + format.digits - 1 then (.infinite, false)
      else (.finite (mantissa / 2) (exponent + 1), true)
    else if format.limit ≤ exponent + format.digits - 1 then (.infinite, false)
    else (.finite mantissa exponent, isExact || Nat.pow 2 (format.digits - 1) ≤ mantissa)

/-- The stored digits of a number, to the base sixteen, with so many places if their number is
given, and with a point in any case if that is asked for. -/
def hexadecimal (format : RealFormat) (mantissa : Nat) (exponent : Int) (places? : Option Nat)
    (keepsPoint : Bool) : List Char :=
  let all := (format.digits - format.lead) / 4
  let places := places?.getD all
  let units := Ratio.inUnitsOf ⟨mantissa, 1⟩ 16 ((all : Int) - places)
  let rounded := units.round
  let power := if mantissa = 0 then 0 else exponent + (format.digits - format.lead : Nat)
  let whole := rounded / Nat.pow 16 places
  let (whole, power) := if 16 ≤ whole then (whole / 16, power + 4) else (whole, power)
  let fraction := Nat.toDigits 16 (rounded % Nat.pow 16 places)
  let fraction := List.replicate (places - fraction.length) '0' ++ (if places = 0 then [] else fraction)
  let fraction := if places?.isNone then (fraction.reverse.dropWhile (· = '0')).reverse else fraction
  let point := if fraction.isEmpty && !keepsPoint then [] else ['.']
  let sign := if power < 0 then '-' else '+'
  ['0', 'x'] ++ Nat.toDigits 16 whole ++ point ++ fraction ++ 'p' :: sign ::
    Nat.toDigits 10 power.natAbs

end RealFormat

end CallAtlas.Decimal
