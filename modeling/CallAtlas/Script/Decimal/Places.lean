import CallAtlas.Decimal.Shortest

/-!
Decimal texts with a given number of places. A value halfway between two texts goes
to the one whose last digit is even.
-/

namespace CallAtlas.Decimal

namespace Ratio

def round (x : Ratio) : Nat :=
  let whole := x.num / x.den
  let double := 2 * (x.num % x.den)
  if double < x.den then whole
  else if x.den < double then whole + 1
  else whole + whole % 2

def inUnitsOf (x : Ratio) (base : Nat) (power : Int) : Ratio :=
  let unit := Ratio.scaled 1 base power
  ⟨x.num * unit.den, x.den * unit.num⟩

def inUnits (x : Ratio) (power : Int) : Nat := (x.inUnitsOf 10 power).round

def firstPower (x : Ratio) : Int :=
  let size := fun (value : Nat) => ((Nat.toDigits 10 value).length : Int)
  let guess := size x.num - size x.den
  if x.less (.scaled 1 10 guess) then guess - 1 else guess

end Ratio

def Binary.ratio (x : Binary) : Ratio := .scaled x.mantissa 2 x.exponent

def placePoint (digits places : Nat) : List Char :=
  let shown := Nat.toDigits 10 digits
  let padded := List.replicate (places + 1 - shown.length) '0' ++ shown
  let (whole, fraction) := padded.splitAt (padded.length - places)
  if places = 0 then whole else whole ++ '.' :: fraction

def fixed (x : Ratio) (places : Nat) : List Char :=
  placePoint (x.inUnits (-(places : Int))) places

def scientificDigits (x : Ratio) (places : Nat) : Nat × Int :=
  if x.num = 0 then (0, 0)
  else
    let power := x.firstPower
    let digits := x.inUnits (power - places)
    if Nat.pow 10 (places + 1) ≤ digits then (x.inUnits (power + 1 - places), power + 1)
    else (digits, power)

def scientific (x : Ratio) (places : Nat) : List Char :=
  let (digits, power) := scientificDigits x places
  let shown := Nat.toDigits 10 power.natAbs
  placePoint digits places ++ ['e', if power < 0 then '-' else '+'] ++
    List.replicate (2 - shown.length) '0' ++ shown

def dropZeros (text : List Char) : List Char :=
  if text.contains '.' then
    let kept := (text.reverse.dropWhile (· = '0')).reverse
    if kept.getLast? = some '.' then kept.dropLast else kept
  else text

/-- A value with so many digits, in the shorter one of both forms; zeros at its end may stay. -/
def general (x : Ratio) (digits : Nat) (keepsZeros : Bool) : List Char :=
  let digits := max digits 1
  let (_, power) := scientificDigits x (digits - 1)
  let trimmed := fun (text : List Char) => if keepsZeros then text else dropZeros text
  if -4 ≤ power && power < digits then trimmed (fixed x (digits - 1 - power).toNat)
  else
    let text := scientific x (digits - 1)
    trimmed (text.takeWhile (· ≠ 'e')) ++ text.dropWhile (· ≠ 'e')

end CallAtlas.Decimal
