/-!
The shortest decimal text of a double: the fewest significant digits that read
back as the same double, and of those the nearest to its value. The search is in
exact arithmetic on the number `mantissa · 2 ^ exponent` that the double stands for.
-/

namespace CallAtlas.Decimal

structure Binary where
  mantissa : Nat
  exponent : Int
  /-- The next smaller double is only half as far away as the next larger one. -/
  narrowBelow : Bool

structure Scientific where
  digits : Nat
  exponent : Int

def Scientific.trimmed (x : Scientific) : Scientific :=
  if x.digits % 10 = 0 then ⟨x.digits / 10, x.exponent + 1⟩ else x

structure Ratio where
  num : Nat
  den : Nat

def Ratio.scaled (value base : Nat) (power : Int) : Ratio :=
  if 0 ≤ power then ⟨value * Nat.pow base power.toNat, 1⟩
  else ⟨value, Nat.pow base (-power).toNat⟩

def Ratio.less (first second : Ratio) : Bool :=
  first.num * second.den < second.num * first.den

namespace Binary

/-- Four times the mantissa on a grid four times as fine, so that the points halfway to the
neighbours are on the grid too. -/
def value (x : Binary) : Ratio := .scaled (4 * x.mantissa) 2 (x.exponent - 2)

def low (x : Binary) : Ratio :=
  .scaled (4 * x.mantissa - if x.narrowBelow then 1 else 2) 2 (x.exponent - 2)

def high (x : Binary) : Ratio := .scaled (4 * x.mantissa + 2) 2 (x.exponent - 2)

/-- Whether a decimal number reads back as the double. -/
def readsFrom (x : Binary) (decimal : Scientific) : Bool :=
  -- Halfway points go to even mantissas.
  let candidate := Ratio.scaled decimal.digits 10 decimal.exponent
  if x.mantissa % 2 = 0 then !candidate.less x.low && !x.high.less candidate
  else x.low.less candidate && candidate.less x.high

def floorAt (x : Binary) (power : Int) : Nat :=
  let unit := Ratio.scaled 1 10 power
  (x.value.num * unit.den) / (x.value.den * unit.num)

/-- The number of decimal digits before the point, or how many zeros follow it, negated. -/
def decimalPoint (x : Binary) : Int :=
  let whole := x.floorAt 0
  if whole ≠ 0 then (Nat.toDigits 10 whole).length
  else
    let zeros := (List.range 330).find? fun places => x.floorAt (Int.negSucc places) ≠ 0
    Int.neg (zeros.getD 0)

/-- The upper neighbour on the grid is as near as the lower one, or nearer. -/
def nearAbove (x : Binary) (below : Nat) (power : Int) : Bool :=
  !Ratio.less ⟨2 * x.value.num, x.value.den⟩ (.scaled (2 * below + 1) 10 power)

/-- The decimal number of so many digits that reads back, the nearer one of two and
the upper one of two that are equally near. -/
def decimal? (x : Binary) (count : Nat) : Option Scientific :=
  let power := x.decimalPoint - count
  let below := x.floorAt power
  let down := Scientific.mk below power
  let up := Scientific.mk (below + 1) power
  match x.readsFrom down, x.readsFrom up with
  | true, true => some (if x.nearAbove below power then up else down)
  | true, false => some down
  | false, true => some up
  | false, false => none

/-- The decimal number of the fewest digits that reads back. -/
def shortest (x : Binary) : Scientific :=
  -- A power of ten can come out of the search with one digit too many, when the value lies right
  -- below it.
  (((List.range 17).findSome? fun count => x.decimal? (count + 1)).getD ⟨0, 0⟩).trimmed

def ofBits (bits : Nat) : Binary :=
  let fraction := bits % Nat.pow 2 52
  let power : Nat := bits / Nat.pow 2 52 % Nat.pow 2 11
  if power = 0 then ⟨fraction, -1074, false⟩
  else ⟨Nat.pow 2 52 + fraction, Int.ofNat power - 1075, fraction = 0 && power ≠ 1⟩

end Binary

def positional (x : Scientific) : String :=
  let digits := Nat.toDigits 10 x.digits
  if 0 ≤ x.exponent then
    String.ofList (digits ++ List.replicate x.exponent.toNat '0') ++ ".0"
  else
    let places := (-x.exponent).toNat
    let padded := List.replicate (places + 1 - digits.length) '0' ++ digits
    let (whole, fraction) := padded.splitAt (padded.length - places)
    String.ofList whole ++ "." ++ String.ofList fraction

/-- The text of a double: positional, with a point; infinities and NaN by name. -/
def text (x : Float) : String :=
  if x.isNaN then "NaN"
  else
    let mark := if x.toBits.toNat / Nat.pow 2 63 = 1 then "-" else ""
    if x.isInf then mark ++ "inf"
    else if x == 0 then mark ++ "0.0"
    else mark ++ positional (Binary.ofBits x.toBits.toNat).shortest

end CallAtlas.Decimal
