import CallAtlas.Toml.Strings
import CallAtlas.Toml.Value

/-!
Numbers, dates and times. Digits may be parted by single underscores; integers
must fit a signed word of 64 bits, and a decimal number that is too large for a
double is refused, unless it is negative.
-/

namespace CallAtlas.Toml

/-- Digits with single underscores between them, which are left out. -/
def digitRun (isDigit : Char → Bool) : Reader (List Char) := do
  let first ← Reader.takeExactly 1 isDigit
  let rest ← Reader.collect do
    let some c ← Reader.peek? | return none
    if isDigit c then
      Reader.skip 1
      return some c
    else if c = '_' then
      Reader.skip 1
      return (← Reader.takeExactly 1 isDigit).head?
    else return none
  return first ++ rest

/-- The digits of a whole number, which starts with a zero only if it is zero. -/
def wholeDigits : Reader (List Char) := do
  if ← Reader.accept "0" then return ['0'] else digitRun Char.isDigit

def sign : Reader Bool := do
  if ← Reader.accept "-" then return true
  else
    discard (Reader.accept "+")
    return false

def integerWithin (value : Int) : Reader Toml := do
  guard (-Int.pow 2 63 ≤ value && value < Int.pow 2 63)
  return .integer value

def basedInteger (base : Nat) (isDigit : Char → Bool) : Reader Toml := do
  integerWithin (numeral base (← digitRun isDigit))

def nearestDouble (digits : List Char) (exponent : Int) : Float :=
  let value := numeral 10 digits
  let magnitude := (digits.dropWhile (· = '0')).length + exponent
  if value = 0 || magnitude < -400 then 0
  else if 400 < magnitude then 1 / 0
  else Float.ofScientific value (exponent < 0) exponent.natAbs

def exponent : Reader Int := do
  let negative ← sign
  let value : Int := numeral 10 (← digitRun Char.isDigit)
  return if negative then -value else value

def acceptExponentMark : Reader Bool := do
  if ← Reader.accept "e" then return true else Reader.accept "E"

def decimalNumber (negative : Bool) : Reader Toml := do
  let whole ← wholeDigits
  let fraction ← if ← Reader.accept "." then some <$> digitRun Char.isDigit else pure none
  let power ← if ← acceptExponentMark then some <$> exponent else pure none
  if fraction.isNone && power.isNone then
    let value : Int := numeral 10 whole
    integerWithin (if negative then -value else value)
  else
    let places := fraction.getD []
    let size := nearestDouble (whole ++ places) (power.getD 0 - places.length)
    guard (negative || size.isFinite)
    return .float (if negative then -size else size)

def numberValue : Reader Toml := do
  if ← Reader.accept "0x" then basedInteger 16 isHexDigit
  else if ← Reader.accept "0o" then basedInteger 8 fun c => '0' ≤ c && c ≤ '7'
  else if ← Reader.accept "0b" then basedInteger 2 fun c => c = '0' || c = '1'
  else
    let negative ← sign
    let signed := fun (size : Float) => if negative then -size else size
    if ← Reader.accept "inf" then return .float (signed (1 / 0))
    else if ← Reader.accept "nan" then return .float (signed (0 / 0))
    else decimalNumber negative

def twoDigits (least most : Nat) : Reader Nat := do
  let value := numeral 10 (← Reader.takeExactly 2 Char.isDigit)
  guard (least ≤ value && value ≤ most)
  return value

def isLeapYear (year : Nat) : Bool :=
  year % 4 = 0 && (year % 100 ≠ 0 || year % 400 = 0)

def daysIn (year month : Nat) : Nat :=
  if month = 2 then (if isLeapYear year then 29 else 28)
  else if [4, 6, 9, 11].contains month then 30
  else 31

def date : Reader Unit := do
  let year := numeral 10 (← Reader.takeExactly 4 Char.isDigit)
  Reader.expect "-"
  let month ← twoDigits 1 12
  Reader.expect "-"
  let day ← twoDigits 1 31
  guard (day ≤ daysIn year month)

def time : Reader Unit := do
  discard (twoDigits 0 23)
  Reader.expect ":"
  discard (twoDigits 0 59)
  Reader.expect ":"
  discard (twoDigits 0 60)
  if ← Reader.accept "." then
    guard !(← Reader.takeWhile Char.isDigit).isEmpty

def timeOffset : Reader Unit := do
  if ← Reader.accept "Z" then return
  if ← Reader.accept "z" then return
  if (← Reader.startsWith "+") || (← Reader.startsWith "-") then
    Reader.skip 1
    discard (twoDigits 0 23)
    Reader.expect ":"
    discard (twoDigits 0 59)

def digitsThen (count : Nat) (mark : Char) (text : List Char) : Bool :=
  (text.take count).length = count && (text.take count).all Char.isDigit &&
    text[count]? = some mark

/-- A date, a time, or both; a blank may stand between them if a time follows. -/
def datetimeValue : Reader Toml := do
  if digitsThen 4 '-' (← get) then
    date
    let some c ← Reader.peek? | return .datetime
    if [' ', 'T', 't'].contains c && digitsThen 2 ':' (← get).tail then
      Reader.skip 1
      time
      timeOffset
  else time
  return .datetime

def numeric : Reader Toml := do
  let text ← get
  if digitsThen 4 '-' text || digitsThen 2 ':' text then datetimeValue else numberValue

end CallAtlas.Toml
