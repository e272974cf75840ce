import CallAtlas.Script.Format
import CallAtlas.Script.Utility.Records

/-!
Printing numbers at equal distances, and one line again and again.
-/

namespace CallAtlas.Script.Utility

namespace Sequence

structure Operand where
  value : Signed
  width : Int := 0
  places : Option Nat := none

/-- How many characters and places the decimal text of a number has once its exponent is spelled
out. -/
def extent (text : ByteText) : Int × Nat :=
  let isExponent := fun c => c = 'e' || c = 'E'
  let body := text.takeWhile (!isExponent ·)
  let whole := body.takeWhile (· ≠ '.')
  let hasPoint := whole.length < body.length
  let fraction := body.drop (whole.length + 1)
  let pointWidth : Int :=
    if !hasPoint then 0
    else if fraction.isEmpty then -1
    else if whole.getLast?.any Char.isDigit then 0
    else 1
  let width : Int := body.length + pointWidth
  if body.length = text.length then (width, fraction.length)
  else
    let (exponent, _) := exponentOf ['e', 'E'] (text.drop body.length)
    if exponent < 0 then
      let undone : Int := if !hasPoint || fraction.isEmpty then 1 else 0
      (width + undone + exponent.natAbs, fraction.length + exponent.natAbs)
    else
      let power := exponent.toNat
      let places := fraction.length - power
      let dropped : Int := if hasPoint && places = 0 && !fraction.isEmpty then 1 else 0
      (width - dropped + ((power - min fraction.length power : Nat) : Int), places)

def operand (text : ByteText) : Except String Operand :=
  let wrong := Except.error s!"invalid floating point argument: {cite text}"
  match readReal .extended text with
  | some (value, [], fits) =>
      match value.size with
      | .undefined => .error s!"invalid 'not-a-number' argument: {cite text}"
      | .infinite => if fits then .ok { value, places := some 0 } else wrong
      | .finite mantissa _ =>
          if !fits && mantissa ≠ 0 then wrong
          else
            let shown := text.dropWhile fun c => Arithmetic.isSpace c || c = '+'
            if shown.any fun c => c = 'x' || c = 'X' then
              let isWhole := shown.all fun c => c ≠ '.' && c ≠ 'p'
              .ok { value, places := if isWhole then some 0 else none }
            else
              let (width, places) := extent shown
              .ok { value, width, places := some places }
  | _ => wrong

structure Exact where
  num : Int
  den : Nat

def Exact.ofSigned (value : Signed) : Exact :=
  let ratio := match value.size with
    | .finite mantissa exponent => Decimal.Ratio.scaled mantissa 2 exponent
    | _ => .scaled 1 2 Decimal.RealFormat.extended.limit
  { num := if value.isNegative then -ratio.num else ratio.num, den := ratio.den }

def Exact.rounded (exact : Exact) : Signed where
  isNegative := exact.num < 0
  size := (Decimal.RealFormat.extended.nearest ⟨exact.num.natAbs, exact.den⟩).1

def Exact.less (first second : Exact) : Bool := first.num * second.den < second.num * first.den

def ahead (first step : Signed) (count : Nat) : Signed :=
  let step := Exact.ofSigned step
  let way := Exact.ofSigned (Exact.rounded { step with num := step.num * count })
  let first := Exact.ofSigned first
  Exact.rounded { num := first.num * way.den + way.num * first.den, den := first.den * way.den }

structure Form where
  front : ByteText := []
  directive : Directive := {}
  letter : Char := 'f'
  behind : ByteText := []

def Form.number (form : Form) (value : Signed) : ByteText :=
  form.directive.real .extended form.letter value

def Form.shown (form : Form) (value : Signed) : ByteText :=
  form.front ++ form.number value ++ form.behind

/-- The text in front of a directive, or behind it, with doubled percent signs as single ones, and
what stands behind it. -/
def plainText : ByteText → ByteText × ByteText
  | '%' :: '%' :: rest => let (text, behind) := plainText rest; ('%' :: text, behind)
  | '%' :: rest => ([], '%' :: rest)
  | c :: rest => let (text, behind) := plainText rest; (c :: text, behind)
  | [] => ([], [])

def Form.parse (format : ByteText) : Except String Form := do
  let complain := fun (complaint : String) => throw s!"format {cite format} {complaint}"
  let (front, rest) := plainText format
  if rest.isEmpty then complain "has no % directive"
  let rest := rest.drop 1
  let flags := rest.takeWhile ("-+#0 '".toList.contains ·)
  let rest := rest.drop flags.length
  let (width, rest) := Arithmetic.digits 10 rest
  let (precision, rest) := match rest with
    | '.' :: rest => let (places, rest) := Arithmetic.digits 10 rest; (some places, rest)
    | _ => (none, rest)
  match if rest.head? = some 'L' then rest.drop 1 else rest with
  | [] => throw s!"format {cite format} ends in %"
  | letter :: rest => do
      unless "efgaEFGA".toList.contains letter do
        complain s!"has unknown %{ByteText.toText [letter]} directive"
      let (behind, extra) := plainText rest
      unless extra.isEmpty do complain "has too many % directives"
      return { front, directive := { flags, width, precision }, letter, behind }

def Form.ofOperands (first step last : Operand) (equalWidth : Bool) : Form :=
  match first.places, step.places, last.places with
  | some firstPlaces, some stepPlaces, some lastPlaces =>
      let places := max firstPlaces stepPlaces
      let one := fun (holds : Bool) => if holds then (1 : Int) else 0
      let firstWidth := first.width + ((places : Int) - firstPlaces) +
        one (firstPlaces = 0 && 0 < places)
      let lastWidth := last.width + ((places : Int) - lastPlaces) -
        one (0 < lastPlaces && places = 0) + one (lastPlaces = 0 && 0 < places)
      let directive : Directive := { precision := some places }
      if equalWidth then
        { directive := { directive with flags := ['0'], width := (max firstWidth lastWidth).toNat } }
      else { directive }
  | _, _, _ => { letter := 'g' }

def maxCount : Nat := 5000000

/-- The numbers from one to another, shown; the bound is on their number. -/
def numbers (form : Form) (first step last : Signed) : Nat → Nat → Signed → List ByteText
  -- A number beyond the last one counts if it looks like it.
  | 0, _, _ => []
  | bound + 1, count, value =>
      let isBeyond := fun (value : Signed) =>
        if (Exact.ofSigned step).num < 0 then (Exact.ofSigned value).less (.ofSigned last)
        else (Exact.ofSigned last).less (.ofSigned value)
      let next := ahead first step (count + 1)
      let isLast := match readReal .extended (form.number next) with
        | some (read, [], _) =>
            let read := Exact.ofSigned read
            let last := Exact.ofSigned last
            !read.less last && !last.less read && form.number next ≠ form.number value
        | _ => false
      if !isBeyond next then
        form.shown value :: numbers form first step last bound (count + 1) next
      else if isLast then [form.shown value, form.shown next]
      else [form.shown value]

def wholeNumbers (first step last : Nat) : List ByteText :=
  if last < first || step = 0 then []
  else
    let count := min maxCount ((last - first) / step + 1)
    (List.range count).map fun index => Nat.toDigits 10 (first + index * step)

def shown (form? : Option Form) (separator : ByteText) (equalWidth : Bool)
    (first step last : Operand) : List ByteText :=
  let whole? := fun (operand : Operand) =>
    match operand.value.size, operand.places with
    | .finite mantissa exponent, some 0 =>
        if operand.value.isNegative && mantissa ≠ 0 then none
        else some (Decimal.Ratio.scaled mantissa 2 exponent).round
    | _, _ => none
  let isSimple := form?.isNone && !equalWidth && separator.length = 1
  match if isSimple then (do return (← whole? first, ← whole? step, ← whole? last)) else none with
  | some (first, step, last) => wholeNumbers first step last
  | none =>
      let form := form?.getD (.ofOperands first step last equalWidth)
      let isNegative := (Exact.ofSigned step.value).num < 0
      let low := Exact.ofSigned (if isNegative then last else first).value
      let high := Exact.ofSigned (if isNegative then first else last).value
      if high.less low then []
      else numbers form first.value step.value last.value maxCount 0 first.value

end Sequence

def isNegativeNumber (argument : ByteText) : Bool :=
  match argument with
  | '-' :: c :: _ => c = '.' || c.isDigit
  | _ => false

/-- Reads options up to the first operand, which may be a negative number; the bound is on the
number of arguments. -/
def readUpToNumber (form : OptionForm) : Nat → List ByteText → Given → Reading Given
  | 0, arguments, given => .ok { given with operands := arguments }
  | _, [], given => .ok given
  | bound + 1, first :: rest, given =>
      if isNegativeNumber first then .ok { given with operands := first :: rest }
      else
        match first with
        | ['-', '-'] => .ok { given with operands := rest }
        | '-' :: '-' :: name => do
            let (given, rest) ← readLong form name rest given
            readUpToNumber form bound rest given
        | '-' :: c :: letters => do
            let (given, rest) ← readLetters form (c :: letters) rest given
            readUpToNumber form bound rest given
        | _ => .ok { given with operands := first :: rest }

def printNumbers (name : String) (form? : Option Sequence.Form) (given : Given) : Task Nat := do
  let separator := (given.value? 's').getD ['\n']
  let equalWidth := given.has 'w'
  let one : Sequence.Operand :=
    { value := Sequence.Exact.rounded ⟨1, 1⟩, width := 1, places := some 0 }
  let parsed : Except String (Sequence.Operand × Sequence.Operand × Sequence.Operand) := do
    match given.operands with
    | [last] => return (one, one, ← Sequence.operand last)
    | [first, last] => return (← Sequence.operand first, one, ← Sequence.operand last)
    | first :: step :: rest =>
        let firstOperand ← Sequence.operand first
        let stepOperand ← Sequence.operand step
        if (Sequence.Exact.ofSigned stepOperand.value).num = 0 then
          throw s!"invalid Zero increment value: {cite step}"
        return (firstOperand, stepOperand, ← Sequence.operand (rest.headD []))
    | [] => throw "missing operand"
  match parsed with
  | .error complaint => misuse 1 name complaint
  | .ok (first, step, last) => do
      let shown := Sequence.shown form? separator equalWidth first step last
      unless shown.isEmpty do
        Task.print (ByteText.join separator shown ++ ['\n'])
      return 0

def printSequence : Program := fun called arguments => do
  let name := called.toText
  let form : OptionForm :=
    { flags := ['w', helpLetter, versionLetter], valued := ['f', 's']
      long := [("equal-width", 'w'), ("format", 'f'), ("separator", 's'), ("help", helpLetter),
        ("version", versionLetter)] }
  match readUpToNumber form (arguments.length + 1) arguments {} with
  | .error fault => misuse 1 name fault.message
  | .ok given =>
      if given.has helpLetter || given.has versionLetter then return 0
      else if given.operands.isEmpty then misuse 1 name "missing operand"
      else
        match given.operands.drop 3, (given.value? 'f').map Sequence.Form.parse with
        | extra :: _, _ => refuseExtra 1 name extra
        | [], some (.error complaint) => giveUp 1 s!"{name}: {complaint}"
        | [], some (.ok chosen) =>
            if given.has 'w' then
              misuse 1 name
                "format string may not be specified when printing equal width strings"
            else printNumbers name (some chosen) given
        | [], none => printNumbers name none given

/-- How much is printed of a line that never ends; whoever reads it needs no more. -/
def endlessSize : Nat := 1000000

def printEndlessly : Program :=
  withOptions {} 1 fun _ given => do
    let words := if given.operands.isEmpty then [['y']] else given.operands
    let line := ByteText.join [' '] words ++ ['\n']
    Task.print (List.replicate (endlessSize / line.length + 1) line).flatten
    return 0

end CallAtlas.Script.Utility
