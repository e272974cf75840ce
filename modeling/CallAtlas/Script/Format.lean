import CallAtlas.Script.Decimal.Real
import CallAtlas.Script.Arithmetic

/-!
The texts that scripts print: arguments with escapes in them, and formats whose
directives take the arguments in turn.
-/

namespace CallAtlas.Script

def controlChars : List (Char × Char) :=
  [('a', '\x07'), ('b', '\x08'), ('f', '\x0c'), ('n', '\n'), ('r', '\r'), ('t', '\t'),
    ('v', '\x0b'), ('e', '\x1b'), ('\\', '\\')]

def isOctal (c : Char) : Bool := '0' ≤ c && c ≤ '7'

def octalChar (digits : List Char) : Char :=
  Char.ofNat (digits.foldl (fun value c => value * 8 + (c.toNat - '0'.toNat)) 0 % 256)

def escape (text : List Char) : Char × List Char :=
  match text with
  | [] => ('\\', [])
  | c :: rest =>
      match controlChars.lookup c with
      | some control => (control, rest)
      | none =>
          let digits := (text.takeWhile isOctal).take 3
          if digits.isEmpty then ('\\', text) else (octalChar digits, text.drop digits.length)

def unescaped : Nat → ByteText → ByteText × Bool
  | 0, _ => ([], false)
  | _, [] => ([], false)
  | bound + 1, '\\' :: rest =>
      match rest with
      | 'c' :: _ => ([], true)
      | '0' :: behind =>
          let digits := (behind.takeWhile isOctal).take 3
          let (text, ended) := unescaped bound (behind.drop digits.length)
          (octalChar digits :: text, ended)
      | _ =>
          let (c, behind) := escape rest
          let (text, ended) := unescaped bound behind
          (c :: text, ended)
  | bound + 1, c :: rest =>
      let (text, ended) := unescaped bound rest
      (c :: text, ended)

def echoed : List ByteText → ByteText × Bool
  | [] => ([], false)
  | first :: rest =>
      match unescaped (first.length + 1) first with
      | (text, true) => (text, true)
      | (text, false) =>
          if rest.isEmpty then (text, false)
          else
            let (more, ended) := echoed rest
            (text ++ ' ' :: more, ended)

def echo (arguments : List ByteText) : ByteText :=
  let (bare, words) := match arguments with
    | ['-', 'n'] :: rest => (true, rest)
    | all => (false, all)
  let (text, ended) := echoed words
  if bare || ended then text else text ++ ['\n']

/-- The number at the front of a text, if one is there, with what is behind it and whether it
fits. -/
abbrev Reading (α : Type) := Option (α × ByteText × Bool)

def withoutSign (text : ByteText) : Bool × ByteText :=
  match text.dropWhile Arithmetic.isSpace with
  | '-' :: rest => (true, rest)
  | '+' :: rest => (false, rest)
  | body => (false, body)

def wholeSize? (body : ByteText) : Option (Nat × ByteText) :=
  if body.head?.any Char.isDigit then some (Arithmetic.numeral body) else none

/-- A whole number with a sign; one that does not fit is the nearest that does. -/
def readInt (text : ByteText) : Reading Int :=
  let (negative, body) := withoutSign text
  (wholeSize? body).map fun (size, rest) =>
    let value : Int := if negative then -size else size
    (Arithmetic.clamp value, rest, Arithmetic.clamp value = value)

/-- A whole number without a sign; a negative one counts down from the greatest. -/
def readNat (text : ByteText) : Reading Nat :=
  let (negative, body) := withoutSign text
  (wholeSize? body).map fun (size, rest) =>
    let range := Nat.pow 2 64
    if range ≤ size then (range - 1, rest, false)
    else if negative then ((range - size) % range, rest, true)
    else (size, rest, true)

/-- An exponent behind one of its letters, with what is behind it; none counts as zero. -/
def exponentOf (letters : List Char) (text : ByteText) : Int × ByteText :=
  match text with
  | letter :: rest =>
      let (negative, digits) := match rest with
        | '-' :: digits => (true, digits)
        | '+' :: digits => (false, digits)
        | digits => (false, digits)
      if letters.contains letter && digits.head?.any Char.isDigit then
        let (size, behind) := Arithmetic.digits 10 digits
        (if negative then -size else size, behind)
      else (0, text)
  | [] => (0, [])

/-- Digits of a base with a point among them: their number, how many are behind the point, and
what is behind them. -/
def pointed? (base : Nat) (text : ByteText) : Option (Nat × Nat × ByteText) :=
  let isDigit := fun c => Arithmetic.digitValue c < base
  let whole := text.takeWhile isDigit
  let (fraction, behind) := match text.dropWhile isDigit with
    | '.' :: rest => (rest.takeWhile isDigit, rest.dropWhile isDigit)
    | behind => ([], behind)
  if whole.isEmpty && fraction.isEmpty then none
  else some ((Arithmetic.digits base (whole ++ fraction)).1, fraction.length, behind)

def farPower : Int := 100000

structure Signed where
  isNegative : Bool := false
  size : Decimal.Real

def decimalSize? (format : Decimal.RealFormat) (body : ByteText) : Reading Decimal.Real :=
  (pointed? 10 body).map fun (digits, places, behind) =>
    let (exponent, behind) := exponentOf ['e', 'E'] behind
    let power := max (-farPower) (min farPower (exponent - (places : Int)))
    let (value, fits) := format.nearest (.scaled digits 10 power)
    (value, behind, fits)

def hexadecimalSize? (format : Decimal.RealFormat) (body : ByteText) : Reading Decimal.Real :=
  match body with
  | '0' :: x :: rest =>
      if x = 'x' || x = 'X' then
        (pointed? 16 rest).map fun (digits, places, behind) =>
          let (exponent, behind) := exponentOf ['p', 'P'] behind
          let power := max (-farPower) (min farPower (exponent - 4 * (places : Int)))
          let (value, fits) := format.nearest (.scaled digits 2 power)
          (value, behind, fits)
      else none
  | _ => none

def wordSize? (body : ByteText) : Reading Decimal.Real :=
  let lower := body.map Char.toLower
  let starts := fun (word : String) => word.toList.isPrefixOf lower
  if starts "infinity" then some (.infinite, body.drop 8, true)
  else if starts "inf" then some (.infinite, body.drop 3, true)
  else if starts "nan" then some (.undefined, body.drop 3, true)
  else none

def readReal (format : Decimal.RealFormat) (text : ByteText) : Reading Signed :=
  let (isNegative, body) := withoutSign text
  let size? := hexadecimalSize? format body <|> decimalSize? format body <|> wordSize? body
  size?.map fun (size, rest) => ({ isNegative, size }, rest)

structure Directive where
  flags : List Char := []
  width : Nat := 0
  precision : Option Nat := none

structure Printing where
  pieces : List ByteText := []
  arguments : List ByteText
  hasTaken : Bool := false
  complaints : List String := []
  ended : Bool := false
  invalid : Option String := none
  unfinished : Bool := false

namespace Printing

def emit (printing : Printing) (text : ByteText) : Printing :=
  { printing with pieces := text :: printing.pieces }

def output (printing : Printing) : ByteText := printing.pieces.reverse.flatten

def take (printing : Printing) : Option ByteText × Printing :=
  match printing.arguments with
  | [] => (none, printing)
  | first :: rest => (some first, { printing with arguments := rest, hasTaken := true })

def complain (printing : Printing) (complaint : String) : Printing :=
  { printing with complaints := printing.complaints ++ [complaint] }

/-- The next argument as a number. -/
def takeNumber {α : Type} (ofNat : Nat → α) (read : ByteText → Reading α) (printing : Printing) :
    α × Printing :=
  -- One that is missing or empty is zero, and a quote stands for the number of the character behind
  -- it.
  let charNumber := fun (rest : ByteText) => ofNat ((rest.head?.map Char.toNat).getD 0)
  match printing.take with
  | (none, printing) => (ofNat 0, printing)
  | (some text, printing) =>
      match text with
      | [] => (ofNat 0, printing)
      | '\'' :: rest => (charNumber rest, printing)
      | '"' :: rest => (charNumber rest, printing)
      | _ =>
          match read text with
          | none => (ofNat 0, printing.complain s!"{text.toText}: expected numeric value")
          | some (value, _ :: _, _) =>
              (value, printing.complain s!"{text.toText}: not completely converted")
          | some (value, [], true) => (value, printing)
          | some (value, [], false) =>
              (value, printing.complain s!"{text.toText}: Numerical result out of range")

def takeInt (printing : Printing) : Int × Printing := printing.takeNumber Int.ofNat readInt

def takeNat (printing : Printing) : Nat × Printing := printing.takeNumber id readNat

def takeReal (printing : Printing) : Signed × Printing :=
  printing.takeNumber (fun value => { size := (Decimal.RealFormat.double.nearest ⟨value, 1⟩).1 })
    (readReal .double)

end Printing

namespace Directive

def has (directive : Directive) (flag : Char) : Bool := directive.flags.contains flag

def pad (directive : Directive) (text : ByteText) : ByteText :=
  let blanks := List.replicate (directive.width - text.length) ' '
  if directive.has '-' then text ++ blanks else blanks ++ text

def padText (directive : Directive) (text : ByteText) : ByteText :=
  directive.pad (match directive.precision with
    | some size => text.take size
    | none => text)

def padNumber (directive : Directive) (sign digits : ByteText) (mayFill : Bool) : ByteText :=
  if directive.has '0' && !directive.has '-' && mayFill then
    let size := directive.width - sign.length - digits.length
    sign ++ List.replicate size '0' ++ digits
  else directive.pad (sign ++ digits)

def sign (directive : Directive) (negative : Bool) : ByteText :=
  if negative then ['-']
  else if directive.has '+' then ['+']
  else if directive.has ' ' then [' ']
  else []

def precise (directive : Directive) (digits : ByteText) : ByteText :=
  match directive.precision with
  | none => digits
  | some places =>
      let digits := if places = 0 && digits = ['0'] then [] else digits
      List.replicate (places - digits.length) '0' ++ digits

def signed (directive : Directive) (value : Int) : ByteText :=
  directive.padNumber (directive.sign (value < 0))
    (directive.precise (Nat.toDigits 10 value.natAbs)) directive.precision.isNone

def unsigned (directive : Directive) (base : Nat) (mark : ByteText) (value : Nat) : ByteText :=
  let digits := directive.precise (Nat.toDigits base value)
  let sign := if directive.has '#' && value ≠ 0 then mark else []
  directive.padNumber sign digits directive.precision.isNone

/-- An octal number; a zero stands in front of its digits if the directive asks for a mark. -/
def octal (directive : Directive) (value : Nat) : ByteText :=
  let digits := directive.precise (Nat.toDigits 8 value)
  let marked := if directive.has '#' && digits.head? ≠ some '0' then '0' :: digits else digits
  directive.padNumber [] marked directive.precision.isNone

/-- Digits with a point behind them, if they have none; an exponent follows it. -/
def withPoint (text : ByteText) : ByteText :=
  if text.contains '.' then text
  else text.takeWhile (· ≠ 'e') ++ '.' :: text.dropWhile (· ≠ 'e')

def real (directive : Directive) (format : Decimal.RealFormat) (letter : Char) (value : Signed) :
    ByteText :=
  let sign := directive.sign value.isNegative
  let shown := fun (text : ByteText) => if letter.isUpper then text.map Char.toUpper else text
  match value.size with
  | .infinite => directive.pad (sign ++ shown "inf".toList)
  | .undefined => directive.pad (sign ++ shown "nan".toList)
  | .finite mantissa exponent =>
      let ratio := Decimal.Ratio.scaled mantissa 2 exponent
      let places := directive.precision.getD 6
      let keepsPoint := directive.has '#'
      let pointed := fun (text : ByteText) => if keepsPoint then withPoint text else text
      match letter.toLower with
      | 'a' =>
          let text := format.hexadecimal mantissa exponent directive.precision keepsPoint
          directive.padNumber (sign ++ shown (text.take 2)) (shown (text.drop 2)) true
      | 'e' =>
          directive.padNumber sign (shown (pointed (Decimal.scientific ratio places))) true
      | 'g' =>
          directive.padNumber sign (shown (pointed (Decimal.general ratio places keepsPoint))) true
      | _ => directive.padNumber sign (shown (pointed (Decimal.fixed ratio places))) true

def print (directive : Directive) (letter : Char) (printing : Printing) : Printing :=
  match letter with
  | 's' =>
      let (argument, printing) := printing.take
      printing.emit (directive.padText (argument.getD []))
  | 'b' =>
      let (argument, printing) := printing.take
      let text := argument.getD []
      let (text, ended) := unescaped (text.length + 1) text
      { printing.emit (directive.padText text) with ended }
  | 'c' =>
      let (argument, printing) := printing.take
      printing.emit (directive.pad [((argument.getD []).head?).getD '\x00'])
  | 'd' =>
      let (value, printing) := printing.takeInt
      printing.emit (directive.signed value)
  | 'i' =>
      let (value, printing) := printing.takeInt
      printing.emit (directive.signed value)
  | 'u' =>
      let (value, printing) := printing.takeNat
      printing.emit (directive.unsigned 10 [] value)
  | 'o' =>
      let (value, printing) := printing.takeNat
      printing.emit (directive.octal value)
  | 'x' =>
      let (value, printing) := printing.takeNat
      printing.emit (directive.unsigned 16 ['0', 'x'] value)
  | 'X' =>
      let (value, printing) := printing.takeNat
      printing.emit ((directive.unsigned 16 ['0', 'x'] value).map Char.toUpper)
  | _ =>
      let (value, printing) := printing.takeReal
      printing.emit (directive.real .double letter value)

end Directive

/-- A number of a directive, which an argument gives if it is a star. -/
def directiveNumber (text : List Char) (printing : Printing) : Int × List Char × Printing :=
  -- Thirty-two bits are kept of it.
  match text with
  | '*' :: rest =>
      let (value, printing) := printing.takeInt
      (Int.bmod value (Nat.pow 2 32), rest, printing)
  | _ =>
      ((Arithmetic.digits 10 text).1, text.dropWhile Char.isDigit, printing)

def runDirective (text : List Char) (printing : Printing) : List Char × Printing :=
  let isFlag := fun c => c = '#' || c = '-' || c = '+' || c = ' ' || c = '0'
  let flags := text.takeWhile isFlag
  let (width, rest, printing) := directiveNumber (text.dropWhile isFlag) printing
  let (precision, rest, printing) := match rest with
    | '.' :: behind =>
        let (size, behind, printing) := directiveNumber behind printing
        (if size < 0 then none else some size.toNat, behind, printing)
    | _ => (none, rest, printing)
  let flags := if width < 0 then '-' :: flags else flags
  let directive : Directive := { flags, width := width.natAbs, precision }
  match rest with
  | letter :: behind =>
      if "sbcdiuoxXeEfFgGaA".toList.contains letter then (behind, directive.print letter printing)
      else
        let shown := '%' :: text.take (text.length - behind.length)
        ([], { printing with ended := true, invalid := some (ByteText.toText shown) })
  | [] =>
      let shown := ByteText.toText ('%' :: text)
      ([], { printing with ended := true, invalid := some shown, unfinished := true })

def runFormat : Nat → List Char → Printing → Printing
  | 0, _, printing => printing
  | _, [], printing => printing
  | bound + 1, c :: rest, printing =>
      if printing.ended then printing
      else if c = '\\' then
        let (escaped, behind) := escape rest
        runFormat bound behind (printing.emit [escaped])
      else if c = '%' then
        match rest with
        | '%' :: behind => runFormat bound behind (printing.emit ['%'])
        | _ =>
            let (behind, printing) := runDirective rest printing
            runFormat bound behind printing
      else runFormat bound rest (printing.emit [c])

def runFormats (format : List Char) : Nat → Printing → Printing
  | 0, printing => printing
  | bound + 1, printing =>
      let after := runFormat (format.length + 1) format { printing with hasTaken := false }
      if after.ended || after.arguments.isEmpty || !after.hasTaken then after
      else runFormats format bound after

def formatted (format : ByteText) (arguments : List ByteText) : Printing :=
  runFormats format (arguments.length + 1) { arguments }

end CallAtlas.Script
