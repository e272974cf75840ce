import CallAtlas.Script.Arithmetic
import CallAtlas.Script.Utility.Names

/-!
Texts as records that end with a character, and numbers of them in arguments.
-/

namespace CallAtlas.Script.Utility

def column (width value : Nat) : ByteText :=
  let digits := Nat.toDigits 10 value
  List.replicate (width - digits.length) ' ' ++ digits

/-- The records of a text with their ends; the last one may lack its end. -/
def endedRecords (ending : Char) : ByteText → List ByteText
  | [] => []
  | c :: rest =>
      if c = ending then [c] :: endedRecords ending rest
      else
        match endedRecords ending rest with
        | [] => [[c]]
        | record :: more => (c :: record) :: more

def records (ending : Char) (text : ByteText) : List ByteText :=
  (endedRecords ending text).map fun record =>
    if record.getLast? = some ending then record.dropLast else record

def joinRecords (ending : Char) (all : List ByteText) : ByteText :=
  all.flatMap (· ++ [ending])

def wordsOf (text : ByteText) : List ByteText :=
  (text.splitBy fun first second => !Arithmetic.isSpace first && !Arithmetic.isSpace second).filter
    fun word => !(word.all Arithmetic.isSpace)

/-- What a unit behind a number multiplies it by. -/
def multiplier? (letters : List Char) (unit : ByteText) : Option Nat :=
  -- It begins with one of some letters.
  let power := fun (c : Char) =>
    "kMGTPEZYRQ".toList.idxOf? (if c = 'K' then 'k' else if c = 'm' then 'M' else c)
  let scale := fun (c : Char) (base : Nat) =>
    if !letters.contains c then none
    else if c = 'b' then some 512 else (power c).map fun index => Nat.pow base (index + 1)
  match unit with
  | [] => some 1
  | [c] => scale c 1024
  | [c, 'B'] => scale c 1000
  | [c, 'D'] => scale c 1000
  | [c, 'i', 'B'] => scale c 1024
  | _ => none

inductive CountFault where
  | malformed
  | tooLarge

def maxCount : Nat := Nat.pow 2 64 - 1

def unitLetters : List Char := "bkKmMGTPEZYRQ".toList

def count? (letters : List Char) (text : ByteText) : Except CountFault Nat :=
  -- A unit by itself is one of them.
  let trimmed := text.dropWhile Arithmetic.isSpace
  let body := if trimmed.head? = some '+' then trimmed.drop 1 else trimmed
  let digits := body.takeWhile Char.isDigit
  let number := if digits.isEmpty then 1 else (Arithmetic.digits 10 digits).1
  match multiplier? letters (body.drop digits.length) with
  | none => .error .malformed
  | some unit =>
      if digits.isEmpty && (text.isEmpty || body.length < text.length) then .error .malformed
      else if maxCount < number * unit then .error .tooLarge
      else .ok (number * unit)

def CountFault.message (what : String) (text : ByteText) : CountFault → String
  | malformed => s!"invalid {what}: {cite text}"
  | tooLarge => s!"invalid {what}: {cite text}: Value too large for defined data type"

def plainCount? (text : ByteText) : Option Nat :=
  if !text.isEmpty && text.all Char.isDigit then some (Arithmetic.digits 10 text).1 else none

def digitFlags : List Char := "0123456789".toList

def headingName (operand : ByteText) : ByteText :=
  if operand = ['-'] then "standard input".toList else operand

def Given.inputs (given : Given) : List ByteText :=
  if given.operands.isEmpty then [['-']] else given.operands

end CallAtlas.Script.Utility
