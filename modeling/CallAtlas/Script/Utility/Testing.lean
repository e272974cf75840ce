import CallAtlas.Script.Condition
import CallAtlas.Script.Utility.Names

/-!
Conditions asked by a program of its own. How many arguments there are decides what they
mean, if they are few.
-/

namespace CallAtlas.Script.Utility

namespace Testing

def unaryLetters : List Char := "bcdefgGhkLnNOprsStuwxz".toList

def binaryOperators : List String :=
  ["=", "==", "!=", "-eq", "-ne", "-ge", "-gt", "-le", "-lt", "-nt", "-ot", "-ef"]

def isBinary (argument : ByteText) : Bool := binaryOperators.contains argument.toText

def isSwitch (argument : ByteText) : Bool := argument.head? = some '-' && argument.length = 2

structure Question where
  files : FileSystem
  last : ByteText

abbrev Check := StateT (List ByteText) (Except String)

def beyond {α : Type} (question : Question) : Check α :=
  throw s!"missing argument after {cite question.last}"

/-- Passes over an argument; more of them may be required. -/
def advance (question : Question) (needsMore : Bool) : Check Unit := do
  modify (·.drop 1)
  if needsMore && (← get).isEmpty then beyond question

def number (text : ByteText) : Except String Int :=
  let body := text.dropWhile Arithmetic.isSpace
  let digits := match body with
    | '-' :: rest => rest
    | '+' :: rest => rest
    | _ => body
  let (value, rest) := Arithmetic.digits 10 digits
  if (digits.head?.any Char.isDigit) && rest.all Arithmetic.isSpace then
    .ok (if body.head? = some '-' then -(value : Int) else value)
  else .error s!"invalid integer {cite text}"

def unary (question : Question) : Check Bool := do
  let operator := (← get).headD []
  if !(operator.drop 1).all unaryLetters.contains then
    throw s!"{cite operator}: unary operator expected"
  advance question true
  let operand := (← get).headD []
  advance question false
  match operator.toText with
  | "-z" => return operand.isEmpty
  | "-n" => return !operand.isEmpty
  | "-t" => do
      discard (number operand)
      return false
  | "-N" => return false
  | other => return Condition.fileHas question.files other operand

def binary (question : Question) : Check Bool := do
  match ← get with
  | left :: operator :: right :: rest => do
      set rest
      let compared := fun (holds : Int → Int → Bool) => do
        let first ← number left
        return holds first (← number right)
      match operator.toText with
      | "=" => return left = right
      | "==" => return left = right
      | "!=" => return left ≠ right
      | "-eq" => compared fun first second => first = second
      | "-ne" => compared fun first second => first ≠ second
      | "-ge" => compared fun first second => first ≥ second
      | "-gt" => compared fun first second => first > second
      | "-le" => compared fun first second => first ≤ second
      | "-lt" => compared fun first second => first < second
      | "-ef" => return Condition.isSame question.files left right
      | _ => return false
  | _ => beyond question

def oneArgument : Check Bool := do
  let argument := (← get).headD []
  modify (·.drop 1)
  return !argument.isEmpty

def twoArguments (question : Question) : Check Bool := do
  let first := (← get).headD []
  if first = ['!'] then
    advance question false
    return !(← oneArgument)
  else if isSwitch first then unary question
  else beyond question

mutual

def counted (question : Question) : Nat → Nat → Check Bool
  | 0, _ => return false
  | bound + 1, count => do
      let arguments ← get
      match count with
      | 1 => oneArgument
      | 2 => twoArguments question
      | 3 => threeArguments question bound
      | 4 =>
          if arguments.head? = some ['!'] then
            advance question true
            return !(← threeArguments question bound)
          else if arguments.head? = some ['('] && arguments[3]? = some [')'] then
            advance question false
            let holds ← twoArguments question
            advance question false
            return holds
          else alternatives question bound
      | _ => alternatives question bound

def threeArguments (question : Question) : Nat → Check Bool
  | 0 => return false
  | bound + 1 => do
      let arguments ← get
      let first := arguments.headD []
      let second := arguments[1]?.getD []
      if isBinary second then binary question
      else if first = ['!'] then
        advance question true
        return !(← twoArguments question)
      else if first = ['('] && arguments[2]? = some [')'] then
        advance question false
        let holds ← oneArgument
        advance question false
        return holds
      else if second = ['-', 'a'] || second = ['-', 'o'] then alternatives question bound
      else throw s!"{cite second}: binary operator expected"

def alternatives (question : Question) : Nat → Check Bool
  | 0 => return false
  | bound + 1 => do
      if (← get).isEmpty then beyond question
      let holds ← conditions question bound
      if (← get).head? = some ['-', 'o'] then
        advance question false
        let more ← alternatives question bound
        return holds || more
      else return holds

def conditions (question : Question) : Nat → Check Bool
  | 0 => return false
  | bound + 1 => do
      let holds ← term question bound
      if (← get).head? = some ['-', 'a'] then
        advance question false
        let more ← conditions question bound
        return holds && more
      else return holds

def term (question : Question) : Nat → Check Bool
  | 0 => return false
  | bound + 1 => do
      match ← get with
      | [] => beyond question
      | ['!'] :: _ => do
          advance question true
          return !(← term question bound)
      | ['('] :: _ => do
          advance question true
          let rest ← get
          let inner := (rest.drop 1).takeWhile (· ≠ [')'])
          let count := if inner.length < 4 then inner.length + 1 else rest.length
          let holds ← counted question bound count
          match (← get).head? with
          | none => throw "')' expected"
          | some found => do
              if found ≠ [')'] then throw s!"')' expected, found {cite found}"
              advance question false
              return holds
      | first :: second :: _ :: _ => do
          if isBinary second then binary question
          else if isSwitch first then unary question
          else oneArgument
      | first :: _ => if isSwitch first then unary question else oneArgument

end

def evaluate (files : FileSystem) (arguments : List ByteText) : Except String Bool := do
  match arguments.getLast? with
  | none => return false
  | some last => do
      let check := counted { files, last } (6 * arguments.length + 6) arguments.length
      let (holds, rest) ← check.run arguments
      match rest with
      | [] => return holds
      | extra :: _ => throw s!"extra argument {cite extra}"

end Testing

def test (isBracket : Bool) : Program := fun called arguments => do
  -- In brackets, the last argument closes them.
  if isBracket && arguments.getLast? ≠ some [']'] then giveUp 2 s!"{called.toText}: missing ']'"
  else
    let arguments := if isBracket then arguments.dropLast else arguments
    match Testing.evaluate (← Task.files) arguments with
    | .ok holds => return if holds then 0 else 1
    | .error complaint => giveUp 2 s!"{called.toText}: {complaint}"

end CallAtlas.Script.Utility
