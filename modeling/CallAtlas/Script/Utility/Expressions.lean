import CallAtlas.Script.Regex
import CallAtlas.Script.Utility.Records

/-!
Expressions given by arguments: numbers, texts, comparisons and matches.
-/

namespace CallAtlas.Script.Utility

namespace Expression

structure Reading where
  last : ByteText := []
  rest : List ByteText

abbrev Read := StateT Reading (Except String)

def peek : Read (Option ByteText) := do
  return (← get).rest.head?

def take : Read ByteText := do
  let reading ← get
  match reading.rest with
  | [] => throw s!"syntax error: missing argument after {cite reading.last}"
  | first :: rest => do
      set { last := first, rest : Reading }
      return first

def accept (word : String) : Read Bool := do
  if (← peek) = some word.toList then
    discard take
    return true
  else return false

def integer? (text : ByteText) : Option Int :=
  match text with
  | '-' :: digits => (plainCount? digits).map fun value => -(value : Int)
  | digits => (plainCount? digits).map Int.ofNat

def isNull (text : ByteText) : Bool :=
  let body := if text.head? = some '-' then text.drop 1 else text
  text.isEmpty || (!body.isEmpty && body.all (· = '0'))

def shown (value : Int) : ByteText := (toString value).toList

def truth (holds : Bool) : ByteText := if holds then ['1'] else ['0']

def frontMatch (text pattern : ByteText) : Except String ByteText :=
  match Regex.parse {} pattern with
  | .error fault => .error fault.message
  | .ok regex =>
      let subject : Regex.Subject := { text := text.toArray }
      match regex.matchAt subject 0, decide (0 < regex.groupCount) with
      | none, true => .ok []
      | none, false => .ok ['0']
      | some found, true =>
          .ok (((found.groups.lookup 1).map fun (first, last) => subject.slice first last).getD [])
      | some found, false => .ok (Nat.toDigits 10 found.last)

def apply (operator : String) (left right : ByteText) : Except String ByteText :=
  let numbers := fun (apply : Int → Int → Except String Int) =>
    match integer? left, integer? right with
    | some first, some second => (apply first second).map shown
    | _, _ => .error "non-integer argument"
  let divided := fun (divide : Int → Int → Int) => numbers fun first second =>
    if second = 0 then .error "division by zero" else .ok (divide first second)
  let order := match integer? left, integer? right with
    | some first, some second => compare first second
    | _, _ => compareOfLessAndEq (String.ofList left) (String.ofList right)
  match operator with
  | "<" => .ok (truth (order = .lt))
  | "<=" => .ok (truth (order ≠ .gt))
  | "=" => .ok (truth (order = .eq))
  | "==" => .ok (truth (order = .eq))
  | "!=" => .ok (truth (order ≠ .eq))
  | ">=" => .ok (truth (order ≠ .lt))
  | ">" => .ok (truth (order = .gt))
  | "+" => numbers fun first second => .ok (first + second)
  | "-" => numbers fun first second => .ok (first - second)
  | "*" => numbers fun first second => .ok (first * second)
  | "/" => divided Int.tdiv
  | "%" => divided Int.tmod
  | _ => frontMatch left right

def levels : List (List String) :=
  [["<", "<=", "=", "==", "!=", ">=", ">"], ["+", "-"], ["*", "/", "%"], [":"]]

mutual

def alternatives : Nat → Bool → Read ByteText
  -- What does not count is not evaluated.
  | 0, _ => throw "syntax error"
  | bound + 1, evaluates => do
      let first ← conditions bound evaluates
      alternativesFrom bound evaluates first

def alternativesFrom : Nat → Bool → ByteText → Read ByteText
  | 0, _, left => return left
  | bound + 1, evaluates, left => do
      if ← accept "|" then
        let right ← conditions bound (evaluates && isNull left)
        let value := if !isNull left then left else if isNull right then ['0'] else right
        alternativesFrom bound evaluates value
      else return left

def conditions : Nat → Bool → Read ByteText
  | 0, _ => throw "syntax error"
  | bound + 1, evaluates => do
      let first ← operation bound levels evaluates
      conditionsFrom bound evaluates first

def conditionsFrom : Nat → Bool → ByteText → Read ByteText
  | 0, _, left => return left
  | bound + 1, evaluates, left => do
      if ← accept "&" then
        let right ← operation bound levels (evaluates && !isNull left)
        conditionsFrom bound evaluates (if isNull left || isNull right then ['0'] else left)
      else return left

def operation : Nat → List (List String) → Bool → Read ByteText
  | 0, _, _ => throw "syntax error"
  | bound + 1, [], evaluates => word bound evaluates
  | bound + 1, operators :: tighter, evaluates => do
      let first ← operation bound tighter evaluates
      operationFrom bound operators tighter evaluates first

def operationFrom : Nat → List String → List (List String) → Bool → ByteText → Read ByteText
  | 0, _, _, _, left => return left
  | bound + 1, operators, tighter, evaluates, left => do
      match ← peek with
      | some operator =>
          if operators.contains operator.toText then
            discard take
            let right ← operation bound tighter evaluates
            let value ← if evaluates then apply operator.toText left right else pure left
            operationFrom bound operators tighter evaluates value
          else return left
      | none => return left

def word : Nat → Bool → Read ByteText
  | 0, _ => throw "syntax error"
  | bound + 1, evaluates => do
      if ← accept "+" then take
      else if ← accept "length" then
        return Nat.toDigits 10 (← word bound evaluates).length
      else if ← accept "match" then
        let text ← word bound evaluates
        let pattern ← word bound evaluates
        if evaluates then frontMatch text pattern else return text
      else if ← accept "index" then
        let text ← word bound evaluates
        let set ← word bound evaluates
        return Nat.toDigits 10 ((text.findIdx? set.contains).map (· + 1) |>.getD 0)
      else if ← accept "substr" then
        let text ← word bound evaluates
        let start ← word bound evaluates
        let size ← word bound evaluates
        match integer? start, integer? size with
        | some start, some size =>
            return if start ≤ 0 || size ≤ 0 then []
              else (text.drop (start.toNat - 1)).take size.toNat
        | _, _ => return []
      else value bound evaluates

def value : Nat → Bool → Read ByteText
  | 0, _ => throw "syntax error"
  | bound + 1, evaluates => do
      if ← accept "(" then
        let inner ← alternatives bound evaluates
        match ← peek with
        | none => throw s!"syntax error: expecting ')' after {cite (← get).last}"
        | some found => do
            if found ≠ [')'] then throw s!"syntax error: expecting ')' instead of {cite found}"
            discard take
            return inner
      else if (← peek) = some [')'] then throw "syntax error: unexpected ')'"
      else take

end

def evaluate (arguments : List ByteText) : Except String ByteText := do
  let (value, reading) ← (alternatives (12 * arguments.length + 12) true).run { rest := arguments }
  match reading.rest with
  | [] => return value
  | extra :: _ => throw s!"syntax error: unexpected argument {cite extra}"

end Expression

def expression : Program := fun called arguments => do
  let name := called.toText
  let arguments := if arguments.head? = some ['-', '-'] then arguments.drop 1 else arguments
  if arguments.isEmpty then misuse 2 name "missing operand"
  else
    match Expression.evaluate arguments with
    | .ok value => do
        Task.print (value ++ ['\n'])
        return if Expression.isNull value then 1 else 0
    | .error complaint => giveUp 2 s!"{name}: {complaint}"

end CallAtlas.Script.Utility
