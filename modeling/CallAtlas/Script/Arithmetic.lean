import CallAtlas.Script.ByteText

/-!
Arithmetic of scripts: expressions over whole numbers of 64 bits, with variables that
can be assigned.
-/

namespace CallAtlas.Script.Arithmetic

inductive Token where
  | number (value : Int)
  | name (text : String)
  | operator (text : String)
  | unknown
  deriving DecidableEq

def wrap (value : Int) : Int := Int.bmod value (Nat.pow 2 64)

def digitValue (c : Char) : Nat :=
  if c.isDigit then c.toNat - '0'.toNat
  else if c.isLower then c.toNat - 'a'.toNat + 10
  else if c.isUpper then c.toNat - 'A'.toNat + 10
  else 99

def digits (base : Nat) (text : List Char) : Nat × List Char :=
  let isDigit := fun c => digitValue c < base
  ((text.takeWhile isDigit).foldl (fun value c => value * base + digitValue c) 0,
    text.dropWhile isDigit)

def numeral (text : List Char) : Nat × List Char :=
  match text with
  | '0' :: x :: c :: rest =>
      if (x = 'x' || x = 'X') && digitValue c < 16 then digits 16 (c :: rest)
      else digits 8 (x :: c :: rest)
  | '0' :: rest => digits 8 rest
  | _ => digits 10 text

def clamp (value : Int) : Int :=
  max (-Int.pow 2 63) (min (Int.pow 2 63 - 1) value)

def isSpace (c : Char) : Bool := c = ' ' || (9 ≤ c.toNat && c.toNat ≤ 13)

/-- The number that a text in decimal digits is, blanks around it left out, if it is not negative
and fits 31 bits. -/
def wholeNumber? (text : ByteText) : Option Nat :=
  let body := text.dropWhile isSpace
  let (negative, body) := match body with
    | '-' :: rest => (true, rest)
    | '+' :: rest => (false, rest)
    | _ => (false, body)
  let (value, rest) := digits 10 body
  let isNumber := body.head?.any Char.isDigit && rest.all isSpace
  if isNumber && value < Nat.pow 2 31 && (!negative || value = 0) then some value else none

/-- The number that a text is as a whole, blanks around it left out; an empty text is zero. -/
def value? (text : ByteText) : Option Int :=
  let body := text.dropWhile isSpace
  let (negative, body) := match body with
    | '-' :: rest => (true, rest)
    | '+' :: rest => (false, rest)
    | _ => (false, body)
  if body.isEmpty then (if text.all isSpace then some 0 else none)
  else
    match body with
    | [] => none
    | c :: _ =>
        let (value, rest) := numeral body
        if c.isDigit && rest.all isSpace then
          some (clamp (if negative then -(value : Int) else value))
        else none

def operators : List String :=
  ["<<=", ">>=", "==", "!=", "<=", ">=", "&&", "||", "<<", ">>", "+=", "-=", "*=", "/=", "%=",
    "&=", "|=", "^=", "+", "-", "*", "/", "%", "<", ">", "=", "!", "~", "&", "|", "^", "?", ":",
    "(", ")"]

def operatorTexts : List (List Char × String) := operators.map fun text => (text.toList, text)

def operator? (text : List Char) : Option (String × List Char) :=
  (operatorTexts.find? fun (front, _) => front.isPrefixOf text).map fun (front, operator) =>
    (operator, text.drop front.length)

/-- The tokens of an expression; the bound is on its length. -/
def tokens : Nat → List Char → List Token
  | 0, _ => []
  | _, [] => []
  | bound + 1, c :: rest =>
      if isSpace c then tokens bound rest
      else if c.isDigit then
        let (value, behind) := numeral (c :: rest)
        .number (clamp value) :: tokens bound behind
      else if isNameStart c then
        .name (String.ofList (c :: rest.takeWhile isNameChar)) ::
          tokens bound (rest.dropWhile isNameChar)
      else
        match operator? (c :: rest) with
        | some (operator, behind) => .operator operator :: tokens bound behind
        | none => [.unknown]

def precedence : String → Nat
  | "*" => 10
  | "/" => 10
  | "%" => 10
  | "+" => 9
  | "-" => 9
  | "<<" => 8
  | ">>" => 8
  | "<" => 7
  | "<=" => 7
  | ">" => 7
  | ">=" => 7
  | "==" => 6
  | "!=" => 6
  | "&" => 5
  | "^" => 4
  | "|" => 3
  | "&&" => 2
  | "||" => 1
  | _ => 0

def assignments : List String :=
  ["=", "+=", "-=", "*=", "/=", "%=", "<<=", ">>=", "&=", "|=", "^="]

inductive Fault where
  | invalid (reason : String)
  | illegalNumber (text : ByteText)
  | overflow

structure Reading where
  tokens : List Token
  assigned : List (String × Int) := []

/-- A step of reading an expression, which gives the value of what it reads. Values assigned before
a fault stay. -/
abbrev Step := ExceptT Fault (StateM Reading)

def ofBool (value : Bool) : Int := if value then 1 else 0

def divide (operation : Int → Int → Int) (left right : Int) : Except Fault Int :=
  if right = 0 then .error (.invalid "division by zero")
  else if left = -Int.pow 2 63 && right = -1 then .error .overflow
  else .ok (operation left right)

def apply (operator : String) (left right : Int) : Except Fault Int :=
  let shift := (right % 64).toNat
  let bits := fun (value : Int) => (value % Int.pow 2 64).toNat
  match operator with
  | "*" => .ok (wrap (left * right))
  | "/" => divide Int.tdiv left right
  | "%" => divide Int.tmod left right
  | "+" => .ok (wrap (left + right))
  | "-" => .ok (wrap (left - right))
  | "<<" => .ok (wrap (left * Int.pow 2 shift))
  | ">>" => .ok (Int.fdiv left (Int.pow 2 shift))
  | "<" => .ok (ofBool (left < right))
  | "<=" => .ok (ofBool (left ≤ right))
  | ">" => .ok (ofBool (left > right))
  | ">=" => .ok (ofBool (left ≥ right))
  | "==" => .ok (ofBool (left = right))
  | "!=" => .ok (ofBool (left ≠ right))
  | "&" => .ok (wrap (bits left &&& bits right : Nat))
  | "^" => .ok (wrap (bits left ^^^ bits right : Nat))
  | "|" => .ok (wrap (bits left ||| bits right : Nat))
  | _ => .ok right

namespace Step

def fail {α : Type} (reason : String) : Step α := throw (.invalid reason)

def peek : Step (Option Token) := do return (← get).tokens.head?

def advance : Step Unit := modify fun reading => { reading with tokens := reading.tokens.tail }

def accept (operator : String) : Step Bool := do
  if (← peek) = some (.operator operator) then
    advance
    return true
  else return false

/-- The value of a variable; what was assigned here counts before what it had. -/
def value (lookup : String → ByteText) (name : String) : Step Int := do
  match (← get).assigned.lookup name with
  | some value => return value
  | none =>
      match value? (lookup name) with
      | some value => return value
      | none => throw (.illegalNumber (lookup name))

end Step

mutual

def operand (lookup : String → ByteText) : Nat → Bool → Step Int
  -- What is `skipped` is only read.
  | 0, _ => Step.fail "expecting primary"
  | bound + 1, skipped => do
      let token ← Step.peek
      Step.advance
      match token with
      | some (.number value) => return value
      | some (.name name) => if skipped then return 0 else Step.value lookup name
      | some (.operator "(") => do
          let value ← assignment lookup bound skipped
          if ← Step.accept ")" then return value else Step.fail "expecting ')'"
      | some (.operator "+") => operand lookup bound skipped
      | some (.operator "-") => do return wrap (-(← operand lookup bound skipped))
      | some (.operator "!") => do return ofBool ((← operand lookup bound skipped) = 0)
      | some (.operator "~") => do return -(← operand lookup bound skipped) - 1
      | _ => Step.fail "expecting primary"

def operations (lookup : String → ByteText) : Nat → Bool → Nat → Int → Step Int
  | 0, _, _, _ => Step.fail "expecting primary"
  | bound + 1, skipped, least, left => do
      match ← Step.peek with
      | some (.operator operator) =>
          if least ≤ precedence operator && 2 < precedence operator then
            Step.advance
            let first ← operand lookup bound skipped
            let right ← operations lookup bound skipped (precedence operator + 1) first
            let value ← if skipped then pure right else liftExcept (apply operator left right)
            operations lookup bound skipped least value
          else return left
      | _ => return left

def conjunction (lookup : String → ByteText) : Nat → Bool → Step Int
  | 0, _ => Step.fail "expecting primary"
  | bound + 1, skipped => do
      let first ← operand lookup bound skipped
      let left ← operations lookup bound skipped 3 first
      if ← Step.accept "&&" then
        let right ← conjunction lookup bound (skipped || left = 0)
        return ofBool (left ≠ 0 && right ≠ 0)
      else return left

def disjunction (lookup : String → ByteText) : Nat → Bool → Step Int
  | 0, _ => Step.fail "expecting primary"
  | bound + 1, skipped => do
      let left ← conjunction lookup bound skipped
      if ← Step.accept "||" then
        let right ← disjunction lookup bound (skipped || left ≠ 0)
        return ofBool (left ≠ 0 || right ≠ 0)
      else return left

def conditional (lookup : String → ByteText) : Nat → Bool → Step Int
  | 0, _ => Step.fail "expecting primary"
  | bound + 1, skipped => do
      let condition ← disjunction lookup bound skipped
      if ← Step.accept "?" then
        let consequence ← assignment lookup bound (skipped || condition = 0)
        unless ← Step.accept ":" do Step.fail "expecting ':'"
        let alternative ← conditional lookup bound (skipped || condition ≠ 0)
        return if condition ≠ 0 then consequence else alternative
      else return condition

def assignment (lookup : String → ByteText) : Nat → Bool → Step Int
  | 0, _ => Step.fail "expecting primary"
  | bound + 1, skipped => do
      match (← get).tokens with
      | .name name :: .operator operator :: _ =>
          if assignments.contains operator then
            Step.advance
            Step.advance
            let given ← assignment lookup bound skipped
            if skipped then return given
            let value ← if operator = "=" then pure given
              else do
                liftExcept (apply (operator.dropEnd 1).toString (← Step.value lookup name) given)
            modify fun reading => { reading with assigned := (name, value) :: reading.assigned }
            return value
          else conditional lookup bound skipped
      | _ => conditional lookup bound skipped

end

def evaluate (lookup : String → ByteText) (text : ByteText) : Except Fault Int × List (String × Int) :=
  let tokens := tokens (text.length + 1) text
  let whole : Step Int := do
    let value ← assignment lookup (8 * tokens.length + 8) false
    unless (← Step.peek).isNone do Step.fail "expecting EOF"
    return value
  let (result, reading) := whole.run { tokens }
  (result, reading.assigned)

end CallAtlas.Script.Arithmetic
