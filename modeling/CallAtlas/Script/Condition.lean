import CallAtlas.FileSystem.Basic
import CallAtlas.Script.Arithmetic

/-!
Conditions of scripts: comparisons of texts and numbers, and questions about files,
joined by negation, conjunction and disjunction.
-/

namespace CallAtlas.Script.Condition

def unaryOperators : List String :=
  ["-r", "-w", "-x", "-e", "-f", "-d", "-c", "-b", "-p", "-u", "-g", "-k", "-s", "-t", "-z", "-n",
    "-h", "-L", "-O", "-G", "-S"]

def binaryOperators : List String :=
  ["=", "!=", "<", ">", "-eq", "-ne", "-ge", "-gt", "-le", "-lt", "-nt", "-ot", "-ef"]

def isUnary (text : ByteText) : Bool := unaryOperators.contains (String.ofList text)

def isBinary (text : ByteText) : Bool := binaryOperators.contains (String.ofList text)

abbrev Check := StateT (List ByteText) (Except String)

inductive Role where
  | nothing
  | operand
  | unary
  | binary
  | negation
  | conjunction
  | disjunction
  | leftParenthesis
  | rightParenthesis
  deriving DecidableEq

def standsAlone : List ByteText → Bool
  | [] => true
  | [_] => true
  | [_, _] => false
  | _ :: second :: _ => isBinary second

def role (arguments : List ByteText) : Role :=
  match arguments with
  | [] => .nothing
  | first :: rest =>
      if isUnary first then (if standsAlone arguments then .operand else .unary)
      else if isBinary first then .binary
      else if first = ['!'] then .negation
      else if first = ['-', 'a'] then .conjunction
      else if first = ['-', 'o'] then .disjunction
      else if first = ['('] then (if rest.isEmpty then .operand else .leftParenthesis)
      else if first = [')'] then .rightParenthesis
      else .operand

def number (text : ByteText) : Except String Int :=
  let body := text.dropWhile Arithmetic.isSpace
  let digits := match body with
    | '-' :: rest => rest
    | '+' :: rest => rest
    | _ => body
  let (value, rest) := Arithmetic.digits 10 digits
  let value : Int := if body.head? = some '-' then -(value : Int) else value
  if (digits.head?.any Char.isDigit) && rest.all Arithmetic.isSpace &&
      Arithmetic.clamp value = value then .ok value
  else .error s!"Illegal number: {text.toText}"

def fileHas (files : FileSystem) (operator : String) (name : ByteText) : Bool :=
  let path := name.toPath
  if operator = "-h" || operator = "-L" then
    (files.linkStat path).toOption.any FileTree.isLink
  else
    match files.stat path with
    | .error _ => false
    | .ok object =>
        match operator with
        | "-f" => object.isRegularFile
        | "-d" => object.isDirectory
        | "-x" => object.grants .execute
        | "-r" => object.grants .read
        | "-w" => object.grants .write
        | "-s" =>
            match object with
            | .file content _ => !content.isEmpty
            | .directory .. => true
            | _ => false
        | "-c" =>
            match object with
            | .device _ => true
            | _ => false
        | _ => ["-e", "-O", "-G"].contains operator

def unary (files : FileSystem) (operator : String) (operand : ByteText) : Except String Bool :=
  match operator with
  | "-z" => .ok operand.isEmpty
  | "-n" => .ok !operand.isEmpty
  | "-t" => do
      discard (number operand)
      return false
  | _ => .ok (fileHas files operator operand)

def isSame (files : FileSystem) (left right : ByteText) : Bool :=
  match files.find left.toPath true, files.find right.toPath true with
  | .ok (.present first object), .ok (.present second other) =>
      first = second || (object.identity?.isSome && object.identity? = other.identity?)
  | _, _ => false

def binary (files : FileSystem) (operator : String) (left right : ByteText) :
    Except String Bool := do
  match operator with
  | "=" => return left = right
  | "!=" => return left ≠ right
  | "<" => return String.ofList left < String.ofList right
  | ">" => return String.ofList right < String.ofList left
  | "-eq" => return (← number left) = (← number right)
  | "-ne" => return (← number left) ≠ (← number right)
  | "-ge" => return (← number left) ≥ (← number right)
  | "-gt" => return (← number left) > (← number right)
  | "-le" => return (← number left) ≤ (← number right)
  | "-lt" => return (← number left) < (← number right)
  | "-ef" => return isSame files left right
  -- Files of one run are all of the same age.
  | _ => return false

def forward (count : Nat) : Check Unit := modify (·.drop count)

mutual

def disjunction (files : FileSystem) : Nat → Role → Check Bool
  -- The arguments are left at the last one used.
  | 0, _ => return false
  | bound + 1, first => do
      let holds ← conjunction files bound first
      if role ((← get).drop 1) = .disjunction then
        forward 2
        let more ← disjunction files bound (role (← get))
        return holds || more
      else return holds

def conjunction (files : FileSystem) : Nat → Role → Check Bool
  | 0, _ => return false
  | bound + 1, first => do
      let holds ← negation files bound first
      if role ((← get).drop 1) = .conjunction then
        forward 2
        let more ← conjunction files bound (role (← get))
        return holds && more
      else return holds

def negation (files : FileSystem) : Nat → Role → Check Bool
  | 0, _ => return false
  | bound + 1, first => do
      if first = .negation then
        let next := role ((← get).drop 1)
        if next ≠ .nothing then forward 1
        return !(← negation files bound next)
      else primary files bound first

def primary (files : FileSystem) : Nat → Role → Check Bool
  | 0, _ => return false
  | bound + 1, first => do
      match first with
      | .nothing => return false
      | .leftParenthesis => do
          forward 1
          let next := role (← get)
          if next = .rightParenthesis then return false
          let holds ← disjunction files bound next
          forward 1
          unless role (← get) = .rightParenthesis do throw "closing paren expected"
          return holds
      | .unary =>
          match ← get with
          | operator :: operand :: rest => do
              set (operand :: rest)
              unary files (String.ofList operator) operand
          | operator :: _ => throw s!"{operator.toText}: argument expected"
          | [] => return false
      | _ =>
          match ← get with
          | left :: operator :: rest =>
              if isBinary operator then
                match rest with
                | right :: _ => do
                    set rest
                    binary files (String.ofList operator) left right
                | [] => throw s!"{operator.toText}: argument expected"
              else return !left.isEmpty
          | [left] => return !left.isEmpty
          | [] => return false

end

def whole (files : FileSystem) (arguments : List ByteText) (first : Role) :
    Except String Bool := do
  let (holds, rest) ← (disjunction files (4 * arguments.length + 4) first).run arguments
  match rest with
  | [] :: _ :: _ => throw "unexpected operator"
  | extra :: _ :: _ => throw s!"{extra.toText}: unexpected operator"
  | _ => return holds

/-- Evaluates a condition. -/
def evaluateWithin (files : FileSystem) : Nat → Bool → List ByteText → Except String Bool
  -- With three or four arguments their number decides what they mean, and however many negations
  -- stand in front of them then, they count as one.
  | 0, _, _ => .ok false
  | bound + 1, negated, arguments => do
      match arguments with
      | [] => return false
      | first :: rest =>
          let isShort := rest.length = 2 || rest.length = 3
          if rest.length = 2 && (rest.head?.any isBinary) then
            return (← whole files arguments .operand) != negated
          else if isShort && first = ['('] && rest.getLast? = some [')'] then
            return (← whole files rest.dropLast (role rest.dropLast)) != negated
          else if isShort && first = ['!'] then evaluateWithin files bound true rest
          else return (← whole files arguments (role arguments)) != negated

def evaluate (files : FileSystem) (arguments : List ByteText) : Except String Bool :=
  evaluateWithin files (arguments.length + 1) false arguments

end CallAtlas.Script.Condition
