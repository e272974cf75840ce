import CallAtlas.Toml.Lexical

/-!
Strings and keys. Basic strings stand between quotes and have escapes, literal
strings stand between apostrophes and have none; three of either open a string
that may run over several lines.
-/

namespace CallAtlas.Toml

def isHexDigit (c : Char) : Bool :=
  c.isDigit || ('a' ≤ c && c ≤ 'f') || ('A' ≤ c && c ≤ 'F')

def digitValue (c : Char) : Nat :=
  if c.isDigit then c.toNat - '0'.toNat
  else if 'a' ≤ c then c.toNat - 'a'.toNat + 10
  else c.toNat - 'A'.toNat + 10

def numeral (base : Nat) (digits : List Char) : Nat :=
  digits.foldl (fun value digit => value * base + digitValue digit) 0

/-- A character given by hexadecimal digits; surrogates are none. -/
def codePoint (count : Nat) : Reader Char := do
  let value := numeral 16 (← Reader.takeExactly count isHexDigit)
  if valid : value.isValidChar then return Char.ofNatAux value valid else failure

def escape : Reader Char := do
  let some c ← Reader.peek? | failure
  Reader.skip 1
  match c with
  | 'b' => return '\x08'
  | 't' => return '\t'
  | 'n' => return '\n'
  | 'f' => return '\x0c'
  | 'r' => return '\r'
  | '"' => return '"'
  | '\\' => return '\\'
  | 'u' => codePoint 4
  | 'U' => codePoint 8
  | _ => failure

def basicString : Reader (List Char) :=
  Reader.collect do
    let some c ← Reader.peek? | failure
    Reader.skip 1
    if c = '"' then return none
    else if c = '\\' then return some (← escape)
    else
      guard (isPlain c)
      return some c

def literalString : Reader (List Char) := do
  let text ← Reader.takeWhile fun c => isPlain c && c ≠ '\''
  Reader.expect "'"
  return text

/-- A line end behind a backslash goes with all blanks and line ends that follow. -/
def foldedLine : Reader Bool := do
  let start ← get
  blanks
  if ← lineEnd then
    discard <| Reader.collect do
      let some c ← Reader.peek? | return none
      if isInlineBlank c then
        blanks
        return some ()
      else if ← lineEnd then return some () else return none
    return true
  else
    set start
    return false

/-- Quotes inside a string of several lines: one or two are text, three end it, and up to two
may stand right before the end. -/
def quotes (quote : Char) : Reader (Option (List Char)) := do
  let run ← Reader.takeWhile (· = quote)
  if run.length < 3 then return some run
  else if run.length = 3 then return none
  else
    guard (run.length ≤ 5)
    modify (List.replicate 3 quote ++ ·)
    return some (run.drop 3)

/-- A string of several lines, behind its opening; the line end right behind that does not count. -/
def longString (quote : Char) : Reader (List Char) := do
  discard lineEnd
  let parts ← Reader.collect do
    let some c ← Reader.peek? | failure
    if c = quote then quotes quote
    else if ← lineEnd then return some ['\n']
    else
      Reader.skip 1
      if c = '\\' && quote = '"' then
        if ← foldedLine then return some [] else return some [← escape]
      else
        guard (isPlain c)
        return some [c]
  return parts.flatten

def stringValue : Reader (List Char) := do
  if ← Reader.accept "\"\"\"" then longString '"'
  else if ← Reader.accept "\"" then basicString
  else if ← Reader.accept "'''" then longString '\''
  else
    Reader.expect "'"
    literalString

def isBareKeyChar (c : Char) : Bool :=
  c.isAlphanum || c = '-' || c = '_'

def keyPart : Reader String := do
  if ← Reader.accept "\"" then return String.ofList (← basicString)
  else if ← Reader.accept "'" then return String.ofList (← literalString)
  else
    let text ← Reader.takeWhile isBareKeyChar
    guard !text.isEmpty
    return String.ofList text

def maxDepth : Nat := 79

def key : Reader (List String) := do
  blanks
  let first ← keyPart
  blanks
  let rest ← Reader.collect do
    if ← Reader.accept "." then
      blanks
      let part ← keyPart
      blanks
      return some part
    else return none
  guard ((first :: rest).length ≤ maxDepth)
  return first :: rest

end CallAtlas.Toml
