import CallAtlas.Script.Arithmetic
import CallAtlas.Script.Regex

/-!
Scripts of the stream editor: addresses that choose lines, and commands for them.
-/

namespace CallAtlas.Script.Utility.Sed

structure Wanted where
  regex : Regex
  ignoresCase : Bool := false

inductive Address where
  | line (number : Nat)
  | step (first size : Nat)
  | last
  /-- Lines that match; without an expression, the one that was used last. -/
  | regex (wanted : Option Wanted)

inductive Limit where
  | address (address : Address)
  | more (count : Nat)
  | multiple (size : Nat)

inductive CaseChange where
  | upper
  | lower
  | keep
  | upperNext
  | lowerNext
  deriving DecidableEq

inductive Replacement where
  | literal (c : Char)
  | group (number : Nat)
  | case (change : CaseChange)

structure Substitution where
  wanted : Option Wanted
  replacement : List Replacement
  everywhere : Bool := false
  prints : Bool := false
  start : Nat := 1
  file : Option ByteText := none

inductive Action where
  | block (stop : Nat)
  | nothing
  | substitute (what : Substitution)
  | print
  | printFirst
  | delete
  | deleteFirst
  | quit (status : Nat) (prints : Bool)
  | number
  | list (width : Option Nat)
  | transliterate (pairs : List (Char × Char))
  | append (text : ByteText)
  | insert (text : ByteText)
  | change (text : ByteText)
  | next
  | nextAppended
  | hold (appends : Bool)
  | get (appends : Bool)
  | exchange
  | branch (label : ByteText)
  | branchIf (replaced : Bool) (label : ByteText)
  | label (name : ByteText)
  | readFile (path : ByteText)
  | readLine (path : ByteText)
  | write (path : ByteText)
  | writeFirst (path : ByteText)
  | zap
  | fileName

structure Command where
  first : Option Address := none
  second : Option Limit := none
  startsInRange : Bool := false
  negated : Bool := false
  action : Action

/-- What is wrong with a script: the complaint, and how much of the script is left behind it; nothing
if the place does not matter. -/
structure Fault where
  complaint : String
  left : Option Nat

structure Reading where
  rest : List Char
  spelling : Regex.Spelling := {}
  blocks : Nat := 0

abbrev Read := StateT Reading (Except Fault)

def refuse {α : Type} (complaint : String) : Read α := do
  throw { complaint, left := some (← get).rest.length }

def peek : Read (Option Char) := do
  return (← get).rest.head?

def drop (count : Nat) : Read Unit :=
  modify fun reading => { reading with rest := reading.rest.drop count }

def setRest (rest : List Char) : Read Unit := modify fun reading => { reading with rest }

def skipBlanks : Read Unit :=
  modify fun reading => { reading with rest := reading.rest.dropWhile fun c => c = ' ' || c = '\t' }

def takeWhile (accepts : Char → Bool) : Read (List Char) := do
  let text := (← get).rest.takeWhile accepts
  drop text.length
  return text

def digits : Read Nat := do
  return (Arithmetic.digits 10 (← takeWhile Char.isDigit)).1

def bracketSize? (text : List Char) : Option Nat :=
  let start := if text.head? = some '^' then 1 else 0
  let start := if text[start]? = some ']' then start + 1 else start
  let rec go : Nat → List Char → Nat → Option Nat
    | 0, _, _ => none
    | _, [], _ => none
    | _, ']' :: _, size => some (size + 1)
    | bound + 1, '[' :: mark :: rest, size =>
        if mark = ':' || mark = '.' || mark = '=' then
          match Regex.marked? mark rest with
          | some (inner, behind) => go bound behind (size + inner.length + 4)
          | none => go bound (mark :: rest) (size + 1)
        else go bound (mark :: rest) (size + 1)
    | bound + 1, _ :: rest, size => go bound rest (size + 1)
  go (text.length + 1) (text.drop start) start

/-- The text up to a delimiter, which a backslash can escape; it stays on one line. -/
def delimited (complaint : String) (delimiter : Char) (isRegex : Bool) : Nat → Read (List Char)
  -- In an expression, a set in brackets can hold the delimiter.
  | 0 => refuse complaint
  | bound + 1 => do
      let reading ← get
      match reading.rest with
      | [] => refuse complaint
      | ['\\'] => do
          drop 1
          refuse complaint
      | '\\' :: c :: rest => do
          setRest rest
          let behind ← delimited complaint delimiter isRegex bound
          return if c = 'n' && isRegex then '\n' :: behind
            else if c = '\n' then (if isRegex then c :: behind else '\\' :: c :: behind)
            else if c = delimiter && !(!isRegex && c = '&') then c :: behind
            else '\\' :: c :: behind
      | c :: rest => do
          if c = delimiter then
            setRest rest
            return []
          else if c = '\n' then refuse complaint
          else
            match if isRegex && c = '[' then bracketSize? rest else none with
            | some size => do
                setRest (rest.drop size)
                return c :: rest.take size ++ (← delimited complaint delimiter isRegex bound)
            | none => do
                if isRegex && c = '[' then
                  setRest []
                  refuse complaint
                setRest rest
                return c :: (← delimited complaint delimiter isRegex bound)

def escapedNumber (base size : Nat) (text : List Char) : Option (Char × List Char) :=
  let isDigit := fun (c : Char) =>
    (c.isDigit && c.toNat - '0'.toNat < base) ||
      (base = 16 && (('a' ≤ c && c ≤ 'f') || ('A' ≤ c && c ≤ 'F')))
  let digits := (text.takeWhile isDigit).take size
  if digits.isEmpty then none
  else some (Char.ofNat ((Arithmetic.digits base digits).1 % 256), text.drop digits.length)

def escaped? : List Char → Option (Char × List Char)
  | 'a' :: rest => some ('\x07', rest)
  | 'f' :: rest => some ('\x0c', rest)
  | 'n' :: rest => some ('\n', rest)
  | 'r' :: rest => some ('\r', rest)
  | 't' :: rest => some ('\t', rest)
  | 'v' :: rest => some ('\x0b', rest)
  | 'd' :: rest => escapedNumber 10 3 rest
  | 'o' :: rest => escapedNumber 8 3 rest
  | 'x' :: rest => escapedNumber 16 2 rest
  | _ => none

/-- A text with the characters that backslashes and letters stand for. -/
def withEscapes (isRegex : Bool) : Nat → List Char → List Char
  -- What would mean something in an expression keeps a backslash there.
  | 0, text => text
  | _, [] => []
  | bound + 1, '\\' :: rest =>
      match rest with
      | [] => ['\\']
      | c :: behind =>
          match if c = 'n' || (isRegex && c = 'b') then none else escaped? rest with
          | some (value, behind) =>
              let isSpecial := isRegex && ("*.[]^$\\/+?|()\x7b\x7d".toList.contains value)
              (if isSpecial then ['\\', value] else [value]) ++ withEscapes isRegex bound behind
          | none => '\\' :: c :: withEscapes isRegex bound behind
  | bound + 1, c :: rest => c :: withEscapes isRegex bound rest

/-- An expression, from its text. -/
def wantedOf (ignoresCase : Bool) (source : List Char) : Read (Option Wanted) := do
  -- An empty one stands for the one that was used last.
  if source.isEmpty then return none
  else
    match Regex.parse (← get).spelling (withEscapes true (source.length + 1) source) with
    | .ok regex => return some { regex, ignoresCase }
    | .error fault => refuse fault.message

def regexAddress (delimiter : Char) : Read Address := do
  let source ← delimited "unterminated address regex" delimiter true ((← get).rest.length + 1)
  let flags ← takeWhile fun c => c = 'I' || c = 'M'
  return .regex (← wantedOf (flags.contains 'I') source)

def address : Read (Option Address) := do
  match (← get).rest with
  | '$' :: _ => do
      drop 1
      return some .last
  | '/' :: _ => do
      drop 1
      return some (← regexAddress '/')
  | '\\' :: delimiter :: _ => do
      drop 2
      return some (← regexAddress delimiter)
  | c :: _ =>
      if c.isDigit then
        let number ← digits
        skipBlanks
        if (← peek) = some '~' then
          drop 1
          return some (.step number (← digits))
        else return some (.line number)
      else return none
  | [] => return none

def limit : Read (Option Limit) := do
  match ← peek with
  | some '+' => do
      drop 1
      return some (.more (← digits))
  | some '~' => do
      drop 1
      return some (.multiple (← digits))
  | _ => return (← address).map .address

/-- The parts of a replacement; the bound is on the length of its text. -/
def replacementOf : Nat → List Char → List Replacement
  | 0, _ => []
  | _, [] => []
  | bound + 1, '&' :: rest => .group 0 :: replacementOf bound rest
  | bound + 1, '\\' :: c :: rest =>
      let change := fun (change : CaseChange) => .case change :: replacementOf bound rest
      match c with
      | 'U' => change .upper
      | 'L' => change .lower
      | 'E' => change .keep
      | 'u' => change .upperNext
      | 'l' => change .lowerNext
      | _ =>
          if c.isDigit then .group (c.toNat - '0'.toNat) :: replacementOf bound rest
          else
            match escaped? (c :: rest) with
            | some (value, behind) => .literal value :: replacementOf bound behind
            | none => .literal c :: replacementOf bound rest
  | bound + 1, c :: rest => .literal c :: replacementOf bound rest

structure Flags where
  everywhere : Bool := false
  prints : Bool := false
  ignoresCase : Bool := false
  start : Option Nat := none
  file : Option ByteText := none

def filePath : Read ByteText := do
  skipBlanks
  let path ← takeWhile (· ≠ '\n')
  if path.isEmpty then refuse "missing filename in r/R/w/W commands"
  return path

def flags : Nat → Flags → Read Flags
  | 0, held => return held
  | bound + 1, held => do
      match ← peek with
      | none => return held
      | some c =>
          if c = '\n' || c = ';' || c = '#' || c = '\x7d' then return held
          else if c.isDigit then
            let number ← digits
            if held.start.isSome then refuse "multiple number options to \x60s' command"
            if number = 0 then refuse "number option to \x60s' command may not be zero"
            flags bound { held with start := some number }
          else
            drop 1
            match c with
            | ' ' => flags bound held
            | '\t' => flags bound held
            | 'g' =>
                if held.everywhere then refuse "multiple \x60g' options to \x60s' command"
                flags bound { held with everywhere := true }
            | 'p' =>
                if held.prints then refuse "multiple \x60p' options to \x60s' command"
                flags bound { held with prints := true }
            | 'i' => flags bound { held with ignoresCase := true }
            | 'I' => flags bound { held with ignoresCase := true }
            | 'm' => flags bound held
            | 'M' => flags bound held
            | 'w' => do
                let path ← filePath
                return { held with file := some path }
            | _ => refuse "unknown option to \x60s'"

def substitution : Read Action := do
  let unended := "unterminated \x60s' command"
  match (← get).rest with
  | [] => refuse unended
  | delimiter :: rest => do
      drop 1
      if delimiter = '\n' || delimiter = '\\' then
        unless delimiter = '\\' do refuse unended
      let size := rest.length + 1
      let source ← delimited unended delimiter true size
      let replacement ← delimited unended delimiter false size
      let held ← flags size {}
      let wanted ← wantedOf held.ignoresCase source
      let parts := replacementOf (replacement.length + 1) replacement
      let groups := (wanted.map fun wanted => wanted.regex.groupCount).getD 9
      match parts.find? fun part => match part with
        | .group number => groups < number
        | _ => false with
      | some (.group number) =>
          refuse s!"invalid reference \\{number} on \x60s' command's RHS"
      | _ =>
          return .substitute
            { wanted
              replacement := parts
              everywhere := held.everywhere
              prints := held.prints
              start := held.start.getD 1
              file := held.file }

def addedLines : Nat → List Char → List Char × List Char
  -- A backslash continues a line, and hides what a character would mean.
  | 0, rest => ([], rest)
  | _, [] => ([], [])
  | _, '\n' :: rest => ([], '\n' :: rest)
  | _, ['\\'] => ([], [])
  | bound + 1, '\\' :: c :: rest =>
      match if c = '\n' then none else escaped? (c :: rest) with
      | some (value, behind) =>
          let (text, last) := addedLines bound behind
          (value :: text, last)
      | none =>
          let (text, last) := addedLines bound rest
          (c :: text, last)
  | bound + 1, c :: rest =>
      let (text, last) := addedLines bound rest
      (c :: text, last)

def addedText : Read ByteText := do
  skipBlanks
  let take := fun (text : List Char) => do
    let (added, rest) := addedLines (text.length + 1) text
    setRest rest
    return added ++ ['\n']
  match (← get).rest with
  | [] => refuse "expected \\ after \x60a', \x60c' or \x60i'"
  | '\\' :: rest =>
      let behind := rest.dropWhile fun c => c = ' ' || c = '\t'
      match behind with
      | [] => do
          setRest []
          return []
      | '\n' :: [] => do
          setRest []
          return []
      | '\n' :: text => take text
      | _ =>
          match rest with
          | c :: text => do
              let (added, last) := addedLines (text.length + 1) text
              setRest last
              return c :: added ++ ['\n']
          | [] => return []
  | text => take text

def transliteration : Read Action := do
  let unended := "unterminated \x60y' command"
  match (← get).rest with
  | [] => refuse unended
  | delimiter :: rest => do
      drop 1
      let size := rest.length + 1
      let source ← delimited unended delimiter false size
      let target ← delimited unended delimiter false size
      let plain := fun (text : List Char) => unescaped (text.length + 1) text
      let source := plain source
      let target := plain target
      if source.length ≠ target.length then
        refuse "strings for \x60y' command are different lengths"
      return .transliterate (source.zip target)
where
  unescaped : Nat → List Char → List Char
    | 0, text => text
    | _, [] => []
    | bound + 1, '\\' :: '\\' :: rest => '\\' :: unescaped bound rest
    | bound + 1, '\\' :: rest =>
        match escaped? rest with
        | some (value, behind) => value :: unescaped bound behind
        | none => '\\' :: unescaped bound rest
    | bound + 1, c :: rest => c :: unescaped bound rest

def labelName : Read ByteText := do
  skipBlanks
  takeWhile fun c => c ≠ ' ' && c ≠ '\t' && c ≠ ';' && c ≠ '\n'

def statusCode : Read Nat := do
  skipBlanks
  return (← digits) % 256

def endCommand : Read Unit := do
  skipBlanks
  match ← peek with
  | none => pure ()
  | some c =>
      if c = ';' || c = '\n' then drop 1
      else if c = '\x7d' || c = '#' then pure ()
      else
        drop 1
        refuse "extra characters after command"

/-- What a command does, behind its letter; blocks are left to their ends. -/
def action (letter : Char) (isRange : Bool) : Read Action := do
  let ended := fun (action : Action) => do
    endCommand
    return action
  let single : Read Unit := if isRange then refuse "command only uses one address" else pure ()
  match letter with
  | 's' => do
      let what ← substitution
      ended what
  | 'y' => do
      let what ← transliteration
      ended what
  | 'p' => ended .print
  | 'P' => ended .printFirst
  | 'd' => ended .delete
  | 'D' => ended .deleteFirst
  | 'n' => ended .next
  | 'N' => ended .nextAppended
  | 'h' => ended (.hold false)
  | 'H' => ended (.hold true)
  | 'g' => ended (.get false)
  | 'G' => ended (.get true)
  | 'x' => ended .exchange
  | 'z' => ended .zap
  | 'F' => ended .fileName
  | '=' => ended .number
  | 'q' => do
      single
      let status ← statusCode
      ended (.quit status true)
  | 'Q' => do
      single
      let status ← statusCode
      ended (.quit status false)
  | 'l' => do
      skipBlanks
      let width ← takeWhile Char.isDigit
      ended (.list (if width.isEmpty then none else some (Arithmetic.digits 10 width).1))
  | 'a' => return .append (← addedText)
  | 'i' => return .insert (← addedText)
  | 'c' => return .change (← addedText)
  | 'b' => return .branch (← labelName)
  | 't' => return .branchIf true (← labelName)
  | 'T' => return .branchIf false (← labelName)
  | 'r' => return .readFile (← filePath)
  | 'R' => return .readLine (← filePath)
  | 'w' => return .write (← filePath)
  | 'W' => return .writeFirst (← filePath)
  | 'v' => do
      discard labelName
      ended .nothing
  | _ => refuse s!"unknown command: \x60{letter}'"

def addresses : Read (Option Address × Option Limit) := do
  match ← peek with
  | some c =>
      if c = '+' || c = '~' then
        drop 1
        discard (takeWhile Char.isDigit)
        refuse "invalid usage of +N or ~N as first address"
  | none => pure ()
  let first ← address
  if first.isNone then return (none, none)
  skipBlanks
  if (← peek) ≠ some ',' then return (first, none)
  drop 1
  skipBlanks
  match ← limit with
  | some second => return (first, some second)
  | none => do
      drop 1
      refuse "unexpected \x60,'"

def isZero : Option Address → Bool
  | some (.line 0) => true
  | _ => false

def isRegexLimit : Option Limit → Bool
  | some (.address (.regex _)) => true
  | _ => false

/-- The commands of a script, from a place in the list of all of them on. -/
def commands : Nat → Nat → Read (List Command × Bool)
  -- The commands of a block follow the one that opens it; the answer tells whether a block was
  -- closed.
  | 0, _ => return ([], false)
  | bound + 1, place => do
      discard (takeWhile fun c => c = ' ' || c = '\t' || c = ';' || c = '\n')
      match ← peek with
      | none => return ([], false)
      | some _ => do
          let (first, second) ← addresses
          skipBlanks
          let hasAddress := first.isSome
          if isZero first && !isRegexLimit second then
            drop 1
            refuse "invalid usage of line address 0"
          let negated := (← peek) = some '!'
          if negated then
            drop 1
            skipBlanks
            if (← peek) = some '!' then
              drop 1
              refuse "multiple \x60!'s"
          match ← peek with
          | none => refuse "missing command"
          | some letter => do
              drop 1
              let command := fun (action : Action) =>
                { first, second, startsInRange := isZero first, negated, action : Command }
              match letter with
              | '#' => do
                  if hasAddress then refuse "comments don't accept any addresses"
                  discard (takeWhile (· ≠ '\n'))
                  commands bound place
              | ':' => do
                  if hasAddress then refuse ": doesn't want any addresses"
                  skipBlanks
                  let name ← takeWhile fun c => c ≠ ';' && c ≠ '\n' && c ≠ ' ' && c ≠ '\t'
                  if name.isEmpty then refuse "\":\" lacks a label"
                  let (rest, closed) ← commands bound (place + 1)
                  return (command (.label name) :: rest, closed)
              | '\x7b' => do
                  modify fun reading => { reading with blocks := reading.blocks + 1 }
                  let (inner, closed) ← commands bound (place + 1)
                  unless closed do throw { complaint := "unmatched \x60\x7b'", left := none }
                  let stop := place + 1 + inner.length
                  let (rest, closed) ← commands bound stop
                  return (command (.block stop) :: inner ++ rest, closed)
              | '\x7d' => do
                  let blocks := (← get).blocks
                  if blocks = 0 then refuse "unexpected \x60\x7d'"
                  if hasAddress then refuse "\x60\x7d' doesn't want any addresses"
                  modify fun reading => { reading with blocks := blocks - 1 }
                  endCommand
                  return ([], true)
              | _ => do
                  let action ← action letter second.isSome
                  let (rest, closed) ← commands bound (place + 1)
                  return (command action :: rest, closed)

def parse (spelling : Regex.Spelling) (script : ByteText) : Except Fault (List Command) := do
  let ((commands, _), _) ← (commands (2 * script.length + 2) 0).run { rest := script, spelling }
  return commands

end CallAtlas.Script.Utility.Sed
