import CallAtlas.Script.Opening
import CallAtlas.Script.Utility.Quoting

/-!
The arguments of utilities: options by letters or long names, and operands between
and behind them.
-/

namespace CallAtlas.Script.Utility

structure ValueFault where
  complaint : String
  hints : Bool := false
  status? : Option Nat := none

def matchingWords {α : Type} (words : List (String × α)) (word : ByteText) : List (String × α) :=
  match words.find? (·.1 = word.toText) with
  | some found => [found]
  | none => words.filter fun entry => word.toText.isPrefixOf entry.1

def chosenWord? {α : Type} [DecidableEq α] (words : List (String × α)) (word : ByteText) :
    Option α :=
  match matchingWords words word with
  | [] => none
  | first :: rest => if rest.all fun entry => entry.2 = first.2 then some first.2 else none

/-- What is wrong with a word that has no meaning, or no clear one; words that mean the same stand
in one line of the list. -/
def wordFault? {α : Type} [DecidableEq α] (what : String) (words : List (String × α))
    (word : ByteText) : Option ValueFault :=
  if (chosenWord? words word).isSome then none
  else
    let kind := if (matchingWords words word).isEmpty then "invalid" else "ambiguous"
    let lines := (words.splitBy fun first second => first.2 = second.2).map fun line =>
      "\n  - " ++ ", ".intercalate (line.map fun entry => "'" ++ entry.1 ++ "'")
    some
      { complaint := s!"{kind} argument {cite word} for '{what}'\nValid arguments are:" ++
          String.join lines
        hints := true }

structure Given where
  options : List (Char × ByteText) := []
  operands : List ByteText := []

structure OptionForm where
  flags : List Char := []
  valued : List Char := []
  optional : List Char := []
  /-- Long names of options. Those without a letter of their own have one that is no byte. -/
  long : List (String × Char) := []
  check : Given → Char → ByteText → Option ValueFault := fun _ _ _ => none
  stopsAtOperand : Bool := false
  usage : String → List String := fun name => [s!"Try '{name} --help' for more information."]

namespace Given

def has (given : Given) (letter : Char) : Bool := given.options.any (·.1 = letter)

def value? (given : Given) (letter : Char) : Option ByteText :=
  (given.options.reverse.find? (·.1 = letter)).map (·.2)

def values (given : Given) (letter : Char) : List ByteText :=
  (given.options.filter (·.1 = letter)).map (·.2)

def last? (given : Given) (letters : List Char) : Option Char :=
  (given.options.reverse.find? fun option => letters.contains option.1).map (·.1)

def addOption (given : Given) (letter : Char) (value : ByteText) : Given :=
  { given with options := given.options ++ [(letter, value)] }

def addOperand (given : Given) (operand : ByteText) : Given :=
  { given with operands := given.operands ++ [operand] }

end Given

inductive OptionFault where
  | unknown (letter : Char)
  | unknownName (text : ByteText)
  | ambiguousName (text : ByteText) (names : List String)
  | valueMissing (letter : Char)
  | valueMissingFor (name : String)
  | valueUnwanted (name : String)
  | badValue (fault : ValueFault)

namespace OptionFault

def message : OptionFault → String
  | unknown letter => s!"invalid option -- '{ByteText.toText [letter]}'"
  | unknownName text => s!"unrecognized option '--{text.toText}'"
  | ambiguousName text names =>
      let all := String.join (names.map fun name => s!" '--{name}'")
      s!"option '--{text.toText}' is ambiguous; possibilities:{all}"
  | valueMissing letter => s!"option requires an argument -- '{letter}'"
  | valueMissingFor name => s!"option '--{name}' requires an argument"
  | valueUnwanted name => s!"option '--{name}' doesn't allow an argument"
  | badValue fault => fault.complaint

def statusOr (usual : Nat) : OptionFault → Nat
  | badValue fault => fault.status?.getD usual
  | _ => usual

def hints : OptionFault → Bool
  | badValue fault => fault.hints
  | _ => true

def shortMessage : OptionFault → String
  | unknown letter => s!"Illegal option -{ByteText.toText [letter]}"
  | valueMissing letter => s!"No arg for -{letter} option"
  | _ => "Illegal option --"

end OptionFault

abbrev Reading := Except OptionFault

def takeOption (form : OptionForm) (given : Given) (letter : Char) (value : ByteText) :
    Reading Given :=
  match form.check given letter value with
  | some fault => .error (.badValue fault)
  | none => .ok (given.addOption letter value)

/-- Reads letters in one argument; a value may follow in it or in the next one. -/
def readLetters (form : OptionForm) : List Char → List ByteText → Given →
    Reading (Given × List ByteText)
  | [], rest, given => .ok (given, rest)
  | letter :: more, rest, given => do
      if form.flags.contains letter then
        readLetters form more rest (← takeOption form given letter [])
      else if form.optional.contains letter then
        return (← takeOption form given letter more, rest)
      else if form.valued.contains letter then
        if !more.isEmpty then return (← takeOption form given letter more, rest)
        else
          match rest with
          | value :: rest => return (← takeOption form given letter value, rest)
          | [] => throw (.valueMissing letter)
      else throw (.unknown letter)

def longOption (form : OptionForm) (text : ByteText) : Reading (String × Char) :=
  let name := String.ofList (text.takeWhile (· ≠ '='))
  match form.long.find? (·.1 = name) with
  | some found => .ok found
  | none =>
      match form.long.filter fun option => name.isPrefixOf option.1 with
      | [] => .error (.unknownName text)
      | first :: rest =>
          if rest.all (·.2 = first.2) then .ok first
          else .error (.ambiguousName text ((first :: rest).map (·.1)))

/-- Reads a long option, behind its dashes; a value may follow in the next argument. -/
def readLong (form : OptionForm) (text : ByteText) (rest : List ByteText) (given : Given) :
    Reading (Given × List ByteText) := do
  let (name, letter) ← longOption form text
  let value? := if text.contains '=' then some ((text.dropWhile (· ≠ '=')).drop 1) else none
  if form.valued.contains letter then
    match value?, rest with
    | some value, _ => return (← takeOption form given letter value, rest)
    | none, value :: rest => return (← takeOption form given letter value, rest)
    | none, [] => throw (.valueMissingFor name)
  else if form.optional.contains letter then
    return (← takeOption form given letter (value?.getD []), rest)
  else
    if value?.isSome then throw (.valueUnwanted name)
    return (← takeOption form given letter [], rest)

/-- Reads arguments; the bound is on their number. -/
def readArguments (form : OptionForm) : Nat → List ByteText → Given → Reading Given
  | 0, _, given => .ok given
  | _, [], given => .ok given
  | bound + 1, first :: rest, given =>
      match first with
      | ['-', '-'] => .ok { given with operands := given.operands ++ rest }
      | '-' :: '-' :: name => do
          let (given, rest) ← readLong form name rest given
          readArguments form bound rest given
      | '-' :: c :: letters => do
          let (given, rest) ← readLetters form (c :: letters) rest given
          readArguments form bound rest given
      | _ =>
          if form.stopsAtOperand then .ok { given with operands := given.operands ++ first :: rest }
          else readArguments form bound rest (given.addOperand first)

abbrev Program := ByteText → List ByteText → Task Nat

def tell (message : String) : Task Unit := do
  Task.flush
  Task.complain message

def giveUp (status : Nat) (complaint : String) : Task Nat := do
  tell complaint
  return status

def hint (status : Nat) (name : String) : Task Nat :=
  giveUp status s!"Try '{name} --help' for more information."

def misuse (status : Nat) (name complaint : String) : Task Nat := do
  tell s!"{name}: {complaint}"
  hint status name

def helpLetter : Char := Char.ofNat 0x1000

def versionLetter : Char := Char.ofNat 0x1001

/-- A utility that reads options; without them it ends with a complaint and a status. -/
def withOptions (form : OptionForm) (status : Nat) (body : String → Given → Task Nat) : Program :=
  -- Asked how it is called, it only says so.
  fun name arguments => do
    let full := { form with
      flags := helpLetter :: versionLetter :: form.flags
      long := form.long ++ [("help", helpLetter), ("version", versionLetter)] }
    match readArguments full (arguments.length + 1) arguments {} with
    | .ok given =>
        match given.last? [helpLetter, versionLetter] with
        | none => body name.toText given
        | some letter => do
            let said := if letter = helpLetter then s!"Usage: {name.toText} [OPTION]..."
              else name.toText
            Task.print (ByteText.ofString (said ++ "\n"))
            return 0
    | .error fault => do
        tell s!"{name.toText}: {fault.message}"
        if fault.hints then (form.usage name.toText).forM tell
        return fault.statusOr status

/-- Does something for each operand; the status is bad once one of them was. -/
def forOperands (operands : List ByteText) (body : ByteText → Task Nat) : Task Nat := do
  match operands with
  | [] => return 0
  | first :: rest => do
      let status ← body first
      return max status (← forOperands rest body)

def report (complaint : String) (result : Option FileError) : Task Nat := do
  match result with
  | none => return 0
  | some cause => giveUp 1 s!"{complaint}: {cause.reason}"

def readOperand (operand : ByteText) : Task (Except FileError ByteText) := do
  if operand = ['-'] then Task.read 0 else Task.readPath operand

/-- The bytes of operands; what cannot be read is complained about as `wording` says. -/
def readEach (wording : ByteText → FileError → String) (bad : Nat) :
    List ByteText → Task (List (ByteText × ByteText) × Nat)
  | [] => return ([], 0)
  | first :: rest => do
      match ← readOperand first with
      | .ok content => do
          let (more, status) ← readEach wording bad rest
          return ((first, content) :: more, status)
      | .error cause => do
          tell (wording first cause)
          let (more, status) ← readEach wording bad rest
          return (more, max bad status)

def readOperands (name : String) (operands : List ByteText) (bad : Nat) :
    Task (List (ByteText × ByteText) × Nat) :=
  readEach (fun operand cause => s!"{name}: {bare operand}: {cause.reason}") bad
    (if operands.isEmpty then [['-']] else operands)

def refuseExtra (status : Nat) (name : String) (extra : ByteText) : Task Nat :=
  misuse status name s!"extra operand {cite extra}"

end CallAtlas.Script.Utility
