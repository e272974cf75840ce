import CallAtlas.Script.Builtin.Basic

/-!
The options and the arguments of a script, which it can set itself, and the options
among arguments, which it can take one after the other.
-/

namespace CallAtlas.Script.Builtin

def setOption (on : Bool) (letter : Char) : Action Unit :=
  modify fun shell =>
    let others := shell.options.filter (· ≠ letter)
    { shell with options := if on then others ++ [letter] else others }

def shownOptions (shell : Shell) (isList : Bool) : ByteText :=
  let line := fun (name : String) (on : Bool) =>
    if isList then
      let blanks := "".pushn ' ' (16 - name.length)
      name ++ blanks ++ if on then "on" else "off"
    else (if on then "set -o " else "set +o ") ++ name
  let lines := (optionNames.map fun (name, letter) => line name (shell.hasOption letter)) ++
    [line "nolog" false, line "debug" false]
  let heading := if isList then ["Current option settings"] else []
  ByteText.unlines ((heading ++ lines).map String.toList)

/-- Turns options on or off by their letters; one of them takes the name of an option from the next
argument, and shows the options if there is none. -/
def setLetters (on : Bool) : List Char → List ByteText → Action (List ByteText)
  -- What is left of the arguments is given.
  | [], rest => return rest
  | 'o' :: letters, [] => do
      print (shownOptions (← get) on)
      setLetters on letters []
  | 'o' :: letters, name :: rest => do
      match optionNames.lookup name.toText with
      | some letter => setOption on letter
      | none => unless ["nolog", "debug"].contains name.toText do
          Action.fail s!"Illegal option -o {name.toText}"
      setLetters on letters rest
  | letter :: letters, rest => do
      unless optionLetters.contains letter do Action.fail s!"Illegal option -{letter}"
      setOption on letter
      setLetters on letters rest

/-- Sets options and arguments; the bound is on their number. -/
def setAll : Nat → List ByteText → Action Unit
  | 0, _ => pure ()
  | _, [] => pure ()
  | bound + 1, first :: rest =>
      match first with
      | ['-', '-'] => Action.setArguments rest
      | ['-'] => do
          setOption false 'x'
          setOption false 'v'
          unless rest.isEmpty do Action.setArguments rest
      | '-' :: letters => do setAll bound (← setLetters true letters rest)
      | '+' :: letters => do setAll bound (← setLetters false letters rest)
      | _ => Action.setArguments (first :: rest)

def checkTerminal : Action Unit := do
  if (← get).hasOption 'm' then
    Action.complain "can't access tty; job control turned off"
    setOption false 'm'

def shift : Builtin := fun arguments => do
  let count ← match arguments with
    | [] => pure 1
    | first :: _ => Action.number first
  let shell ← get
  if shell.arguments.length < count then Action.fail "can't shift that many"
  Action.setArguments (shell.arguments.drop count)
  Action.setStatus 0

inductive OptionKind where
  | unknown
  | flag
  | valued

/-- Looks a letter up in the form of options, in which a colon stands behind a letter that takes a
value. -/
def optionKind (letter : Char) : ByteText → OptionKind
  | [] => .unknown
  | [c] => if c = letter then .flag else .unknown
  | c :: ':' :: rest => if c = letter then .valued else optionKind letter rest
  | c :: d :: rest => if c = letter then .flag else optionKind letter (d :: rest)

/-- The word at a place that is begun, from where it is to be read on, with the index of the word
behind it. -/
def optionWord (arguments : List ByteText) (place : OptionPlace) : Option ByteText × Nat :=
  -- Nothing is left at the end of the options, but for that index.
  let begun := match place.offset, place.index with
    | some offset, index + 2 => ((arguments[index]?).getD []).drop offset
    | _, _ => []
  if !begun.isEmpty then (some begun, place.index)
  else
    match arguments[place.index - 1]? with
    | some ['-', '-'] => (none, place.index + 1)
    | some ('-' :: c :: letters) => (some (c :: letters), place.index + 1)
    | _ => (none, place.index)

/-- An option that was taken: what the variable for it and the one for its value become, the next
word, and what is left of the word that was begun. -/
structure TakenOption where
  letter : Char
  value : Option ByteText
  index : Nat
  left : Option ByteText
  complaint : Option String := none

def takeOption (form : ByteText) (arguments : List ByteText) (letter : Char) (left : ByteText)
    (index : Nat) : TakenOption :=
  let isSilent := form.head? = some ':'
  let wrong := fun (sign : Char) (left : Option ByteText) (complaint : String) =>
    if isSilent then { letter := sign, value := some [letter], index, left : TakenOption }
    else { letter := '?', value := none, index, left, complaint := some complaint }
  match optionKind letter form with
  | .unknown => wrong '?' (some left) s!"Illegal option -{letter}"
  | .flag => { letter, value := some [], index, left := some left }
  | .valued =>
      if !left.isEmpty then { letter, value := some left, index, left := none }
      else
        match arguments[index - 1]? with
        | some value => { letter, value := some value, index := index + 1, left := none }
        | none => wrong ':' none s!"No arg for -{letter} option"

def getOptions : Builtin := fun arguments => do
  match arguments with
  | form :: name :: rest => do
      let shell ← get
      let given := if rest.isEmpty then shell.arguments else rest
      let place := shell.optionPlace
      let isBehind := place.index = 0 || given.length + 1 < place.index
      let place := if isBehind then {} else place
      modify fun shell => { shell with optionPlace := { index := 0 } }
      let finish := fun (letter : Char) (index : Nat) (left : Option ByteText) => do
        Action.requireWritable "OPTIND"
        Action.storeVariable "OPTIND" (Shell.number index) false
        Action.setVariable (← checkedName name) [letter] false
        let word := ((given[index - 2]?).getD []).length
        modify fun shell =>
          { shell with optionPlace := { index, offset := left.map fun text => word - text.length } }
      match optionWord given place with
      | (none, index) => do
          finish '?' index none
          Action.setStatus 1
      | (some [], index) => do
          finish '?' index none
          Action.setStatus 1
      | (some (letter :: left), index) => do
          let taken := takeOption form given letter left index
          match taken.complaint with
          | some complaint => Action.ofTask (Task.complain complaint)
          | none => pure ()
          match taken.value with
          | some value => Action.setVariable "OPTARG" value false
          | none => Action.unsetVariable "OPTARG"
          finish taken.letter taken.index taken.left
          Action.setStatus 0
  | _ => Action.fail "Usage: getopts optstring var [arg...]"

end CallAtlas.Script.Builtin
