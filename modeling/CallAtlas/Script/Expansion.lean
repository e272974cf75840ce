import CallAtlas.Script.Arithmetic
import CallAtlas.Script.Opening
import CallAtlas.Script.Pattern
import CallAtlas.Script.Shell

/-!
The expansion of words. Parameters, the output of commands and arithmetic are put in
place; then what they gave outside of quotes is split into fields, and fields that are
patterns become the names of files.
-/

namespace CallAtlas.Script

inductive Atom where
  | char (c : Char) (quoted splits : Bool)
  | quotes
  /-- What was put in place of something begins here; it may be a list of arguments in quotes. -/
  | region (isList : Bool)
  | gap

inductive WordRole where
  | plain
  | assigned
  deriving DecidableEq

structure Evaluator where
  atoms : WordRole → Word → Action (List Atom)
  execute : Bool → Command → Action Unit

namespace Atom

def ofText (quoted : Bool) (text : ByteText) : List Atom :=
  if quoted then text.map fun c => char c true false
  else region false :: text.map fun c => char c false true

def ofList (quoted : Bool) : List ByteText → List Atom
  | [] => if quoted then [] else [region false]
  | arguments =>
      let shown := arguments.map fun argument =>
        argument.map fun c => char c quoted !quoted
      region quoted :: (shown.intersperse [gap]).flatten

/-- The characters with whether they are quoted; the arguments of a list are joined. -/
def marked (joint : ByteText) (atoms : List Atom) : Marked :=
  atoms.flatMap fun
    | char c quoted _ => [(c, quoted)]
    | quotes | region _ => []
    | gap => joint.map (·, true)

def texts (joint : ByteText) (atoms : List Atom) : ByteText :=
  (marked joint atoms).map (·.1)

/-- Lets written characters separate fields, as those do that a parameter gave. -/
def splitting : Bool → List Atom → List Atom
  -- Each run of them is a region of its own; `isInside` tells whether the atoms continue one.
  | _, [] => []
  | isInside, char c false false :: rest =>
      (if isInside then [] else [region false]) ++ char c false true :: splitting true rest
  | _, other :: rest => other :: splitting false rest

end Atom

/-- The fields that are complete, the last one first, and the one begun, its last character
first. -/
structure FieldSplit where
  complete : List Marked := []
  begun : Option Marked := none
  isEnding : Bool := false
  /-- Whether blanks end fields that are empty, as they do in a list of arguments and in what is
  put in place right behind one. -/
  isStrict : Bool := false
  isList : Bool := false

namespace FieldSplit

def close (split : FieldSplit) : FieldSplit :=
  { split with
    complete := (split.begun.getD []).reverse :: split.complete, begun := none, isEnding := false }

/-- Takes a separator. -/
def separate (isBlank : Bool) (split : FieldSplit) : FieldSplit :=
  -- Blanks among them never make an empty field, except where they are strict; any other separator
  -- ends a field, be it empty.
  if split.isEnding then { split with isEnding := isBlank }
  else if isBlank && !split.isStrict then
    if split.begun.isSome then { split.close with isEnding := true } else split
  else split.close

def add (separators : ByteText) (split : FieldSplit) : Atom → FieldSplit
  | .quotes => { split with begun := some (split.begun.getD []), isEnding := false }
  | .region isList => { split with isEnding := false, isStrict := split.isList || isList, isList }
  | .gap => split.separate true
  | .char c quoted splits =>
      if splits && separators.contains c then
        split.separate (Shell.defaultSeparators.contains c)
      else
        { split with begun := some ((c, quoted) :: split.begun.getD []), isEnding := false }

/-- The fields of a word. -/
def all (separators : ByteText) (atoms : List Atom) : List Marked :=
  -- The last argument of a list at its end is one, be it empty.
  let split := atoms.foldl (add separators) {}
  let last := if split.isList || split.begun.isSome then split.close else split
  last.complete.reverse

end FieldSplit

namespace Glob

def split : Marked → List Marked
  | [] => [[]]
  | (c, quoted) :: rest =>
      if c = '/' then [] :: split rest
      else
        match split rest with
        | [] => [[(c, quoted)]]
        | first :: more => ((c, quoted) :: first) :: more

def names (files : FileSystem) (base : ByteText) (pattern : Marked) : List ByteText :=
  -- A dot in front must be given.
  let directory := if base.isEmpty then ['.'] else base
  let entries := (files.list (ByteText.toPath directory)).toOption.getD []
  let all := ("." :: ".." :: entries.map (·.1)).mergeSort (fun first second => first ≤ second)
  let items := Pattern.items pattern
  (all.map ByteText.ofString).filter fun name =>
    (name.head? ≠ some '.' || (pattern.head?.map (·.1)) = some '.') && Pattern.accepts items name

def below (files : FileSystem) : ByteText → List Marked → List ByteText
  | base, [] => if files.linkStat base.toPath |>.isOk then [base] else []
  | base, piece :: rest =>
      let slash := if rest.isEmpty then [] else ['/']
      if Pattern.isPattern piece then
        let found := (names files base piece).filter fun name =>
          rest.isEmpty || files.isDirectoryAt (ByteText.toPath (base ++ name))
        found.flatMap fun name => below files (base ++ name ++ slash) rest
      else below files (base ++ piece.map (·.1) ++ slash) rest

/-- The paths that a field stands for; itself if it is no pattern or stands for none. -/
def expand (files : FileSystem) (field : Marked) : List ByteText :=
  let itself := [field.map (·.1)]
  if !Pattern.isPattern field then itself
  else
    match below files [] (split field) with
    | [] => itself
    | found => found

end Glob

namespace Evaluator

def text (evaluator : Evaluator) (word : Word) : Action ByteText := do
  let atoms ← evaluator.atoms .plain word
  return Atom.texts (← get).joint atoms

def assignedText (evaluator : Evaluator) (word : Word) : Action ByteText := do
  let atoms ← evaluator.atoms .assigned word
  return Atom.texts (← get).joint atoms

def pattern (evaluator : Evaluator) (word : Word) : Action (List Pattern.Item) := do
  let atoms ← evaluator.atoms .plain word
  return Pattern.items (Atom.marked (← get).joint atoms)

/-- The paths that a field stands for, or the field itself if it is no pattern or patterns do not
count. -/
def fieldPaths (shell : Shell) (field : Marked) : List ByteText :=
  if shell.hasOption 'f' || !Pattern.isPattern field then [field.map (·.1)]
  else Glob.expand shell.process.files field

def constantField? : Word → Option ByteText
  | [.literal (c :: text) false] =>
      if c = '~' || Pattern.isPattern ((c :: text).map (·, false)) then none else some (c :: text)
  | _ => none

def fields (evaluator : Evaluator) (word : Word) : Action (List ByteText) := do
  match constantField? word with
  | some field => return [field]
  | none => do
      let atoms ← evaluator.atoms .plain word
      let shell ← get
      return (FieldSplit.all shell.separators atoms).flatMap (fieldPaths shell)

def valueAtoms (name : String) (quoted : Bool) : Action (List Atom) := do
  let shell ← get
  match name with
  | "@" => return Atom.ofList quoted shell.arguments
  | "*" =>
      if quoted then
        return Atom.ofText true (ByteText.join shell.joint shell.arguments)
      else return Atom.ofList false shell.arguments
  | _ =>
      match shell.parameter? name with
      | some value => return Atom.ofText quoted value
      | none =>
          if shell.hasOption 'u' && name ≠ "!" then Action.fail s!"{name}: parameter not set"
          else return []

def hasValue (name : String) (ifEmpty : Bool) : Action Bool := do
  let shell ← get
  if name = "@" || name = "*" then
    return !ifEmpty || !(ByteText.join shell.joint shell.arguments).isEmpty
  else
    return match shell.parameter? name with
      | some value => !ifEmpty || !value.isEmpty
      | none => false

def substituteAtoms (evaluator : Evaluator) (role : WordRole) (name : String) (quoted : Bool)
    (kind : Substitute) (ifEmpty : Bool) (word : Word) : Action (List Atom) := do
  let isSet ← hasValue name ifEmpty
  let placed := if quoted then id else Atom.splitting false
  match kind with
  | .use =>
      if isSet then valueAtoms name quoted
      else return placed (← evaluator.atoms role word)
  | .alternative =>
      if isSet then return placed (← evaluator.atoms role word) else return []
  | .assign =>
      if isSet then valueAtoms name quoted
      else if !isName name.toList then Action.fail "Bad substitution"
      else
        Action.setVariable name (← evaluator.text word) false
        valueAtoms name quoted
  | .complain =>
      if isSet then valueAtoms name quoted
      else
        let message ← evaluator.text word
        let said := if !word.isEmpty then message.toText
          else if ifEmpty then "parameter not set or null"
          else "parameter not set"
        Action.fail s!"{name}: {said}"

def trimmed (atEnd longest : Bool) (pattern : List Pattern.Item) (value : ByteText) : ByteText :=
  if atEnd then Pattern.trimBack pattern longest value else Pattern.trimFront pattern longest value

def parameterAtoms (evaluator : Evaluator) (role : WordRole) (name : String) (use : Use)
    (quoted : Bool) : Action (List Atom) := do
  -- A list of arguments is trimmed as one text, in which each argument ends with a zero byte.
  match use with
  | .malformed => Action.fail "Bad substitution"
  | .value => valueAtoms name quoted
  | .length =>
      let value := Atom.texts (← get).joint (← valueAtoms name quoted)
      return Atom.ofText quoted (Shell.number value.length)
  | .substitute kind ifEmpty word => evaluator.substituteAtoms role name quoted kind ifEmpty word
  | .trim atEnd longest pattern =>
      let pattern ← evaluator.pattern pattern
      let shell ← get
      if name = "@" || (name = "*" && !quoted) then
        let list := ByteText.join ['\x00'] shell.arguments
        let left := ByteText.split '\x00' (trimmed atEnd longest pattern list)
        return Atom.ofList quoted left
      else
        let value := Atom.texts shell.joint (← valueAtoms name quoted)
        return Atom.ofText quoted (trimmed atEnd longest pattern value)

def arithmetic (text : ByteText) : Action ByteText := do
  let shell ← get
  let lookup := fun (name : String) => (shell.parameter? name).getD []
  let (result, assigned) := Arithmetic.evaluate lookup text
  assigned.reverse.forM fun (name, value) =>
    Action.setVariable name (toString value).toList false
  match result with
  | .ok value => return (toString value).toList
  | .error (.invalid reason) =>
      Action.fail s!"arithmetic expression: {reason}: \"{text.toText}\""
  | .error (.illegalNumber number) => Action.fail s!"Illegal number: {number.toText}"
  | .error .overflow => throw (.killed 8)

def withoutLineEnds (text : ByteText) : ByteText :=
  (text.reverse.dropWhile (· = '\n')).reverse

end Evaluator

end CallAtlas.Script
