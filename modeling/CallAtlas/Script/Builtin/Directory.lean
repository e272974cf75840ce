import CallAtlas.Script.Builtin.Basic

/-!
The working directory of a shell. The shell knows it by the path on which it was
reached, so that the way back leads along that path and not along what links in it
stand for.
-/

namespace CallAtlas.Script

structure DirectoryPath where
  isDouble : Bool := false
  pieces : List ByteText := []

namespace DirectoryPath

/-- Adds a piece; dots stand for the directory itself and for the one above. -/
def add (path : DirectoryPath) (piece : ByteText) : DirectoryPath :=
  match piece with
  | [] => path
  | ['.'] => path
  | ['.', '.'] => { path with pieces := path.pieces.dropLast }
  | _ => { path with pieces := path.pieces ++ [piece] }

def resolve (directory target : ByteText) : DirectoryPath :=
  let isDouble := fun (text : ByteText) =>
    ['/', '/'].isPrefixOf text && (text.drop 2).head? ≠ some '/'
  let start : DirectoryPath :=
    if target.head? = some '/' then { isDouble := isDouble target }
    else (ByteText.split '/' directory).foldl add { isDouble := isDouble directory }
  (ByteText.split '/' target).foldl add start

def text (path : DirectoryPath) : ByteText :=
  (if path.isDouble then ['/', '/'] else ['/']) ++ ByteText.join ['/'] path.pieces

end DirectoryPath

namespace Builtin

/-- Whether options ask for the path without links; the last one counts. -/
def isPhysical (given : Utility.Given) : Bool :=
  (given.options.getLast?.map (·.1)) = some 'P'

/-- Finds the path of the working directory without links out and remembers it. -/
def findPhysical : Action ByteText := do
  -- A directory that was removed has none.
  let location := (← get).process.workingDirectory
  let isRemoved := location.getLast? = some "/"
  if isRemoved then
    Action.complain s!"getcwd() failed: {FileError.notFound.reason}"
  let path := if isRemoved then [] else pathOf location
  modify fun shell => { shell with physical? := some path }
  return path

def enter (physical : Bool) (target : ByteText) : Action Bool := do
  let shell ← get
  let path := if physical then target else (DirectoryPath.resolve shell.directory target).text
  match shell.process.files.find path.toPath true with
  | .ok (.present location (.directory _ attributes)) => do
      unless attributes.grants .execute do return false
      set { shell with process := shell.process.enter location }
      Action.setVariable "OLDPWD" shell.directory true
      modify fun shell => { shell with physical? := none }
      let directory ← if physical then findPhysical else pure path
      modify fun shell => { shell with directory }
      Action.setVariable "PWD" directory true
      modify fun shell =>
        { shell with located := shell.located.map fun (name, held) =>
            (name, { held with isStale := true }) }
      return true
  | _ => return false

def isAnchored (path : ByteText) : Bool :=
  path.head? = some '/' ||
    match path.takeWhile (· ≠ '/') with
    | ['.'] => true
    | ['.', '.'] => true
    | _ => false

/-- The directories where a path is looked for before the working directory, as paths that lead to
it, with whether they are shown. -/
def searched (shell : Shell) (path : ByteText) : List (ByteText × Bool) :=
  match shell.value? "CDPATH" with
  | none => []
  | some directories =>
      (ByteText.split ':' directories).map fun directory =>
        if directory.isEmpty then (path, false) else (directory ++ '/' :: path, true)

def changeDirectory : Builtin := fun arguments => do
  let given ← options ['L', 'P'] [] arguments
  let shell ← get
  let (named, isBack) := match given.operands with
    | [] => ((shell.value? "HOME").getD [], false)
    | ['-'] :: _ => ((shell.value? "OLDPWD").getD [], true)
    | first :: _ => (first, false)
  let path : ByteText := if named.isEmpty then ['.'] else named
  let isDirectory := fun (found : ByteText × Bool) =>
    shell.process.files.isDirectoryAt found.1.toPath
  let found := if isAnchored named then none else (searched shell path).find? isDirectory
  let (target, isShown) := found.getD (path, false)
  if ← enter (isPhysical given) target then
    if isBack || isShown then print ((← get).directory ++ ['\n'])
    Action.setStatus 0
  else Action.fail s!"can't cd to {path.toText}"

def printDirectory : Builtin := fun arguments => do
  -- The path without links is found out once.
  let given ← options ['L', 'P'] [] arguments
  let shell ← get
  let shown ← match isPhysical given, shell.physical? with
    | false, _ => pure shell.directory
    | true, some path => pure path
    | true, none => do
        let path ← findPhysical
        Action.setVariable "PWD" shell.directory true
        pure path
  print (shown ++ ['\n'])
  Action.setStatus 0

end Builtin

end CallAtlas.Script
