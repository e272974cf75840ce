import CallAtlas.Script.Utility.Options

/-!
Names of files in arguments of utilities, and questions about what they lead to.
-/

namespace CallAtlas.Script.Utility

def withoutSlashes (path : ByteText) : ByteText :=
  let trimmed := (path.reverse.dropWhile (· = '/')).reverse
  if trimmed.isEmpty then path.take 1 else trimmed

def baseName (path : ByteText) : ByteText :=
  let trimmed := withoutSlashes path
  if trimmed = ['/'] then trimmed else (trimmed.reverse.takeWhile (· ≠ '/')).reverse

def directoryName (path : ByteText) : ByteText :=
  let trimmed := path.reverse.dropWhile (· = '/')
  if trimmed.isEmpty then (if path.isEmpty then ['.'] else ['/'])
  else
    let above := trimmed.dropWhile (· ≠ '/')
    if above.isEmpty then ['.']
    else
      let kept := above.dropWhile (· = '/')
      if kept.isEmpty then ['/'] else kept.reverse

def inDirectory (directory name : ByteText) : ByteText :=
  match withoutSlashes directory with
  | ['/'] => '/' :: name
  | trimmed => trimmed ++ '/' :: name

structure Known where
  location : FileTree.Location
  object : FileTree

def known? (followLast : Bool) (path : ByteText) : Task (Except FileError Known) := do
  match (← Task.files).find path.toPath followLast with
  | .ok (.present location object) => return .ok { location, object }
  | .ok (.absent ..) => return .error .notFound
  | .error cause => return .error cause

def Known.isSame (first second : Known) : Bool :=
  first.location = second.location ||
    (first.object.identity?.isSome && first.object.identity? = second.object.identity?)

def Known.nameCount (known : Known) : Task Nat := do
  match known.object.identity? with
  | none => return 1
  | some identity => return (← get).world.root.countNames identity

def isDirectoryAt (path : ByteText) : Task Bool := do
  return (← known? true path).toOption.any (·.object.isDirectory)

/-- Asks the user, who answers on the input; the answer is whether to do it. -/
def confirm (question : String) : Task Bool := do
  discard (Task.write 2 (ByteText.ofString question))
  let answer := (((← Task.peek 0).toOption.getD []).takeWhile (· ≠ '\n'))
  Task.skip 0 (answer.length + 1)
  return answer.head? = some 'y' || answer.head? = some 'Y'

def pathsTo (path : ByteText) : List ByteText :=
  let cuts := (List.range path.length).filter fun size =>
    size ≠ 0 && path[size]? = some '/' && path[size - 1]? ≠ some '/' &&
      (path.drop size).any (· ≠ '/')
  cuts.map (path.take ·) ++ [path]

end CallAtlas.Script.Utility
