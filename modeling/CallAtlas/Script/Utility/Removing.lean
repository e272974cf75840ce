import CallAtlas.Script.Utility.Names

/-!
Removing files, directories and trees of them.
-/

namespace CallAtlas.Script.Utility

inductive Asking where
  | never
  | once
  | always
  deriving DecidableEq

structure RemoveForm where
  isRecursive : Bool := false
  takesDirectories : Bool := false
  ignoresMissing : Bool := false
  asking : Asking := .never
  isVerbose : Bool := false

def kindName : FileTree → String
  | .file content _ => if content.isEmpty then "regular empty file" else "regular file"
  | .device _ => "character special file"
  | .link _ => "symbolic link"
  | .directory .. => "directory"

inductive Removed where
  | done
  | kept
  | failed
  deriving DecidableEq

namespace RemoveForm

def takeOut (form : RemoveForm) (name : String) (path : ByteText) (isDirectory : Bool)
    (unreadable : Bool) : Task Removed := do
  let change := fun (files : FileSystem) =>
    if isDirectory then files.removeDirectory path.toPath else files.unlink path.toPath
  match ← Task.attempt change with
  | none => do
      if form.isVerbose then
        let what := if isDirectory then "removed directory" else "removed"
        Task.print (ByteText.ofString s!"{what} {quote path}\n")
      return .done
  | some cause => do
      let cause := if unreadable && cause = .notEmpty then .permissionDenied else cause
      tell s!"{name}: cannot remove {quote path}: {cause.reason}"
      return .failed

def confirms (form : RemoveForm) (name : String) (path : ByteText) (verb : String)
    (object : FileTree) : Task Bool := do
  if form.asking = .always then
    let guard := if object.isLink || object.grants .write then "" else "write-protected "
    confirm s!"{name}: {verb} {guard}{kindName object} {quote path}? "
  else return true

/-- Removes one object; trees nest so deep at most. -/
def remove (form : RemoveForm) (name : String) : Nat → ByteText → Task Removed
  | 0, path => do
      tell s!"{name}: cannot remove {quote path}: {FileError.nameTooLong.reason}"
      return .failed
  | bound + 1, path => do
      match ← known? false path with
      | .error cause =>
          if form.ignoresMissing && (cause = .notFound || cause = .notADirectory) then return .done
          else
            tell s!"{name}: cannot remove {quote path}: {cause.reason}"
            return .failed
      | .ok known =>
          let object := known.object
          if object.isDirectory && form.isRecursive then
            let entries := object.entries.map (·.1)
            if !entries.isEmpty && !object.grants .read then
              return ← form.takeOut name path true true
            if !entries.isEmpty then
              unless ← form.confirms name path "descend into" object do return .kept
            let ended ← entries.foldlM (fun ended entry => do
              let next ← remove form name bound (inDirectory path (ByteText.ofString entry))
              return if ended = .done then next
                else if next = .failed then next
                else ended) Removed.done
            match ended with
            | .failed => return .failed
            | .kept => return .kept
            | .done =>
                unless ← form.confirms name path "remove" object do return .kept
                form.takeOut name path true false
          else if object.isDirectory && !form.takesDirectories then
            tell s!"{name}: cannot remove {quote path}: {FileError.isADirectory.reason}"
            return .failed
          else
            unless ← form.confirms name path "remove" object do return .kept
            form.takeOut name path object.isDirectory false

end RemoveForm

def maxRemovalDepth : Nat := 1000

def askLetter : Char := Char.ofNat 0x1120

def rootLetter : Char := Char.ofNat 0x1121

def noRootLetter : Char := Char.ofNat 0x1122

def askingOf (given : Given) : Asking :=
  match given.options.reverse.find? fun option => ['f', 'i', 'I', askLetter].contains option.1 with
  | some ('i', _) => .always
  | some ('I', _) => .once
  | some ('f', _) => .never
  | some (_, word) =>
      let word := word.toText
      if ["never", "no", "none"].contains word then .never
      else if word = "once" then .once
      else .always
  | none => .never

def remove : Program :=
  withOptions
    { flags := "dfiIrRv".toList ++ [noRootLetter, Char.ofNat 0x1123]
      optional := [askLetter, rootLetter]
      long := [("dir", 'd'), ("force", 'f'), ("interactive", askLetter),
        ("no-preserve-root", noRootLetter), ("one-file-system", Char.ofNat 0x1123),
        ("preserve-root", rootLetter), ("recursive", 'r'), ("verbose", 'v')] }
    1 fun name given => do
      let form : RemoveForm :=
        { isRecursive := given.has 'r' || given.has 'R'
          takesDirectories := given.has 'd'
          ignoresMissing := given.last? ['f', 'i', 'I', askLetter] = some 'f'
          asking := askingOf given
          isVerbose := given.has 'v' }
      if given.operands.isEmpty then
        if given.has 'f' then return 0 else misuse 1 name "missing operand"
      else
        let count := given.operands.length
        let isMany := form.isRecursive || 3 < count
        let plural := if count = 1 then "argument" else "arguments"
        let how := if form.isRecursive then " recursively" else ""
        let isWanted ← if form.asking = .once && isMany then
            confirm s!"{name}: remove {count} {plural}{how}? "
          else pure true
        if !isWanted then return 0
        else
          forOperands given.operands fun operand => do
            let last := baseName operand
            let isRoot := (← known? true operand).toOption.any (·.location.isEmpty)
            if form.isRecursive && (last = ['.'] || last = ['.', '.']) then
              giveUp 1
                s!"{name}: refusing to remove '.' or '..' directory: skipping {quote operand}"
            else if form.isRecursive && isRoot && !given.has noRootLetter then
              tell s!"{name}: it is dangerous to operate recursively on '/'"
              giveUp 1 s!"{name}: use --no-preserve-root to override this failsafe"
            else return if (← form.remove name maxRemovalDepth operand) = .failed then 1 else 0

def pathsAbove (path : ByteText) : List ByteText :=
  let trimmed := withoutSlashes path
  let cuts := (List.range trimmed.length).filter fun size =>
    size ≠ 0 && trimmed[size]? = some '/' && trimmed[size - 1]? ≠ some '/'
  (cuts.map fun size => trimmed.take size).reverse

def removeChain (name : String) (isVerbose tolerant : Bool) : List ByteText → Bool → Task Nat
  | [], _ => return 0
  | path :: rest, isFirst => do
      if isVerbose then
        Task.print (ByteText.ofString s!"{name}: removing directory, {quote path}\n")
      match ← Task.attempt (·.removeDirectory path.toPath) with
      | none => removeChain name isVerbose tolerant rest false
      | some cause =>
          if tolerant && cause = .notEmpty then return 0
          else
            let what := if isFirst then "" else "directory "
            giveUp 1 s!"{name}: failed to remove {what}{quote path}: {cause.reason}"

def removeDirectories : Program :=
  withOptions
    { flags := ['p', 'v', noRootLetter]
      long := [("ignore-fail-on-non-empty", noRootLetter), ("parents", 'p'), ("path", 'p'),
        ("verbose", 'v')] }
    1 fun name given =>
      if given.operands.isEmpty then misuse 1 name "missing operand"
      else
        forOperands given.operands fun operand =>
          let chain := if given.has 'p' then operand :: pathsAbove operand else [operand]
          removeChain name (given.has 'v') (given.has noRootLetter) chain true

def unlink : Program :=
  withOptions {} 1 fun name given => do
    match given.operands with
    | [] => misuse 1 name "missing operand"
    | [operand] =>
        report s!"{name}: cannot unlink {quote operand}"
          (← Task.attempt (·.unlink operand.toPath))
    | _ :: extra :: _ => refuseExtra 1 name extra

end CallAtlas.Script.Utility
