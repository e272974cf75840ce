import CallAtlas.Script.Process

/-!
Opening files. A path that names a descriptor leads where the descriptor does, but what
it leads to is opened anew.
-/

namespace CallAtlas.Script

structure OpenForm where
  reads : Bool := false
  writes : Bool := false
  creates : Bool := false
  isExclusive : Bool := false
  empties : Bool := false
  appends : Bool := false
  mode : Nat := 0o666

namespace OpenForm

def reading : OpenForm := { reads := true }

def writing : OpenForm := { writes := true, creates := true, empties := true }

def appending : OpenForm := { writes := true, creates := true, appends := true }

def file (form : OpenForm) (target : Target) : OpenFile where
  target
  append := form.appends
  isReadable := form.reads
  isWritable := form.writes

end OpenForm

def namedDescriptor? (path : ByteText) : Option Nat :=
  match ByteText.toText path with
  | "/dev/stdin" => some 0
  | "/dev/stdout" => some 1
  | "/dev/stderr" => some 2
  | text =>
      let digits := if text.startsWith "/dev/fd/" then text.drop 8
        else if text.startsWith "/proc/self/fd/" then text.drop 14
        else ""
      digits.toString.toNat?

namespace Task

def openObject (form : OpenForm) (object : FileTree) (renew : FileTree → Task Nat) :
    Task (Except FileError OpenFile) := do
  match object with
  | .device kind => return .ok (form.file (.device kind))
  | .link _ => return .error .tooManyLinks
  | .directory .. =>
      if form.writes || form.creates then return .error .isADirectory
      else if !object.grants .read then return .error .permissionDenied
      else return .ok (form.file (.object (← renew object)))
  | .file content attributes =>
      if (form.reads && !object.grants .read) || (form.writes && !object.grants .write) then
        return .error .permissionDenied
      else
        let content := if form.empties then .empty else content
        return .ok (form.file (.object (← renew (.file content attributes))))

def putAt (location : FileTree.Location) (object : FileTree) : Task Nat := do
  setFiles ((← files).put location object)
  let process ← get
  let (world, identity) := process.world.identify location
  set { process with world }
  return identity

def reopen (form : OpenForm) (descriptor : Nat) : Task (Except FileError OpenFile) := do
  match ← file? descriptor with
  | none => return .error .notFound
  | some file =>
      match file.target with
      | .object identity =>
          match (← get).world.object? identity with
          | none => return .error .notFound
          | some object =>
              openObject form object fun changed => do
                modify fun process =>
                  { process with world := process.world.renew identity changed }
                return identity
      | target => return .ok (form.file target)

def openPath (form : OpenForm) (path : ByteText) : Task (Except FileError OpenFile) := do
  -- A path that ends with a slash leads to no file that could be made.
  let trimmed : ByteText := (path.reverse.dropWhile (· = '/')).reverse
  match namedDescriptor? path with
  | some descriptor => reopen form descriptor
  | none => do
      let files ← files
      if form.creates && trimmed.length < path.length && !trimmed.isEmpty then
        return do
          let _ ← files.find trimmed.toPath false
          throw .isADirectory
      else
        match files.find path.toPath (!form.isExclusive) with
        | .error cause => return .error cause
        | .ok (.present location object) =>
            if form.isExclusive then return .error .alreadyExists
            else openObject form object (putAt location)
        | .ok (.absent location _) =>
            if !form.creates then return .error .notFound
            else
              match files.requireChange location.dropLast with
              | .error cause => return .error cause
              | .ok () =>
                  let identity ← putAt location (.file .empty (files.granted form.mode))
                  return .ok (form.file (.object identity))

def stat (path : ByteText) : Task (Except FileError FileTree) := do
  -- What a descriptor leads to and has no place in the file tree counts as a device.
  match namedDescriptor? path with
  | none => return (← files).stat path.toPath
  | some descriptor =>
      match ← target? descriptor with
      | none => return .error .notFound
      | some (.object identity) =>
          match (← get).world.object? identity with
          | some object => return .ok object
          | none => return .error .notFound
      | some (.device kind) => return .ok (.device kind)
      | some _ => return .ok (.device .null)

def withOpen {α : Type} (file : OpenFile) (body : Nat → Task α) : Task α := do
  let process ← get
  let (world, number) := process.world.openFile file
  set { process with world }
  let result ← body number
  modify fun process => { process with world := process.world.forget (· ≠ number) }
  return result

def readPath (path : ByteText) : Task (Except FileError ByteText) := do
  match ← openPath .reading path with
  | .error cause => return .error cause
  | .ok file =>
      withOpen file fun number => do
        let process ← get
        let result := process.world.unread number none
        match result with
        | .ok bytes => set { process with world := process.world.skip number bytes.length }
        | .error _ => pure ()
        return result

/-- Writes bytes to an open file; what keeps it from taking them is told. -/
def writeOpen (file : OpenFile) (bytes : ByteText) : Task (Option FileError) :=
  withOpen file fun number => do
    let process ← get
    match process.world.write number bytes with
    | .ok world => do
        set { process with world }
        return none
    | .error cause => return some cause

/-- Writes bytes to a file that is opened for it; what keeps it from being opened or from taking
them is told. -/
def writePath (form : OpenForm) (path bytes : ByteText) : Task (Option FileError) := do
  match ← openPath form path with
  | .error cause => return some cause
  | .ok file => writeOpen file bytes

end Task

end CallAtlas.Script
