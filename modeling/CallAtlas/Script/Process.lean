import CallAtlas.Script.Links
import CallAtlas.Script.ByteText

/-!
Processes and the world they share: the files, the files that are open with how far
they have been read or written, and what went to the streams that lead outside.
-/

namespace CallAtlas.Script

open FileTree (Location)

def pathOf (location : Location) : ByteText :=
  '/' :: ByteText.join ['/'] (location.map ByteText.ofString)

inductive Target where
  | object (identity : Nat)
  | device (kind : Device)
  | output
  | errors
  | pipe (number : Nat)
  deriving DecidableEq

structure OpenFile where
  target : Target
  offset : Nat := 0
  append : Bool := false
  isReadable : Bool := false
  isWritable : Bool := false

structure Stream where
  front : ByteText := []
  pieces : List ByteText := []

namespace Stream

def push (stream : Stream) (bytes : ByteText) : Stream :=
  { stream with pieces := bytes :: stream.pieces }

def text (stream : Stream) : ByteText :=
  if stream.pieces.isEmpty then stream.front else stream.front ++ stream.pieces.reverse.flatten

def drop (stream : Stream) (size : Nat) : Stream := { front := stream.text.drop size }

end Stream

structure World where
  root : FileTree
  opened : List (Nat × OpenFile) := []
  pipes : List (Nat × Stream) := []
  nameless : List (Nat × FileTree) := []
  nextNumber : Nat := 0
  nextProcess : Nat := 1000
  signals : List (Nat × Nat) := []
  output : Stream := {}
  errors : Stream := {}

def setKey {κ ν : Type} [BEq κ] (key : κ) (value : ν) : List (κ × ν) → List (κ × ν)
  | [] => [(key, value)]
  | first :: rest => if first.1 == key then (key, value) :: rest else first :: setKey key value rest

/-- Bytes written over a content from an offset on; a gap is filled with zeros. -/
def overwrite (content : ByteArray) (offset : Nat) (bytes : ByteArray) : ByteArray :=
  let gap : ByteArray := ⟨Array.replicate (offset - content.size) 0⟩
  content.extract 0 offset ++ gap ++ bytes ++
    content.extract (offset + bytes.size) content.size

namespace World

def takeNumber (world : World) : World × Nat :=
  ({ world with nextNumber := world.nextNumber + 1 }, world.nextNumber)

/-- Opens a file; its number is new. -/
def openFile (world : World) (file : OpenFile) : World × Nat :=
  let (world, number) := world.takeNumber
  ({ world with opened := (number, file) :: world.opened }, number)

def openPipe (world : World) (content : ByteText) : World × Nat × Nat :=
  let (world, pipe) := world.takeNumber
  let world := { world with pipes := (pipe, { front := content }) :: world.pipes }
  let (world, source) := world.openFile { target := .pipe pipe, isReadable := true }
  let (world, sink) := world.openFile { target := .pipe pipe, isWritable := true }
  (world, source, sink)

def setFile (world : World) (number : Nat) (file : OpenFile) : World :=
  { world with opened := setKey number file world.opened }

def object? (world : World) (identity : Nat) : Option FileTree :=
  match world.root.identified? identity with
  | some (_, object) => some object
  | none => world.nameless.lookup identity

def renew (world : World) (identity : Nat) (object : FileTree) : World :=
  { world with
    root := world.root.renew identity object
    nameless := world.nameless.map fun (other, held) =>
      (other, if other = identity then object else held) }

def setRoot (world : World) (root : FileTree) : World :=
  -- Open files that are not in it any more are kept.
  let lost := world.opened.filterMap fun (_, file) =>
    match file.target with
    | .object identity =>
        if (root.identified? identity).isSome || (world.nameless.lookup identity).isSome then none
        else (world.root.identified? identity).map fun found => (identity, found.2)
    | _ => none
  { world with root, nameless := lost ++ world.nameless }

/-- The identity of the object at a location; it is given one if it has none. -/
def identify (world : World) (location : Location) : World × Nat :=
  match world.root.at? location with
  | none => world.takeNumber
  | some object =>
      match object.identity? with
      | some identity => (world, identity)
      | none =>
          let (world, identity) := world.takeNumber
          ({ world with root := world.root.put location (object.identifiedBy identity) }, identity)

def forget (world : World) (isKept : Nat → Bool) : World :=
  let opened := world.opened.filter fun (number, _) => isKept number
  let isHeld := fun (target : Target) => opened.any fun (_, file) => file.target = target
  { world with
    opened
    pipes := world.pipes.filter fun (number, _) => isHeld (.pipe number)
    nameless := world.nameless.filter fun (identity, _) => isHeld (.object identity) }

def write (world : World) (number : Nat) (bytes : ByteText) : Except FileError World :=
  match world.opened.lookup number with
  | none => .error .badDescriptor
  | some file =>
      if !file.isWritable then .error .badDescriptor
      else
        match file.target with
        | .output => .ok { world with output := world.output.push bytes }
        | .errors => .ok { world with errors := world.errors.push bytes }
        | .device .null => .ok world
        | .device .full => if bytes.isEmpty then .ok world else .error .noSpace
        | .pipe pipe =>
            let held := (world.pipes.lookup pipe).getD {}
            .ok { world with pipes := setKey pipe (held.push bytes) world.pipes }
        | .object identity =>
            match world.object? identity with
            | some (.file content attributes) =>
                let offset := if file.append then content.size else file.offset
                let changed := overwrite content offset (ByteText.toBytes bytes)
                .ok ((world.renew identity (.file changed attributes)).setFile number
                  { file with offset := offset + bytes.length })
            | _ => .error .badDescriptor

def unread (world : World) (number : Nat) (limit : Option Nat) : Except FileError ByteText :=
  match world.opened.lookup number with
  | none => .error .badDescriptor
  | some file =>
      if !file.isReadable then .error .badDescriptor
      else
        match file.target with
        | .object identity =>
            match world.object? identity with
            | some (.file content _) =>
                let last := limit.elim content.size fun size => file.offset + size
                .ok (ByteText.ofBytes (content.extract file.offset (min last content.size)))
            | _ => .error .isADirectory
        | .pipe pipe =>
            let text := ((world.pipes.lookup pipe).getD {}).text
            .ok (limit.elim text text.take)
        | _ => .ok []

def skip (world : World) (number size : Nat) : World :=
  match world.opened.lookup number with
  | none => world
  | some file =>
      match file.target with
      | .pipe pipe =>
          let held := (world.pipes.lookup pipe).getD {}
          { world with pipes := setKey pipe (held.drop size) world.pipes }
      | _ => world.setFile number { file with offset := file.offset + size }

end World

structure Process where
  world : World
  entered : Location
  directory : Option Nat := none
  descriptors : List (Nat × Nat) := []
  environment : List (String × ByteText) := []
  mask : Nat := 0o022
  ancestors : List Nat := []
  ignored : List Nat := []
  printed : Stream := {}
  unprinted : Option FileError := none

abbrev Task := StateM Process

namespace Process

/-- Where the working directory is now. -/
def workingDirectory (process : Process) : Location :=
  -- One that was removed is where nothing can be.
  match process.directory with
  | none => process.entered
  | some identity =>
      let here? := process.world.root.at? process.entered
      if (here?.bind (·.identity?)) = some identity then process.entered
      else
        match process.world.root.identified? identity with
        | some (location, _) => location
        | none => process.entered.dropLast ++ ["/"]

def files (process : Process) : FileSystem where
  root := process.world.root
  workingDirectory := process.workingDirectory
  mask := process.mask

def enter (process : Process) (location : Location) : Process :=
  let (world, identity) := process.world.identify location
  { process with world, entered := location, directory := some identity }

end Process

namespace Task

def files : Task FileSystem := do
  return (← get).files

def setFiles (files : FileSystem) : Task Unit :=
  modify fun process => { process with world := process.world.setRoot files.root }

/-- Writes to a descriptor; what keeps it from taking the bytes is told. -/
def writeTo (descriptor : Nat) (bytes : ByteText) : Task (Option FileError) := do
  let process ← get
  match process.descriptors.lookup descriptor with
  | none => return some .badDescriptor
  | some number =>
      match process.world.write number bytes with
      | .ok world => do
          set { process with world }
          return none
      | .error cause => return some cause

def write (descriptor : Nat) (bytes : ByteText) : Task Bool := do
  return (← writeTo descriptor bytes).isNone

/-- Prints a result at once; that it cannot be printed is kept in mind. -/
def printNow (text : ByteText) : Task Unit := do
  unless text.isEmpty do
    let cause? ← writeTo 1 text
    if cause?.isSome then modify fun process => { process with unprinted := cause? }

def print (text : ByteText) : Task Unit :=
  modify fun process => { process with printed := process.printed.push text }

def flush : Task Unit := do
  let text := (← get).printed.text
  modify fun process => { process with printed := {} }
  printNow text

def complain (message : String) : Task Unit := do
  discard (write 2 (ByteText.ofString (message ++ "\n")))

def file? (descriptor : Nat) : Task (Option OpenFile) := do
  let process ← get
  return (process.descriptors.lookup descriptor).bind fun number =>
    process.world.opened.lookup number

def target? (descriptor : Nat) : Task (Option Target) := do
  return (← file? descriptor).map (·.target)

def identity? (descriptor : Nat) : Task (Option Nat) := do
  match ← target? descriptor with
  | some (.object identity) => return some identity
  | _ => return none

/-- What can be read from a descriptor, without passing over it; so many bytes at most if a limit is
given. -/
def peekWithin (limit : Option Nat) (descriptor : Nat) : Task (Except FileError ByteText) := do
  let process ← get
  match process.descriptors.lookup descriptor with
  | none => return .error .badDescriptor
  | some number => return process.world.unread number limit

def peek (descriptor : Nat) : Task (Except FileError ByteText) := peekWithin none descriptor

def skip (descriptor size : Nat) : Task Unit :=
  modify fun process =>
    match process.descriptors.lookup descriptor with
    | none => process
    | some number => { process with world := process.world.skip number size }

def read (descriptor : Nat) : Task (Except FileError ByteText) := do
  let result ← peek descriptor
  match result with
  | .ok bytes => skip descriptor bytes.length
  | .error _ => pure ()
  return result

def readAll (descriptor : Nat) : Task ByteText := do
  return (← read descriptor).toOption.getD []

def attempt (change : FileSystem → Except FileError FileSystem) : Task (Option FileError) := do
  match change (← files) with
  | .ok changed => do
      setFiles changed
      return none
  | .error cause => return some cause

def takeNumber : Task Nat := do
  let process ← get
  let (world, number) := process.world.takeNumber
  set { process with world }
  return number

end Task

end CallAtlas.Script
