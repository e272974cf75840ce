import CallAtlas.Script.Utility.Records

/-!
Printing parts of paths, and the path of the working directory.
-/

namespace CallAtlas.Script.Utility

def withoutEnding (ending name : ByteText) : ByteText :=
  if ending.length < name.length && ending.isSuffixOf name then
    name.take (name.length - ending.length)
  else name

def Given.lineEnd (given : Given) (zeroLetter : Char) : Char :=
  if given.has zeroLetter then '\x00' else '\n'

def printBaseName : Program :=
  withOptions
    { flags := ['a', 'z'], valued := ['s'], stopsAtOperand := true
      long := [("multiple", 'a'), ("suffix", 's'), ("zero", 'z')] } 1
    fun name given => do
      let ending := given.lineEnd 'z'
      let shown := fun (suffix path : ByteText) =>
        let base := baseName path
        if base.head? = some '/' then base else withoutEnding suffix base
      if given.has 'a' || given.has 's' then
        if given.operands.isEmpty then misuse 1 name "missing operand"
        else
          let suffix := (given.value? 's').getD []
          Task.print (joinRecords ending (given.operands.map (shown suffix)))
          return 0
      else
        match given.operands with
        | [] => misuse 1 name "missing operand"
        | path :: rest =>
            match rest.drop 1 with
            | extra :: _ => refuseExtra 1 name extra
            | [] => do
                Task.print (shown (rest.headD []) path ++ [ending])
                return 0

def printDirectoryName : Program :=
  withOptions { flags := ['z'], long := [("zero", 'z')] } 1
    fun name given => do
      if given.operands.isEmpty then misuse 1 name "missing operand"
      else
        Task.print (joinRecords (given.lineEnd 'z') (given.operands.map directoryName))
        return 0

def toldDirectory? : Task (Option ByteText) := do
  match (← get).environment.lookup "PWD" with
  | none => return none
  | some told => do
      let names := ByteText.split '/' told
      if told.head? ≠ some '/' || names.any fun part => part = ['.'] || part = ['.', '.'] then
        return none
      else
        match ← known? true told with
        | .ok known =>
            return if known.location = (← get).workingDirectory then some told else none
        | .error _ => return none

def printWorkingDirectory : Program :=
  withOptions { flags := ['L', 'P'], long := [("logical", 'L'), ("physical", 'P')] } 1
    fun name given => do
      unless given.operands.isEmpty do tell s!"{name}: ignoring non-option arguments"
      let told ← if given.last? ['L', 'P'] = some 'L' then toldDirectory? else pure none
      let location := (← get).workingDirectory
      match told, (← get).world.root.at? location with
      | some path, _ => do
          Task.print (path ++ ['\n'])
          return 0
      | none, some _ => do
          Task.print (pathOf location ++ ['\n'])
          return 0
      | none, none =>
          giveUp 1 s!"{name}: couldn't find directory entry in '..' with matching i-node"

end CallAtlas.Script.Utility
