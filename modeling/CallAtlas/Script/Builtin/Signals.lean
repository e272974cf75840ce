import CallAtlas.Script.Builtin.Basic

/-!
The commands of the shell about signals and about processes in the background.
-/

namespace CallAtlas.Script.Builtin

def assignTraps (text : Option ByteText) : List ByteText → Action Unit
  | [] => Action.setStatus 0
  | name :: rest => do
      match Signal.number? 0 name.toText with
      | none => refuse 1 s!"trap: {name.toText}: bad trap"
      | some number => do
          modify fun shell =>
            let others := shell.traps.filter (·.1 ≠ number)
            { shell with traps := others ++ text.toList.map (number, ·) }
          assignTraps text rest

def trap : Builtin := fun arguments => do
  match ← operands arguments with
  | [] => do
      let traps := (← get).traps.mergeSort fun first second => first.1 ≤ second.1
      print (ByteText.unlines (traps.map fun (number, text) =>
        "trap -- ".toList ++ quoted text ++ ' ' :: (Signal.name number).toList))
      Action.setStatus 0
  | [name] => assignTraps none [name]
  | ['-'] :: names => assignTraps none names
  | first :: names =>
      if (Signal.ofDigits? first.toText).isSome then assignTraps none (first :: names)
      else assignTraps (some first) names

def job (name : Option ByteText) : Action (Nat × ExitStatus) := do
  let jobs := (← get).jobs
  let found? := fun (complaint : String) (found : Option (Nat × ExitStatus)) =>
    match found with
    | some job => pure job
    | none => Action.fail complaint
  match name with
  | none => found? "No current job" jobs.head?
  | some ['%'] => found? "No current job" jobs.head?
  | some ['%', '%'] => found? "No current job" jobs.head?
  | some ['%', '+'] => found? "No current job" jobs.head?
  | some ['%', '-'] => found? "No previous job" jobs[1]?
  | some text =>
      let number := match text with
        | '%' :: digits => if digits.all Char.isDigit then Arithmetic.wholeNumber? digits else none
        | _ => none
      found? s!"No such job: {text.toText}" do
        let number ← number
        if number = 0 then none else jobs.reverse[number - 1]?

def listSignals : Builtin := fun arguments => do
  match arguments with
  | [] =>
      print (ByteText.unlines ((List.range (Signal.last + 1)).map fun number =>
        if number = 0 then ['0'] else (Signal.name number).toList))
  | first :: _ => do
      let given ← Action.number first
      let signal := if 128 < given then given - 128 else given
      if 0 < signal && signal ≤ Signal.last then print ((Signal.name signal).toList ++ ['\n'])
      else Action.fail s!"invalid signal number or exit status: {first.toText}"
  Action.setStatus 0

def noProcess : Action Unit := do
  Action.complain "No such process\n"
  Action.setStatus 1

/-- Sends a signal to a process that the script knows; zero stands for the shell itself. -/
def signalProcess (signal number : Nat) : Action Unit := do
  -- A shell that a signal ends does nothing more.
  let shell ← get
  let known := [0, shell.scriptProcess, shell.ownProcess] ++ shell.process.ancestors ++
    shell.jobs.map (·.1)
  let isOwn := number = 0 || number = shell.ownProcess
  let isHandled := !(Signal.isCertain signal) &&
    ((shell.traps.lookup signal).isSome || shell.process.ignored.contains signal)
  if !(known.contains number) then noProcess
  else if isOwn && Signal.isFatal signal && !isHandled then throw (.killed signal)
  else if signal ≠ 0 then
    let sent := (if isOwn then shell.ownProcess else number, signal)
    let world := shell.process.world
    let signals := if world.signals.contains sent then world.signals else world.signals ++ [sent]
    set { shell with process := { shell.process with world := { world with signals } } }

def sendSignal (signal : Nat) (target : ByteText) : Action Unit := do
  match target with
  | '%' :: _ => do
      discard (job (some target))
      noProcess
  | '-' :: group => do
      if (← Action.number group) = 0 then signalProcess signal 0 else noProcess
  | _ => do signalProcess signal (← Action.number target)

def killUsage : String :=
  "Usage: kill [-s sigspec | -signum | -sigspec] [pid | job]... or\nkill -l [exitstatus]"

def kill : Builtin := fun arguments => do
  let direct := match arguments with
    | ('-' :: name) :: _ => Signal.number? 1 (ByteText.toText name)
    | _ => none
  let (signal, isList, targets) ← match direct with
    | some signal => pure (signal, false, arguments.drop 1)
    | none => do
        let given ← options ['l'] ['s'] arguments
        let signals ← (given.values 's').mapM fun name => do
          match Signal.number? 1 name.toText with
          | some signal => pure signal
          | none => Action.fail s!"invalid signal number or name: {name.toText}"
        pure (signals.getLast?.getD 15, given.has 'l', given.operands)
  if isList then listSignals targets
  else
    if targets.isEmpty then Action.fail killUsage
    Action.setStatus 0
    targets.forM (sendSignal signal)

def awaited (target : ByteText) : Action Nat := do
  let ended ← if target.head? = some '%' then do pure (← job (some target)).2
    else do
      let number ← Action.number target
      pure (((← get).jobs.lookup number).getD (.exited 127))
  Signal.announce ended
  return Signal.code ended

def wait : Builtin := fun arguments => do
  let statuses ← (← operands arguments).mapM awaited
  Action.setStatus (statuses.getLast?.getD 0)

/-- Shows jobs; none of those that there are is left to show. -/
def showJobs : Builtin := fun arguments => do
  let given ← options ['l', 'p'] [] arguments
  given.operands.forM fun name => discard (job (some name))
  Action.setStatus 0

def resumeJob : Builtin := fun arguments => do
  let name := (← operands arguments).head?
  discard (job name)
  Action.fail s!"job {(name.getD []).toText} not created under job control"

end CallAtlas.Script.Builtin
