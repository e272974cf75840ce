import CallAtlas.Script.Utility.Finding
import CallAtlas.Script.Utility.Records

/-!
Utilities that start other programs, or wait for something.
-/

namespace CallAtlas.Script.Utility

/-- A utility that starts programs; it can end as they do. -/
abbrev Launcher := Runner → ByteText → List ByteText → Task ExitStatus

def Launcher.ofProgram (program : Runner → Program) : Launcher := fun run called arguments => do
  return .exited (← program run called arguments)

def startStatus (cause : FileError) : Nat := if cause = .notFound then 127 else 126

/-- A command in place of the utility; what keeps it from being started is told as `wording`
says. -/
def replaceBy (run : Runner) (wording : ByteText → FileError → List String)
    (command : List ByteText) : Task ExitStatus := do
  match ← run command with
  | .ok status => return status
  | .error cause => do
      (wording (command.headD []) cause).forM tell
      return .exited (startStatus cause)

def runFault (name : String) (command : ByteText) (cause : FileError) : List String :=
  [s!"{name}: failed to run command {cite command}: {cause.reason}"]

/-- A time in an argument, with a unit behind it; only its form counts. -/
def isDuration (text : ByteText) : Bool :=
  match readReal .extended text with
  | some (value, rest, _) =>
      !value.isNegative && (rest = [] || ["s", "m", "h", "d"].contains (String.ofList rest)) &&
        (match value.size with
          | .undefined => false
          | _ => true)
  | none => false

def isSignal (text : ByteText) : Bool :=
  let short := if "SIG".toList.isPrefixOf text then text.drop 3 else text
  (Signal.number? 0 (ByteText.toText short)).isSome

/-- Runs a command that must not take longer than a time; commands take none. -/
def runInTime : Launcher := fun run called arguments => do
  let name := called.toText
  let form : OptionForm :=
    { flags := ['v', 'f', 'p', helpLetter, versionLetter], valued := ['k', 's']
      long := [("kill-after", 'k'), ("signal", 's'), ("verbose", 'v'), ("foreground", 'f'),
        ("preserve-status", 'p'), ("help", helpLetter), ("version", versionLetter)]
      check := fun _ letter value =>
        if letter = 's' && !isSignal value then some { complaint := s!"{cite value}: invalid signal" }
        else if letter = 'k' && !isDuration value then
          some { complaint := s!"invalid time interval {cite value}" }
        else none
      stopsAtOperand := true }
  let refused := fun (lines : List String) => do
    lines.forM fun line => tell s!"{name}: {line}"
    return ExitStatus.exited (← hint 125 name)
  match readArguments form (arguments.length + 1) arguments {} with
  | .error fault => refused [fault.message]
  | .ok given => do
      if given.has helpLetter || given.has versionLetter then return .exited 0
      match given.operands with
      | duration :: first :: rest =>
          if isDuration duration then do
            match ← replaceBy run (runFault name) (first :: rest) with
            | .signaled signal => return .exited (128 + signal)
            | status => return status
          else refused [s!"invalid time interval {cite duration}"]
      | _ => refused []

def isAdjustment (argument : ByteText) : Bool :=
  match argument with
  | '-' :: '-' :: c :: _ => c.isDigit
  | '-' :: '+' :: c :: _ => c.isDigit
  | '-' :: c :: _ => c.isDigit
  | _ => false

/-- Arguments in which such numbers in front of the command are options; the bound is on their
number. -/
def spelledOut : Nat → List ByteText → List ByteText
  | 0, arguments => arguments
  | _, [] => []
  | bound + 1, first :: rest =>
      if isAdjustment first then ('-' :: 'n' :: first.drop 1) :: spelledOut bound rest
      else if first = ['-', 'n'] then first :: (rest.take 1 ++ spelledOut bound (rest.drop 1))
      else if 2 < first.length && first.head? = some '-' then first :: spelledOut bound rest
      else first :: rest

def runNicely : Launcher := fun run called arguments => do
  let name := called.toText
  let form : OptionForm :=
    { flags := [helpLetter, versionLetter], valued := ['n'], stopsAtOperand := true
      long := [("adjustment", 'n'), ("help", helpLetter), ("version", versionLetter)] }
  let arguments := spelledOut arguments.length arguments
  let fault := fun (command : ByteText) (cause : FileError) =>
    [s!"{name}: {cite command}: {cause.reason}"]
  match readArguments form (arguments.length + 1) arguments {} with
  | .error fault => return .exited (← misuse 125 name fault.message)
  | .ok given => do
      let adjustment := (given.value? 'n').getD ['1', '0']
      let digits := if adjustment.head? = some '-' || adjustment.head? = some '+' then
          adjustment.drop 1
        else adjustment
      if given.has helpLetter || given.has versionLetter then return .exited 0
      else if (plainCount? digits).isNone then
        return .exited (← giveUp 125 s!"{name}: invalid adjustment {cite adjustment}")
      else if given.operands.isEmpty then
        if given.has 'n' then
          return .exited (← misuse 125 name "a command must be given with an adjustment")
        else
          Task.print ['0', '\n']
          return .exited 0
      else
        if adjustment.head? = some '-' && digits.any (· ≠ '0') then
          tell s!"{name}: cannot set niceness: Permission denied"
        replaceBy run fault given.operands

def runDetached : Launcher := fun run called arguments => do
  let name := called.toText
  let form : OptionForm :=
    { flags := [helpLetter, versionLetter], stopsAtOperand := true
      long := [("help", helpLetter), ("version", versionLetter)] }
  match readArguments form (arguments.length + 1) arguments {} with
  | .error fault => return .exited (← misuse 125 name fault.message)
  | .ok given =>
      if !given.options.isEmpty then return .exited 0
      else if given.operands.isEmpty then return .exited (← misuse 125 name "missing operand")
      else
        modify fun process => { process with ignored := 1 :: process.ignored }
        replaceBy run (runFault name) given.operands

def sendSignals : Program := fun _ arguments => do
  let signalOf := fun (name : ByteText) =>
    let short := if ['S', 'I', 'G'].isPrefixOf name then name.drop 3 else name
    (Signal.number? 0 (ByteText.toText short)).getD 15
  let (signal, targets) := match arguments with
    | ['-', 's'] :: name :: rest => (signalOf name, rest)
    | ('-' :: c :: name) :: rest => (signalOf (c :: name), rest)
    | rest => (15, rest)
  let numbers := targets.filterMap plainCount?
  let sent := if signal = 0 then [] else numbers.map (·, signal)
  modify fun process =>
    { process with world := { process.world with signals := process.world.signals ++ sent } }
  return 0

def pause : Program :=
  withOptions {} 1 fun name given => do
    if given.operands.isEmpty then misuse 1 name "missing operand"
    else
      match given.operands.filter (!isDuration ·) with
      | [] => return 0
      | wrong => do
          wrong.forM fun operand => tell s!"{name}: invalid time interval {cite operand}"
          hint 1 name

def synchronize : Program :=
  withOptions { flags := ['d', 'f'], long := [("data", 'd'), ("file-system", 'f')] } 1
    fun name given => do
      if given.operands.isEmpty && given.has 'd' then misuse 1 name "--data needs at least one argument"
      else
        forOperands given.operands fun operand => do
          match ← Task.openPath OpenForm.reading operand with
          | .ok _ => return 0
          | .error cause => giveUp 1 s!"{name}: error opening {quote operand}: {cause.reason}"

end CallAtlas.Script.Utility
