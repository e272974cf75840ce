import CallAtlas.Script.Utility.Copying
import CallAtlas.Script.Utility.Removing

/-!
Making files and directories, and setting their permissions.
-/

namespace CallAtlas.Script.Utility

/-- Makes the directories on the way to a path. -/
def makeChain (announce : ByteText → Task Unit) (mode? : Option Nat) :
    List ByteText → Task (Option (ByteText × FileError))
  -- The last one gets permissions of its own; what was made is told by `announce`. The answer is
  -- the path that could not be made, with the cause.
  | [] => return none
  | path :: rest => do
      let isLast := rest.isEmpty
      match ← Task.attempt (·.makeDirectory path.toPath) with
      | none => do
          announce path
          match isLast, mode? with
          | true, some mode => discard (Task.attempt (·.changeMode path.toPath fun _ => mode))
          | true, none => pure ()
          | false, _ => discard (Task.attempt (·.changeMode path.toPath (· ||| 0o300)))
          makeChain announce mode? rest
      | some cause => do
          let isDirectory ← isDirectoryAt path
          if isDirectory then makeChain announce mode? rest
          else if !isLast && cause = .alreadyExists then return some (path, .notADirectory)
          else return some (path, cause)

def makeDirectories : Program :=
  withOptions
    { flags := ['p', 'v', 'Z'], valued := ['m'], optional := [Char.ofNat 0x1140]
      long := [("context", Char.ofNat 0x1140), ("mode", 'm'), ("parents", 'p'), ("verbose", 'v')] }
    1 fun name given => do
      if given.operands.isEmpty then misuse 1 name "missing operand"
      else
        let mask := (← get).mask
        match (given.value? 'm').map fun text => (text, Mode.parse? text) with
        | some (text, none) => giveUp 1 s!"{name}: invalid mode {cite text}"
        | chosen =>
            let mode? := (chosen.bind (·.2)).map fun mode => mode.apply true mask 0o777
            let announce := fun (path : ByteText) => do
              if given.has 'v' then
                Task.print (ByteText.ofString s!"{name}: created directory {quote path}\n")
            forOperands given.operands fun operand => do
              let obstacle ← if given.has 'p' then makeChain announce mode? (pathsTo operand)
                else
                  match ← Task.attempt (·.makeDirectory operand.toPath) with
                  | some cause => pure (some (operand, cause))
                  | none => do
                      announce operand
                      match mode? with
                      | some mode =>
                          discard (Task.attempt (·.changeMode operand.toPath fun _ => mode))
                      | none => pure ()
                      pure none
              match obstacle with
              | none => return 0
              | some (path, cause) =>
                  giveUp 1 s!"{name}: cannot create directory {quote path}: {cause.reason}"

/-- Whether a text is a point in time: two digits each for month, day, hour and minute, with a year
in front or without, and with seconds or without. -/
def isTimeStamp (text : ByteText) : Bool :=
  let digits := text.takeWhile Char.isDigit
  let number := fun (place : Nat) => (Arithmetic.digits 10 ((digits.drop place).take 2)).1
  let start := digits.length - 8
  let isSecond := match text.drop digits.length with
    | [] => true
    | ['.', tens, ones] => tens.isDigit && ones.isDigit && tens ≤ '6'
    | _ => false
  [8, 10, 12].contains digits.length && isSecond && 1 ≤ number start && number start ≤ 12 &&
    1 ≤ number (start + 2) && number (start + 2) ≤ 31 && number (start + 4) < 24 &&
    number (start + 6) < 60

def mayTouch (object : FileTree) : Bool :=
  object.attributes.isOwned || object.grants .write

def touch : Program :=
  withOptions
    { flags := "acfhm".toList, valued := ['d', 'r', 't', Char.ofNat 0x1141]
      long := [("date", 'd'), ("no-create", 'c'), ("no-dereference", 'h'), ("reference", 'r'),
        ("time", Char.ofNat 0x1141)] }
    1 fun name given => do
      let stamps := given.values 't'
      let sources := (if given.has 'd' then 1 else 0) + (if given.has 'r' then 1 else 0) + stamps.length
      let lacking ← (given.values 'r').filterMapM fun path => do
        match ← Task.stat path with
        | .error cause => return some (path, cause)
        | .ok _ => return none
      match stamps.find? fun stamp => !isTimeStamp stamp, lacking with
      | some stamp, _ => giveUp 1 s!"{name}: invalid date format {cite stamp}"
      | none, (path, cause) :: _ =>
          giveUp 1 s!"{name}: failed to get attributes of {quote path}: {cause.reason}"
      | none, [] =>
          if 1 < sources && !(given.has 'd' && given.has 'r' && sources = 2) then
            misuse 1 name "cannot specify times from more than one source"
          else if given.operands.isEmpty then misuse 1 name "missing file operand"
          else
            forOperands given.operands fun operand => do
              let creates := !given.has 'c' && !given.has 'h'
              let opened ← if operand = ['-'] || !creates then pure none
                else
                  match ← Task.openPath { writes := true, creates := true } operand with
                  | .ok _ => pure none
                  | .error cause => pure (some cause)
              let touched ← if operand = ['-'] then pure (.ok FileTree.empty)
                else if given.has 'h' then do pure ((← Task.files).linkStat operand.toPath)
                else Task.stat operand
              let failure := match touched with
                | .error cause => some cause
                | .ok object => if mayTouch object then none else some .permissionDenied
              match opened, failure with
              | _, none => return 0
              | some cause, some failure =>
                  if cause = .isADirectory then
                    giveUp 1 s!"{name}: setting times of {quote operand}: {failure.reason}"
                  else giveUp 1 s!"{name}: cannot touch {quote operand}: {cause.reason}"
              | none, some failure =>
                  if given.has 'c' && failure = .notFound then return 0
                  else giveUp 1 s!"{name}: setting times of {quote operand}: {failure.reason}"

structure ModeForm where
  mode : Mode
  isRecursive : Bool := false
  isSilent : Bool := false
  isVerbose : Bool := false
  saysChanges : Bool := false
  refusesMask : Bool := false

namespace ModeForm

def refuse (form : ModeForm) (complaint : String) : Task Nat := do
  if form.isSilent then return 1 else giveUp 1 complaint

def shown (mode : Nat) : String :=
  let digits := Nat.toDigits 8 mode
  let padded := List.replicate (4 - digits.length) '0' ++ digits
  s!"{String.ofList padded} ({String.ofList (modeLetters mode)})"

def describe (form : ModeForm) (path : ByteText) (done : Bool) (before after : Nat) :
    Task Unit := do
  let print := fun (text : String) => Task.print (ByteText.ofString (text ++ "\n"))
  if form.isVerbose || (form.saysChanges && done && before ≠ after) then
    if !done then
      print s!"failed to change mode of {quote path} from {shown before} to {shown after}"
    else if before = after then print s!"mode of {quote path} retained as {shown before}"
    else print s!"mode of {quote path} changed from {shown before} to {shown after}"

def setMode (form : ModeForm) (name : String) (path : ByteText) (object : FileTree) : Task Nat := do
  let before := object.attributes.mode
  let after := form.mode.apply object.isDirectory (← get).mask before
  let naive := form.mode.apply object.isDirectory 0 before
  match ← Task.attempt (·.changeMode path.toPath fun _ => after) with
  | some cause => do
      let status ← form.refuse s!"{name}: changing permissions of {quote path}: {cause.reason}"
      form.describe path false before after
      return status
  | none => do
      form.describe path true before after
      if form.refusesMask && without after naive ≠ 0 then
        let now := String.ofList (modeLetters after)
        let expected := String.ofList (modeLetters naive)
        giveUp 1 s!"{name}: {bare path}: new permissions are {now}, not {expected}"
      else return 0

def run (form : ModeForm) (name : String) : Nat → Bool → ByteText → Task Nat
  | 0, _, _ => return 1
  | bound + 1, isOperand, path => do
      match ← known? isOperand path with
      | .error cause => do
          let isDangling := isOperand && cause = .notFound &&
            ((← Task.files).linkStat path.toPath).toOption.any (·.isLink)
          if isDangling then
            let status ← form.refuse s!"{name}: cannot operate on dangling symlink {quote path}"
            if form.isVerbose then
              Task.print (ByteText.ofString
                s!"neither symbolic link {quote path} nor referent has been changed\n")
            return status
          else
            let status ← form.refuse s!"{name}: cannot access {quote path}: {cause.reason}"
            if form.isVerbose then
              Task.print (ByteText.ofString s!"{quote path} could not be accessed\n")
            return status
      | .ok known =>
          if known.object.isLink then
            if form.isVerbose then
              Task.print (ByteText.ofString
                s!"neither symbolic link {quote path} nor referent has been changed\n")
            return 0
          else
            let status ← form.setMode name path known.object
            if form.isRecursive && known.object.isDirectory then
              match (← Task.files).list path.toPath with
              | .error cause =>
                  let failed ← form.refuse
                    s!"{name}: cannot read directory {quote path}: {cause.reason}"
                  return max status failed
              | .ok entries =>
                  let below := entries.map fun entry => inDirectory path (ByteText.ofString entry.1)
                  return max status (← forOperands below (run form name bound false))
            else return status

end ModeForm

def startsMode (c : Char) : Bool := "rwxXstugoa,+=01234567".toList.contains c

def isModeArgument : ByteText → Bool
  | '-' :: letters =>
      letters.head? ≠ some '-' &&
        ((letters.dropWhile ("Rcfv".toList.contains ·)).head?.any startsMode)
  | _ => false

def changeMode : Program := fun called arguments =>
  let front := arguments.takeWhile (· ≠ ['-', '-'])
  let likeOptions := front.filter isModeArgument
  withOptions
    { flags := "Rcfv".toList ++ [rootLetter, noRootLetter], valued := [ignoredValueLetter]
      optional := "rwxXstugoa,+=01234567".toList
      long := [("changes", 'c'), ("recursive", 'R'), ("no-preserve-root", noRootLetter),
        ("preserve-root", rootLetter), ("quiet", 'f'), ("reference", ignoredValueLetter),
        ("silent", 'f'), ("verbose", 'v')] }
    1 (fun name given => do
      let reference := given.value? ignoredValueLetter
      let takesMode := reference.isNone && likeOptions.isEmpty
      let text := if likeOptions.isEmpty then given.operands.head?.getD []
        else ByteText.join [','] likeOptions
      let operands := if takesMode then given.operands.drop 1 else given.operands
      if reference.isSome && !likeOptions.isEmpty then
        misuse 1 name "cannot combine mode and --reference options"
      else if operands.isEmpty then
        if takesMode && given.operands.length = 1 then
          misuse 1 name s!"missing operand after {cite text}"
        else misuse 1 name "missing operand"
      else
        let given? ← match reference with
          | none => pure (Except.ok (Mode.parse? text))
          | some path => do
              match ← Task.stat path with
              | .error cause => pure (Except.error (path, cause))
              | .ok object =>
                  let bits := object.attributes.mode
                  let change : ModeChange := { operator := .set, affected := allBits, source := .given bits, mentioned := allBits }
                  pure (Except.ok (some [change]))
        match given? with
        | .error (path, cause) =>
            giveUp 1 s!"{name}: failed to get attributes of {quote path}: {cause.reason}"
        | .ok none => misuse 1 name s!"invalid mode: {cite text}"
        | .ok (some mode) =>
            let form : ModeForm :=
              { mode
                isRecursive := given.has 'R'
                isSilent := given.has 'f'
                isVerbose := given.last? ['c', 'v'] = some 'v'
                saysChanges := given.has 'c'
                refusesMask := !likeOptions.isEmpty }
            forOperands operands (form.run name maxTreeDepth true))
    called arguments

def install : Program :=
  withOptions
    { flags := "bcCDdpsTvZ".toList ++ [ignoredLetter]
      valued := ['g', 'm', 'o', 'S', 't', ignoredValueLetter]
      optional := [BackupForm.letter, updateLetter]
      long := [("backup", BackupForm.letter), ("compare", 'C'), ("context", updateLetter),
        ("debug", ignoredLetter), ("directory", 'd'), ("group", 'g'), ("mode", 'm'),
        ("no-target-directory", 'T'), ("owner", 'o'), ("preserve-context", ignoredLetter),
        ("preserve-timestamps", 'p'), ("strip", 's'), ("strip-program", ignoredValueLetter),
        ("suffix", 'S'), ("target-directory", 't'), ("verbose", 'v')]
      check := targetsFault? }
    1 fun name given => do
      let announce := fun (path : ByteText) => do
        if given.has 'v' then
          Task.print (ByteText.ofString s!"{name}: creating directory {quote path}\n")
      let makeAll := fun (mode? : Option Nat) (path : ByteText) => do
        match ← makeChain announce mode? (pathsTo path) with
        | none => return 0
        | some (culprit, cause) =>
            giveUp 1 s!"{name}: cannot create directory {quote culprit}: {cause.reason}"
      let wanted := (given.value? 'm').getD "755".toList
      withBackups name given fun backup => do
        if given.has 'd' && given.has 's' then
          giveUp 1 s!"{name}: the strip option may not be used when installing a directory"
        else if given.has 'd' && given.has 't' then
          giveUp 1 s!"{name}: target directory not allowed when installing a directory"
        else if given.has 'd' && given.operands.isEmpty then misuse 1 name "missing file operand"
        else
          match Mode.parse? wanted with
          | none => giveUp 1 s!"{name}: invalid mode {cite wanted}"
          | some mode =>
              if given.has 'd' then
                let bits := mode.apply true 0 0
                forOperands given.operands fun operand => do
                  let present ← isDirectoryAt operand
                  let status ← makeAll (some bits) operand
                  if present then
                    report s!"{name}: cannot change permissions of {quote operand}"
                      (← Task.attempt (·.changeMode operand.toPath fun _ => bits))
                  else return status
              else
                let made ← match given.has 'D', given.value? 't', given.operands with
                  | true, some directory, _ :: _ => makeAll none directory
                  | true, none, [_, target] =>
                      if ← isDirectoryAt target then pure 0
                      else makeAll none (directoryName target)
                  | _, _, _ => pure 0
                if made ≠ 0 then return made
                else
                  match ← destination name given with
                  | .error status => return status
                  | .ok destination =>
                      CopyForm.run
                        { isInstall := true
                          removesTarget := true
                          mode? := some (mode.apply false 0 0)
                          backup
                          isVerbose := given.has 'v' }
                        name destination

end CallAtlas.Script.Utility
