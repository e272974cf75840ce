import CallAtlas.Script.Utility.Backups
import CallAtlas.Script.Utility.Modes

/-!
Copying and moving files and trees of them.
-/

namespace CallAtlas.Script.Utility

inductive Dereference where
  | never
  | operands
  | always
  deriving DecidableEq

inductive Overwriting where
  | allowed
  | asked
  | skipped
  deriving DecidableEq

inductive CopyProduct where
  | content
  | hardLink
  | symbolicLink
  deriving DecidableEq

structure CopyForm where
  isMove : Bool := false
  isInstall : Bool := false
  isRecursive : Bool := false
  dereference : Dereference := .always
  overwriting : Overwriting := .allowed
  forces : Bool := false
  removesTarget : Bool := false
  keepsModes : Bool := false
  renewsModes : Bool := false
  keepsNames : Bool := false
  asFile : Bool := true
  product : CopyProduct := .content
  updates : Bool := false
  mode? : Option Nat := none
  backup : BackupForm := {}
  isVerbose : Bool := false
  keepsParents : Bool := false

structure CopyState where
  sources : List Known := []
  targets : List FileTree.Location := []
  places : List (Nat × ByteText) := []
  made : Option FileTree.Location := none

abbrev Copying := ExceptT Bool (StateT CopyState Task)

namespace Copying

def fail {α : Type} (name complaint : String) : Copying α := do
  tell s!"{name}: {complaint}"
  throw false

def failWith {α : Type} (name complaint : String) (cause : FileError) : Copying α :=
  fail name s!"{complaint}: {cause.reason}"

def note (said : String) : Copying Unit :=
  Task.print (ByteText.ofString (said ++ "\n"))

def require (name complaint : String) (change : FileSystem → Except FileError FileSystem) :
    Copying Unit := do
  match ← Task.attempt change with
  | none => pure ()
  | some cause => failWith name complaint cause

def result (body : Copying Unit) : Copying Bool := fun state => do
  let (ended, after) ← body.run state
  match ended with
  | .ok () => return (.ok true, after)
  | .error done => return (.ok done, after)

end Copying

namespace CopyForm

/-- Whether two names of one file may be source and target, with whether nothing is left to do
then. -/
def acceptsSame (form : CopyForm) (source target sourceName targetName : Known) (names : Nat) :
    Bool × Bool :=
  let same := source.isSame target
  let sameName := sourceName.location = targetName.location
  let sourceLink := if form.dereference = .never then source else sourceName
  let targetLink := if form.dereference = .never then target else targetName
  let sameLink := sourceLink.isSame targetLink
  let bothLinks := sourceLink.object.isLink && targetLink.object.isLink
  if same && form.product = .hardLink then (true, true)
  else if form.dereference = .never && bothLinks then
    if !sameName && form.backup.kind ≠ .none then (true, false)
    else if !sameName && sameLink then (!form.isMove, true)
    else (!sameName, false)
  else if form.dereference ≠ .never && !same then (true, false)
  else if form.dereference ≠ .never && bothLinks && form.removesTarget then (true, false)
  else if form.backup.kind ≠ .none then
    if !sameLink then
      (form.isMove || form.dereference = .never || !sourceLink.object.isLink ||
        targetLink.object.isLink, false)
    else (!sameName, false)
  else if (form.isMove || form.removesTarget) && targetLink.object.isLink then (true, false)
  else if (form.isMove || form.removesTarget) && sameLink && 1 < names && !sameName then
    (!form.isMove, false)
  else if !sourceLink.object.isLink && !targetLink.object.isLink && !sameLink then (true, false)
  else if form.product = .symbolicLink && targetLink.object.isLink then (true, false)
  else if form.dereference = .never && !same then (true, false)
  else (false, false)

def tellPair (form : CopyForm) (verb : String) (source target : ByteText)
    (backup : Option ByteText) : Copying Unit := do
  if form.isVerbose then
    let kept := match backup with
      | some backup => s!" (backup: {quote backup})"
      | none => ""
    Copying.note s!"{verb}{quote source} -> {quote target}{kept}"

def modeFor (form : CopyForm) (source : FileTree) : Nat :=
  (form.mode?.getD source.attributes.mode) &&& 0o777

def openTarget (form : CopyForm) (name : String) (target : ByteText) (object : FileTree)
    (isNew : Bool) : Copying (Except FileError OpenFile) := do
  let creating : OpenForm :=
    { writes := true, creates := true, isExclusive := true, mode := form.modeFor object }
  if isNew then Task.openPath creating target
  else
    match ← Task.openPath { writes := true, empties := true } target with
    | .ok file => return .ok file
    | .error .notFound => Task.openPath creating target
    | .error cause =>
        if form.forces then
          Copying.require name s!"cannot remove {quote target}" (·.unlink target.toPath)
          if form.isVerbose then Copying.note s!"removed {quote target}"
          Task.openPath creating target
        else return .error cause

def finalMode? (form : CopyForm) (object : FileTree) (isNew : Bool) (mask : Nat) : Option Nat :=
  if form.keepsModes then some object.attributes.mode
  else if form.mode?.isSome then form.mode?
  else if form.renewsModes && isNew then some (without 0o666 mask)
  else none

def copyContent (form : CopyForm) (name : String) (source target : ByteText) (object : FileTree)
    (isNew : Bool) : Copying Unit := do
  match ← Task.readPath source with
  | .error cause => Copying.failWith name s!"cannot open {quote source} for reading" cause
  | .ok content =>
      match ← form.openTarget name target object isNew with
      | .error .alreadyExists =>
          Copying.fail name s!"not writing through dangling symlink {quote target}"
      | .error cause =>
          let cause := if cause = .isADirectory && target.getLast? = some '/' then .notADirectory
            else cause
          Copying.failWith name s!"cannot create regular file {quote target}" cause
      | .ok file => do
          match ← Task.writeOpen file content with
          | some cause => Copying.failWith name s!"error writing {quote target}" cause
          | none => pure ()
          let process ← (get : Task Process)
          match form.finalMode? object isNew process.mask with
          | none => pure ()
          | some mode => discard (Task.attempt (·.changeMode target.toPath fun _ => mode))

def clearForLink (form : CopyForm) (target : ByteText) : Copying Unit := do
  if (form.forces || form.overwriting = .asked) && (← known? false target).isOk then
    discard (Task.attempt (·.unlink target.toPath))

def linkFile (form : CopyForm) (name : String) (source target : ByteText) : Copying Unit := do
  if form.product = .symbolicLink then
    if source.head? ≠ some '/' && directoryName target ≠ ['.'] then
      Copying.fail name
        s!"{bare target}: can make relative symbolic links only in current directory"
    form.clearForLink target
    Copying.require name s!"cannot create symbolic link {quote target} to {quote source}"
      (·.symbolicLink source.toText target.toPath)
  else
    form.clearForLink target
    let number ← Task.takeNumber
    let path := match ← known? (form.dereference = .always) source with
      | .ok known => ByteText.toPath (pathOf known.location)
      | .error _ => source.toPath
    Copying.require name s!"cannot create hard link {quote target} to {quote source}"
      (·.hardLink number path target.toPath)

def approve (form : CopyForm) (name : String) (isArgument : Bool) (source : ByteText)
    (origin : Known) : Copying Unit := do
  let isDirectory := origin.object.isDirectory
  if isDirectory && !form.isRecursive && !form.isMove then
    let hint := if form.isInstall then "" else "-r not specified; "
    Copying.fail name s!"{hint}omitting directory {quote source}"
  if isArgument then
    let isSeen := (← get).sources.any fun seen => seen.location = origin.location
    if !isDirectory && form.backup.kind = .none && isSeen && !form.isMove then
      tell s!"{name}: warning: source file {quote source} specified more than once"
      throw true
    modify fun state => { state with sources := origin :: state.sources, made := none }

def admitTarget (form : CopyForm) (name : String) (isArgument : Bool) (source target : ByteText)
    (origin present : Known) : Copying Unit := do
  let sourceName := (← known? false source).toOption.getD origin
  let targetName := (← known? false target).toOption.getD present
  let (accepted, isDone) :=
    form.acceptsSame origin present sourceName targetName (← targetName.nameCount)
  if form.overwriting ≠ .skipped && !accepted then
    Copying.fail name s!"{quote source} and {quote target} are the same file"
  if form.updates && !origin.object.isDirectory then throw true
  if form.isMove || !origin.object.isDirectory then
    match form.overwriting with
    | .allowed => pure ()
    | .skipped => throw true
    | .asked => unless ← confirm s!"{name}: overwrite {quote target}? " do throw false
  if isDone then throw true
  let mayMix := form.isMove && form.backup.kind ≠ .none
  if !present.object.isDirectory then
    if origin.object.isDirectory && !mayMix then
      Copying.fail name
        s!"cannot overwrite non-directory {quote target} with directory {quote source}"
    if isArgument && (← get).targets.contains present.location then
      Copying.fail name s!"will not overwrite just-created {quote target} with {quote source}"
  else if !origin.object.isDirectory && !mayMix then
    Copying.fail name s!"cannot overwrite directory {quote target} with non-directory"

structure Cleared where
  isNew : Bool
  backup : Option ByteText := none

def clearTarget (form : CopyForm) (name : String) (target : ByteText) (origin present : Known) :
    Copying Cleared := do
  if form.backup.kind ≠ .none && (form.isMove || !present.object.isDirectory) then
    let backup ← form.backup.backupName target
    Copying.require name s!"cannot backup {quote target}" (·.rename target.toPath backup.toPath)
    return { isNew := true, backup := some backup }
  else if !present.object.isDirectory && !form.isMove &&
      (form.removesTarget || (form.dereference = .never && !origin.object.isRegularFile)) then
    Copying.require name s!"cannot remove {quote target}" (·.unlink target.toPath)
    if form.isVerbose then Copying.note s!"removed {quote target}"
    return { isNew := true }
  else return { isNew := false }

def prepareTarget (form : CopyForm) (name : String) (isArgument : Bool) (source target : ByteText)
    (origin : Known) : Copying Cleared := do
  let object := origin.object
  let isSpecial := !object.isRegularFile &&
    (!form.asFile || object.isDirectory || object.isLink)
  let asLink := isSpecial || form.isMove || form.product ≠ .content ||
    form.backup.kind ≠ .none || form.removesTarget
  match ← known? (!asLink) target with
  | .error .notFound => return { isNew := true }
  | .error cause =>
      if cause = .tooManyLinks && form.forces then return { isNew := false }
      else Copying.failWith name s!"cannot stat {quote target}" cause
  | .ok present => do
      form.admitTarget name isArgument source target origin present
      form.clearTarget name target origin present

def rename (form : CopyForm) (name : String) (source target : ByteText)
    (backup : Option ByteText) : Copying Unit := do
  match ← Task.attempt (·.rename source.toPath target.toPath) with
  | none => form.tellPair "renamed " source target backup
  | some .invalidArgument =>
      Copying.fail name s!"cannot move {quote source} to a subdirectory of itself, {quote target}"
  | some cause =>
      if [FileError.alreadyExists, .isADirectory, .noSpace, .notEmpty].contains cause then
        Copying.failWith name s!"cannot overwrite {quote target}" cause
      else Copying.failWith name s!"cannot move {quote source} to {quote target}" cause

def noteTarget (target : ByteText) : Copying Unit := do
  match ← known? false target with
  | .ok known => modify fun state => { state with targets := known.location :: state.targets }
  | .error _ => pure ()

def copyName (form : CopyForm) (name : String) (target : ByteText) (object : FileTree) :
    Copying Unit := do
  match object.identity? with
  | some identity =>
      if form.keepsNames && form.product = .content && !object.isDirectory then
        match (← get).places.lookup identity with
        | some earlier => do
            let number ← Task.takeNumber
            discard (Task.attempt (·.unlink target.toPath))
            Copying.require name s!"cannot create hard link {quote target} to {quote earlier}"
              (·.hardLink number earlier.toPath target.toPath)
            throw true
        | none => modify fun state => { state with places := (identity, target) :: state.places }
  | none => pure ()

def makeTarget (form : CopyForm) (name : String) (source target : ByteText) : Copying Unit := do
  Copying.require name s!"cannot create directory {quote target}" (·.makeDirectory target.toPath)
  discard (Task.attempt (·.changeMode target.toPath fun _ => 0o700))
  form.tellPair "" source target none
  match ← known? true target with
  | .ok known =>
      modify fun state => { state with made := state.made.orElse fun _ => some known.location }
  | .error _ => pure ()

def settleTarget (form : CopyForm) (target : ByteText) (object : FileTree) (isNew : Bool) :
    Copying Unit := do
  let mask := (← (get : Task Process)).mask
  let mode? := if form.keepsModes then some object.attributes.mode
    else if !isNew then none
    else if form.renewsModes then some (without 0o777 mask)
    else some (without (form.modeFor object) mask)
  match mode? with
  | none => pure ()
  | some mode => discard (Task.attempt (·.changeMode target.toPath fun _ => mode))

def copyDirectory (form : CopyForm) (name : String) (operand operandTarget : ByteText)
    (copyEntry : ByteText → ByteText → Copying Bool) (source target : ByteText) (origin : Known)
    (isNew : Bool) : Copying Unit := do
  -- The names of the operand and its target are for complaints.
  if (← get).made = some origin.location then
    Copying.fail name
      s!"cannot copy a directory, {quote operand}, into itself, {quote operandTarget}"
  if isNew then form.makeTarget name source target
  let done ← match (← Task.files).list source.toPath with
    | .error cause => do
        tell s!"{name}: cannot access {quote source}: {cause.reason}"
        pure false
    | .ok entries =>
        entries.foldlM (fun done entry => do
          let entryName := ByteText.ofString entry.1
          let ok ← copyEntry (inDirectory source entryName) (inDirectory target entryName)
          return done && ok) true
  form.settleTarget target origin.object isNew
  unless done do throw false

def copy (form : CopyForm) (name : String) (operand operandTarget : ByteText) :
    Nat → Bool → ByteText → ByteText → Copying Bool
  -- Directories nest so deep at most.
  | 0, _, source, _ => Copying.result
      (Copying.fail name s!"cannot copy cyclic symbolic link {quote source}")
  | bound + 1, isArgument, source, target => Copying.result do
      let follows := form.dereference = .always || (form.dereference = .operands && isArgument)
      match ← known? follows source with
      | .error cause => Copying.failWith name s!"cannot stat {quote source}" cause
      | .ok origin =>
          let object := origin.object
          form.approve name isArgument source origin
          let cleared ← form.prepareTarget name isArgument source target origin
          if form.isMove then form.rename name source target cleared.backup
          else
            unless object.isDirectory do form.tellPair "" source target cleared.backup
            form.copyName name target object
            if object.isDirectory then
              let copyEntry := fun (source target : ByteText) =>
                copy form name operand operandTarget bound false source target
              form.copyDirectory name operand operandTarget copyEntry source target origin
                cleared.isNew
            else if form.product ≠ .content then form.linkFile name source target
            else
              match object with
              | .link aim =>
                  Copying.require name s!"cannot create symbolic link {quote target}"
                    (·.symbolicLink aim target.toPath)
              | .device _ =>
                  if form.asFile then form.copyContent name source target object cleared.isNew
                  else
                    Copying.failWith name s!"cannot create special file {quote target}" .notPermitted
              | _ => form.copyContent name source target object cleared.isNew
          if isArgument && !object.isDirectory then noteTarget target

end CopyForm

def maxTreeDepth : Nat := 1000

inductive Destination where
  | into (directory : ByteText) (sources : List ByteText)
  | onto (target source : ByteText)

def Destination.isName : Destination → Bool
  | onto .. => true
  | into .. => false

def directoryFault (path : ByteText) : Task (Option FileError) := do
  match ← known? true path with
  | .error cause => return some cause
  | .ok known => return if known.object.isDirectory then none else some .notADirectory

def stripLetter : Char := Char.ofNat 0x1117

def strippedOperands (given : Given) : Given :=
  if given.has stripLetter then { given with operands := given.operands.map withoutSlashes }
  else given

def targetsFault? (given : Given) (letter : Char) (_ : ByteText) : Option ValueFault :=
  if letter = 't' && given.has 't' then
    some { complaint := "multiple target directories specified" }
  else none

def destination (name : String) (given : Given) : Task (Except Nat Destination) := do
  -- A complaint tells whether the call itself is wrong.
  let wrong := fun (complaint : String) => do
    let status ← misuse 1 name complaint
    return Except.error status
  let failed := fun (complaint : String) => do
    let status ← giveUp 1 s!"{name}: {complaint}"
    return Except.error status
  let stripped := strippedOperands given
  match given.value? 't', stripped.operands with
  | none, [] => wrong "missing file operand"
  | some _, [] => wrong "missing file operand"
  | none, [_] =>
      let only := given.operands.headD []
      wrong s!"missing destination file operand after {quote only}"
  | some directory, sources =>
      if given.has 'T' then
        failed "cannot combine --target-directory (-t) and --no-target-directory (-T)"
      else
        match ← directoryFault directory with
        | some cause => failed s!"target directory {quote directory}: {cause.reason}"
        | none => return .ok (.into directory sources)
  | none, first :: second :: rest =>
      if given.has 'T' then
        match rest with
        | [] => return .ok (.onto second first)
        | extra :: _ => wrong s!"extra operand {quote extra}"
      else
        let last := (second :: rest).getLast?.getD second
        match ← directoryFault last with
        | none => return .ok (.into last (first :: second :: rest).dropLast)
        | some cause =>
            if rest.isEmpty then return .ok (.onto second first)
            else failed s!"target {quote last}: {cause.reason}"

def CopyForm.makeParents (form : CopyForm) (name : String) (directory : ByteText) :
    List ByteText → Task Bool
  | [] => return true
  | parent :: rest => do
      let target := inDirectory directory parent
      match ← known? true parent, (← known? true target).toOption with
      | .error cause, _ => do
          tell s!"{name}: failed to get attributes of {quote parent}: {cause.reason}"
          return false
      | .ok _, some present =>
          if present.object.isDirectory then makeParents form name directory rest
          else
            tell s!"{name}: {quote target} exists but is not a directory"
            return false
      | .ok known, none => do
          match ← Task.attempt (·.makeDirectory target.toPath) with
          | some cause => do
              tell s!"{name}: cannot make directory {quote target}: {cause.reason}"
              return false
          | none => do
              let mode := known.object.attributes.mode
              discard (Task.attempt (·.changeMode target.toPath fun _ => mode))
              if form.isVerbose then
                Task.print (parent ++ " -> ".toList ++ target ++ ['\n'])
              makeParents form name directory rest

def CopyForm.run (form : CopyForm) (name : String) (destination : Destination) :
    Task Nat := do
  let pairs := match destination with
    | .onto target source => [(source, target)]
    | .into directory sources => sources.map fun source =>
        let base := baseName source
        let own := if form.keepsParents then withoutSlashes source
          else if base = ['.', '.'] then ['.']
          else base
        (source, inDirectory directory own)
  let steps : Copying Bool := pairs.foldlM (fun done (source, target) => do
    let isReady ← match form.keepsParents, destination with
      | true, .into directory _ =>
          if source.contains '/' then
            (form.makeParents name directory (pathsTo (directoryName source)) : Task Bool)
          else pure true
      | _, _ => pure true
    let ok ← if isReady then form.copy name source target maxTreeDepth true source target
      else pure false
    return done && ok) true
  match (← steps.run.run {}).1 with
  | .ok true => return 0
  | _ => return 1

def removeLetter : Char := Char.ofNat 0x1110

def keepLetter : Char := Char.ofNat 0x1111

def renewLetter : Char := Char.ofNat 0x1112

def parentsLetter : Char := Char.ofNat 0x1113

def ignoredLetter : Char := Char.ofNat 0x1114

def ignoredValueLetter : Char := Char.ofNat 0x1115

def updateLetter : Char := Char.ofNat 0x1116

def backupClash : String := "options --backup and --no-clobber are mutually exclusive"

def overwritingOf (given : Given) (moves : Bool) : Overwriting :=
  match given.last? (if moves then ['f', 'i', 'n'] else ['i', 'n']) with
  | some 'i' => .asked
  | some 'n' => .skipped
  | _ => .allowed

def copy : Program :=
  withOptions
    { flags := "abdfHilLnpPrRsTuvxZ".toList ++ [removeLetter, parentsLetter, ignoredLetter, stripLetter]
      valued := ['S', 't', ignoredValueLetter, renewLetter]
      optional := [BackupForm.letter, keepLetter, updateLetter]
      long := [("archive", 'a'), ("attributes-only", ignoredLetter), ("backup", BackupForm.letter),
        ("copy-contents", ignoredLetter), ("debug", ignoredLetter), ("dereference", 'L'),
        ("force", 'f'), ("interactive", 'i'), ("link", 'l'), ("no-clobber", 'n'),
        ("no-dereference", 'P'), ("no-preserve", renewLetter), ("no-target-directory", 'T'),
        ("one-file-system", 'x'), ("parents", parentsLetter), ("path", parentsLetter),
        ("preserve", keepLetter), ("recursive", 'R'), ("reflink", updateLetter),
        ("remove-destination", removeLetter), ("sparse", ignoredValueLetter),
        ("strip-trailing-slashes", stripLetter), ("suffix", 'S'), ("symbolic-link", 's'),
        ("target-directory", 't'), ("update", 'u'), ("verbose", 'v')]
      check := targetsFault? }
    1 fun name given => do
      let recursive := given.has 'r' || given.has 'R' || given.has 'a'
      let dereference := match given.last? ['a', 'd', 'H', 'L', 'P'] with
        | some 'H' => .operands
        | some 'L' => .always
        | some _ => .never
        | none => if recursive && !given.has 'l' then .never else .always
      let kept := (given.value? keepLetter).map (ByteText.split ',')
      let keeps := fun (word : String) =>
        kept.any fun words => words.contains word.toList || words.contains "all".toList
      withBackups name given fun backup => do
        if given.has 'l' && given.has 's' then
          misuse 1 name "cannot make both hard and symbolic links"
        else if BackupForm.isAsked given && overwritingOf given false = .skipped then
          misuse 1 name backupClash
        else
          match ← destination name given with
          | .error status => return status
          | .ok destination =>
              if given.has parentsLetter && destination.isName then
                misuse 1 name "with --parents, the destination must be a directory"
              else
                CopyForm.run
                  { isRecursive := recursive
                    dereference
                    overwriting := overwritingOf given false
                    forces := given.has 'f'
                    removesTarget := given.has removeLetter
                    keepsModes := given.has 'p' || given.has 'a' || keeps "mode" ||
                      kept = some [[]]
                    renewsModes := (given.values renewLetter).any fun words =>
                      (ByteText.split ',' words).contains "mode".toList
                    keepsNames := given.has 'a' || given.has 'd' || keeps "links"
                    asFile := !recursive
                    product := if given.has 'l' then .hardLink
                      else if given.has 's' then .symbolicLink
                      else .content
                    updates := given.has 'u'
                    backup
                    isVerbose := given.has 'v'
                    keepsParents := given.has parentsLetter }
                  name destination

def move : Program :=
  withOptions
    { flags := "bfinTuvZ".toList ++ [ignoredLetter, stripLetter]
      valued := ['S', 't']
      optional := [BackupForm.letter, updateLetter]
      long := [("backup", BackupForm.letter), ("context", 'Z'), ("debug", ignoredLetter),
        ("force", 'f'), ("interactive", 'i'), ("no-clobber", 'n'), ("no-copy", ignoredLetter),
        ("no-target-directory", 'T'), ("strip-trailing-slashes", stripLetter), ("suffix", 'S'),
        ("target-directory", 't'), ("update", updateLetter), ("verbose", 'v')]
      check := targetsFault? }
    1 fun name given => do
      match ← destination name given with
      | .error status => return status
      | .ok destination =>
          if BackupForm.isAsked given && overwritingOf given true = .skipped then
            misuse 1 name backupClash
          else
            withBackups name given fun backup => do
              CopyForm.run
                { isMove := true
                  dereference := .never
                  overwriting := overwritingOf given true
                  updates := given.has 'u' || given.has updateLetter
                  backup
                  isVerbose := given.has 'v' }
                name destination

end CallAtlas.Script.Utility
