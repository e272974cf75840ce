import CallAtlas.Script.Utility.Backups

/-!
Making links, and following them.
-/

namespace CallAtlas.Script.Utility

structure LinkForm where
  isSymbolic : Bool := false
  isLogical : Bool := false
  isRelative : Bool := false
  removesTarget : Bool := false
  asks : Bool := false
  backup : BackupForm := {}
  isVerbose : Bool := false

def relativeParts (target origin : FileTree.Location) : ByteText :=
  let shared := ((target.zip origin).takeWhile fun (first, second) => first = second).length
  let up := List.replicate (origin.length - shared) "..".toList
  let down := (target.drop shared).map ByteText.ofString
  match up ++ down with
  | [] => ['.']
  | parts => ByteText.join ['/'] parts

def resolved? (files : FileSystem) (path : ByteText) : Option FileTree.Location :=
  match files.find path.toPath true with
  | .ok (.present location _) => some location
  | .ok (.absent location _) => some location
  | .error _ => none

namespace LinkForm

def make (form : LinkForm) (source target : ByteText) : Task (Option FileError) := do
  if form.isSymbolic then Task.attempt (·.symbolicLink source.toText target.toPath)
  else
    let number ← Task.takeNumber
    let aim := (← known? true source).toOption.map fun known => pathOf known.location
    let path := if form.isLogical then aim.getD source else source
    Task.attempt (·.hardLink number path.toPath target.toPath)

def complaint (form : LinkForm) (source target : ByteText) (cause : FileError) : String :=
  if form.isSymbolic then
    if cause ≠ .nameTooLong && !source.isEmpty then
      s!"failed to create symbolic link {quote target}"
    else s!"failed to create symbolic link {quote target} -> {quote source}"
  else if cause = .alreadyExists || cause = .noSpace then
    s!"failed to create hard link {quote target}"
  else s!"failed to create hard link {quote target} => {quote source}"

def clear (form : LinkForm) (name : String) (source target : ByteText) :
    Task (Except Nat (Option ByteText)) := do
  -- The answer tells whether that was possible, with the name of its backup.
  match ← known? false target with
  | .error .notFound => return .ok none
  | .error cause => do
      return .error (← giveUp 1 s!"{name}: failed to access {quote target}: {cause.reason}")
  | .ok present =>
      let origin := (← known? form.isSymbolic source).toOption
      let names ← present.nameCount
      let isSame := origin.any fun known =>
        known.isSame present && (names = 1 || known.location = present.location)
      if present.object.isDirectory then
        return .error (← giveUp 1 s!"{name}: {bare target}: cannot overwrite directory")
      else if isSame && (form.removesTarget || (!form.isSymbolic && form.backup.kind ≠ .none)) then
        return .error (← giveUp 1 s!"{name}: {quote source} and {quote target} are the same file")
      else
        let isGranted ← if form.asks then confirm s!"{name}: replace {quote target}? "
          else pure true
        if !isGranted then return .error 1
        else if form.backup.kind ≠ .none then
          let backup ← form.backup.backupName target
          discard (Task.attempt (·.rename target.toPath backup.toPath))
          return .ok (some backup)
        else return .ok none

def replace (form : LinkForm) (source target : ByteText) : Task (Option FileError) := do
  let present := (← known? false target).isOk
  let before ← Task.files
  if present then
    match ← Task.attempt (·.unlink target.toPath) with
    | some cause => return some cause
    | none => pure ()
  match ← form.make source target with
  | none => return none
  | some cause => do
      Task.setFiles before
      return some cause

def link (form : LinkForm) (name : String) (source target : ByteText) : Task Nat := do
  let told := fun (source : ByteText) (backup : Option ByteText) => do
    if form.isVerbose then
      let kept := match backup with
        | some backup => s!"{quote backup} ~ "
        | none => ""
      let arrow := if form.isSymbolic then "->" else "=>"
      Task.print (ByteText.ofString s!"{kept}{quote target} {arrow} {quote source}\n")
    return 0
  let first ← if form.isRelative then pure (some .alreadyExists) else form.make source target
  match first with
  | none => told source none
  | some cause => do
      let origin ← known? form.isLogical source
      match form.isSymbolic, origin with
      | false, .error cause =>
          giveUp 1 s!"{name}: failed to access {quote source}: {cause.reason}"
      | _, origin => do
          if !form.isSymbolic && origin.toOption.any (·.object.isDirectory) then
            return ← giveUp 1 s!"{name}: {bare source}: hard link not allowed for directory"
          let files ← Task.files
          let source := if form.isRelative then
              match resolved? files source, resolved? files (directoryName target) with
              | some goal, some origin => relativeParts goal origin
              | _, _ => source
            else source
          let forced := form.removesTarget || form.asks || form.backup.kind ≠ .none
          let cleared ← if forced then form.clear name source target else pure (.ok none)
          match cleared with
          | .error status => return status
          | .ok backup => do
              let failed ← if form.isRelative && !forced then form.make source target
                else if forced then form.replace source target
                else pure (some cause)
              match failed with
              | none => told source backup
              | some cause =>
                  giveUp 1 s!"{name}: {form.complaint source target cause}: {cause.reason}"

end LinkForm

def targetFault? (given : Given) : Task (Option String) := do
  match given.values 't' with
  | [] => return none
  | directory :: others => do
      match ← known? true directory with
      | .error cause => return some s!"failed to access {quote directory}: {cause.reason}"
      | .ok known =>
          if !known.object.isDirectory then
            return some s!"target {quote directory} is not a directory"
          else if !others.isEmpty then return some "multiple target directories specified"
          else return none

def linkDirectory (name : String) (given : Given) : Task (Except Nat (Option ByteText)) := do
  -- A complaint ends with a status.
  let failed := fun (complaint : String) => do
    return Except.error (← giveUp 1 s!"{name}: {complaint}")
  let wrong := fun (complaint : String) => do return Except.error (← misuse 1 name complaint)
  let fault := fun (path : ByteText) => do
    match ← known? (!given.has 'n') path with
    | .error cause => return some cause
    | .ok known => return if known.object.isDirectory then none else some FileError.notADirectory
  match ← targetFault? given with
  | some complaint => failed complaint
  | none =>
      if !given.operands.isEmpty && given.has 'r' && !given.has 's' then
        failed "cannot do --relative without --symbolic"
      else
        match given.value? 't', given.operands with
        | _, [] => wrong "missing file operand"
        | some directory, _ =>
            if given.has 'T' then
              failed "cannot combine --target-directory and --no-target-directory"
            else
              match ← fault directory with
              | none => return .ok (some directory)
              | some cause => failed s!"target {quote directory}: {cause.reason}"
        | none, [only] =>
            if given.has 'T' then wrong s!"missing destination file operand after {quote only}"
            else return .ok (some ['.'])
        | none, first :: second :: rest =>
            if given.has 'T' then
              match rest with
              | [] => return .ok none
              | extra :: _ => wrong s!"extra operand {quote extra}"
            else
              let last := (first :: second :: rest).getLast?.getD second
              match ← fault last with
              | none => return .ok (some last)
              | some cause =>
                  if rest.isEmpty then return .ok none
                  else failed s!"target {quote last}: {cause.reason}"

def link : Program :=
  withOptions
    { flags := "bdfFiLnPrsTv".toList
      valued := ['S', 't']
      optional := [BackupForm.letter]
      long := [("backup", BackupForm.letter), ("directory", 'F'), ("no-dereference", 'n'),
        ("no-target-directory", 'T'), ("force", 'f'), ("interactive", 'i'), ("suffix", 'S'),
        ("target-directory", 't'), ("logical", 'L'), ("physical", 'P'), ("relative", 'r'),
        ("symbolic", 's'), ("verbose", 'v')] }
    1 fun name given => do
      match ← linkDirectory name given with
      | .error status => return status
      | .ok directory? =>
          withBackups name given fun backup => do
            let form : LinkForm :=
              { isSymbolic := given.has 's'
                isLogical := given.last? ['L', 'P'] = some 'L'
                isRelative := given.has 'r'
                removesTarget := given.last? ['f', 'i'] = some 'f'
                asks := given.last? ['f', 'i'] = some 'i'
                backup
                isVerbose := given.has 'v' }
            match directory?, given.operands with
            | none, [source, target] => form.link name source target
            | none, _ => return 1
            | some directory, operands =>
                let isLast := (given.value? 't').isNone && 1 < operands.length
                let sources := if isLast then operands.dropLast else operands
                forOperands sources fun source =>
                  form.link name source (inDirectory directory (baseName source))

inductive Existence where
  | all
  | allButLast
  | none
  deriving DecidableEq

/-- The location that a path leads to. -/
def canonical (files : FileSystem) (existence : Existence) (path : ByteText) :
    Except FileError FileTree.Location := do
  -- Names that need not exist stand for themselves.
  if path.isEmpty then throw .notFound
  match files.find path.toPath true with
  | .ok (.present location object) =>
      if path.getLast? = some '/' && !object.isDirectory then throw .notADirectory
      return location
  | .ok (.absent location _) => if existence = .all then throw .notFound else return location
  | .error cause =>
      if existence = .none then
        let pieces := ByteText.split '/' path
        let start := if path.head? = some '/' then [] else files.workingDirectory
        let step := fun (above : FileTree.Location) (piece : ByteText) =>
          match ByteText.toText piece with
          | "" => above
          | "." => above
          | ".." => above.dropLast
          | text =>
              let here : FileSystem := { files with workingDirectory := above }
              match here.find ⟨text⟩ true with
              | .ok (.present location _) => location
              | .ok (.absent location _) => location
              | .error _ => above ++ [text]
        return pieces.foldl step start
      else throw cause

/-- The location that a path spells: names are taken as they stand, and two dots take the name in
front of them away. -/
def spelled (files : FileSystem) (existence : Existence) (path : ByteText) :
    Except FileError FileTree.Location := do
  if path.isEmpty then throw .notFound
  let start := if path.head? = some '/' then [] else files.workingDirectory
  let step := fun (above : FileTree.Location) (piece : ByteText) =>
    match ByteText.toText piece with
    | "" => above
    | "." => above
    | ".." => above.dropLast
    | text => above ++ [text]
  let location := (ByteText.split '/' path).foldl step start
  match files.stat (ByteText.toPath (pathOf location)) with
  | .ok object =>
      if existence ≠ .none && path.getLast? = some '/' && !object.isDirectory then
        throw .notADirectory
  | .error cause =>
      if existence = .all || (existence = .allButLast && cause ≠ .notFound) then throw cause
  return location

def readLink : Program :=
  withOptions
    { flags := "efmnqsvz".toList
      long := [("canonicalize", 'f'), ("canonicalize-existing", 'e'), ("canonicalize-missing", 'm'),
        ("no-newline", 'n'), ("quiet", 'q'), ("silent", 's'), ("verbose", 'v'), ("zero", 'z')] }
    1 fun name given => do
      if given.operands.isEmpty then misuse 1 name "missing operand"
      else
        let several := 1 < given.operands.length
        if given.has 'n' && several then
          tell s!"{name}: ignoring --no-newline with multiple arguments"
        let ending := if given.has 'n' && !several then []
          else if given.has 'z' then ['\x00']
          else ['\n']
        let isVerbose := given.last? ['q', 's', 'v'] = some 'v'
        let failed := fun (operand : ByteText) (cause : FileError) => do
          if isVerbose then tell s!"{name}: {bare operand}: {cause.reason}"
          return 1
        forOperands given.operands fun operand => do
          let files ← Task.files
          match given.last? ['e', 'f', 'm'] with
          | some letter =>
              let existence := if letter = 'e' then .all
                else if letter = 'f' then .allButLast
                else Existence.none
              match canonical files existence operand with
              | .ok location => do
                  Task.print (pathOf location ++ ending)
                  return 0
              | .error cause => failed operand cause
          | none =>
              match files.linkStat operand.toPath with
              | .ok (.link target) => do
                  Task.print (ByteText.ofString target ++ ending)
                  return 0
              | .ok _ => failed operand .invalidArgument
              | .error cause => failed operand cause

def originLetter : Char := Char.ofNat 0x1130

def baseLetter : Char := Char.ofNat 0x1131

/-- The directories that paths are told from: where they start, and what they have to be in. -/
def pathOrigins (given : Given) (leadsTo : ByteText → Except FileError FileTree.Location) :
    Except (ByteText × FileError) (Option FileTree.Location × Option FileTree.Location) := do
  -- The path of one that is not there is given back.
  let place := fun (path : ByteText) => (leadsTo path).mapError fun cause => (path, cause)
  match given.value? originLetter, given.value? baseLetter with
  | none, none => return (none, none)
  | some origin, none => return (some (← place origin), none)
  | none, some base => do
      let location ← place base
      return (some location, some location)
  | some origin, some base => do
      let start ← place origin
      let within ← place base
      return if within.isPrefixOf start then (some start, some within) else (none, some start)

def realPath : Program :=
  withOptions
    { flags := "eEmLPqsz".toList
      valued := [originLetter, baseLetter]
      long := [("canonicalize", 'E'), ("canonicalize-existing", 'e'), ("canonicalize-missing", 'm'),
        ("logical", 'L'), ("physical", 'P'), ("quiet", 'q'), ("strip", 's'), ("no-symlinks", 's'),
        ("zero", 'z'), ("relative-to", originLetter), ("relative-base", baseLetter)] }
    1 fun name given => do
      if given.operands.isEmpty then misuse 1 name "missing operand"
      else
        let ending := if given.has 'z' then ['\x00'] else ['\n']
        let existence := match given.last? ['e', 'E', 'm'] with
          | some 'e' => .all
          | some 'm' => Existence.none
          | _ => .allButLast
        let files ← Task.files
        let leadsTo := fun (path : ByteText) =>
          match given.last? ['L', 'P', 's'] with
          | some 's' => spelled files existence path
          | some 'L' => do canonical files existence (pathOf (← spelled files existence path))
          | _ => canonical files existence path
        let checked := fun (path : ByteText) => do
          let location ← leadsTo path
          if existence = .all && !files.isDirectoryAt (ByteText.toPath (pathOf location)) then
            throw .notADirectory
          return location
        match pathOrigins given checked with
        | .error (path, cause) => giveUp 1 s!"{name}: {bare path}: {cause.reason}"
        | .ok (origin?, within?) =>
            forOperands given.operands fun operand => do
              match leadsTo operand with
              | .ok location => do
                  let isWithin := within?.all fun within => within.isPrefixOf location
                  let shown := match origin? with
                    | some origin =>
                        if isWithin then relativeParts location origin else pathOf location
                    | none => pathOf location
                  Task.print (shown ++ ending)
                  return 0
              | .error cause => do
                  unless given.has 'q' do tell s!"{name}: {bare operand}: {cause.reason}"
                  return 1

end CallAtlas.Script.Utility
