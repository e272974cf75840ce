import CallAtlas.Script.Builtin.Table

/-!
The execution of commands. An evaluator runs commands that nest so deep at most; each
level leaves what is inside a command to the level below.
-/

namespace CallAtlas.Script

namespace Evaluator

def assign (evaluator : Evaluator) (exported : Bool) :
    List (String × Word) → Action (List (String × ByteText))
  | [] => return []
  | (name, word) :: rest => do
      let value ← evaluator.assignedText word
      Action.setVariable name value exported
      return (name, value) :: (← assign evaluator exported rest)

def restoreVariables (held : List (String × Option Variable))
    (bindings : List (String × Variable)) : List (String × Variable) :=
  held.foldl (fun (all : List (String × Variable)) (name, before) =>
    match before with
    | some value => setKey name value all
    | none => all.filter (·.1 ≠ name)) bindings

def maxFunctions : Nat := 1000

def callFunction (evaluator : Evaluator) (tested : Bool) (body : Command)
    (arguments : List ByteText) : Action Unit := do
  let before ← get
  if maxFunctions ≤ before.functionDepth then
    Action.fail s!"Maximum function recursion depth ({maxFunctions}) reached"
  set { before with
    arguments
    optionPlace := {}
    loops := 0
    functionDepth := before.functionDepth + 1
    hidden := [] :: before.hidden
    hiddenOptions := none }
  let result ← Action.outcome (evaluator.execute tested body)
  modify fun after =>
    { after with
      bindings := restoreVariables (after.hidden.headD []) after.bindings
      arguments := before.arguments
      optionPlace := before.optionPlace
      loops := before.loops
      functionDepth := before.functionDepth
      hidden := before.hidden
      options := after.hiddenOptions.getD after.options
      hiddenOptions := before.hiddenOptions }
  match result with
  | .error .returned => pure ()
  | other => Action.resume other

def takeOver (inPlace : Bool) (ended : Ended) : Action Unit := do
  -- A program in the place of the shell has ended as the shell has.
  modify fun shell => { shell with process := { shell.process with world := ended.2 } }
  match ended.1 with
  | .signaled signal => if inPlace then throw (.killed signal)
  | .exited _ => pure ()
  settle ended.1

def faultStatus (cause : FileError) : Nat :=
  match cause with
  | .notFound => 127
  | .notADirectory => 127
  | .tooManyLinks => 127
  | .nameTooLong => 127
  | _ => 126

/-- Runs a program that is looked for in some directories. -/
def runProgram (evaluator : Evaluator) (isTail : Bool) (directories name : ByteText)
    (arguments : List ByteText) : Action Unit := do
  -- It takes the place of a shell that ends with it.
  let refused := fun (status : Nat) (cause : FileError) => do
    Action.complain s!"{name.toText}: {startFault cause}"
    Action.setStatus status
  match ← locateProgram directories name with
  | .error cause => refused 127 cause
  | .ok paths => do
      let shell ← get
      let child := shell.successor shell.environment
      match startFirst (evaluator.startFile child · name arguments) .notFound paths with
      | .ok ended => takeOver (isTail && !shell.hasTraps) ended
      | .error cause => refused (faultStatus cause) cause

def replaceShell (evaluator : Evaluator) (name : ByteText) (arguments : List ByteText) :
    Action Unit := do
  let shell ← get
  let directories := (shell.value? "PATH").getD []
  let child := shell.successor shell.environment
  let paths := programPaths directories name
  match startFirst (evaluator.startFile child · name arguments) .notFound paths with
  | .error cause => do
      Action.complain s!"{name.toText}: {startFault cause}"
      Action.setStatus (faultStatus cause)
      throw .exited
  | .ok (status, world) => do
      set { shell with process := { shell.process with world }, traps := [] }
      match status with
      | .exited code => do
          Action.setStatus code
          throw .exited
      | .signaled signal => throw (.killed signal)

def includeFile (evaluator : Evaluator) (name : ByteText) : Action Unit := do
  let shell ← get
  let directories := (shell.value? "PATH").getD []
  let isFile := fun (path : ByteText) => shell.process.files.isFileAt path.toPath
  let path? := if name.contains '/' then some name
    else (candidates directories name).find? isFile
  match path? with
  | none => Action.fail s!"{name.toText}: not found"
  | some path =>
      let content : Except FileError ByteArray :=
        match shell.process.files.read path.toPath with
        | .error .isADirectory => .ok .empty
        | other => other
      match content with
      | .error cause => Action.fail (openFault path false cause)
      | .ok content => do
          let line := shell.line
          let result ← Action.outcome do
            modify fun shell => { shell with command := some path.toText }
            evaluator.runFile (ByteText.ofBytes content)
          modify fun after => { after with line }
          match result with
          | .error .returned => pure ()
          | other => Action.resume other

inductive Meaning where
  | keyword
  | replaced (text : ByteText)
  | special
  | function
  | builtin
  | program (path : ByteText) (isLocated : Bool)
  | unknown

def programMeaning (directories? : Option ByteText) (name : ByteText) : Action Meaning := do
  let shell ← get
  let directories := directories?.getD ((shell.value? "PATH").getD [])
  let held? := if directories?.isNone then shell.located.lookup (String.ofList name) else none
  match held?.bind fun held => (programPaths directories name)[held.place]? with
  | some path => return .program path true
  | none => do
      match ← locateProgram directories name with
      | .error _ => return .unknown
      | .ok paths =>
          let isPresent := fun (path : ByteText) => shell.process.files.pathExists path.toPath
          return (paths.head?.filter isPresent).elim .unknown (.program · false)

def meaning (directories? : Option ByteText) (name : ByteText) : Action Meaning := do
  let shell ← get
  let text := String.ofList name
  if keywords.contains text then return .keyword
  else
    match shell.aliases.lookup text with
    | some replacement => return .replaced replacement
    | none =>
        if Grammar.specialBuiltins.contains text then return .special
        else if (shell.functions.lookup text).isSome then return .function
        else if Builtin.isBuiltin text then return .builtin
        else programMeaning directories? name

def describe (directories? : Option ByteText) (isShort : Bool) (name : ByteText) : Action Unit := do
  let found ← meaning directories? name
  let told := match found with
    | .keyword => " is a shell keyword".toList
    | .replaced text => " is an alias for ".toList ++ text
    | .special => " is a special shell builtin".toList
    | .function => " is a shell function".toList
    | .builtin => " is a shell builtin".toList
    | .program path true => " is a tracked alias for ".toList ++ path
    | .program path false => " is ".toList ++ path
    | .unknown => ": not found".toList
  let brief := match found with
    | .replaced text => "alias ".toList ++ Builtin.shownAlias (String.ofList name) text ++ ['\n']
    | .program path _ => path ++ ['\n']
    | .unknown => []
    | _ => name ++ ['\n']
  Builtin.print (if isShort then brief else name ++ told ++ ['\n'])
  match found with
  | .unknown => Action.setStatus 127
  | _ => pure ()

def describeCommand (arguments : List ByteText) : Action Unit := do
  let given ← Builtin.options ['p', 'v', 'V'] [] arguments
  let directories? := if given.has 'p' then some standardSearchPath.toList else none
  Action.setStatus 0
  match given.operands with
  | [] => pure ()
  | name :: _ =>
      if given.has 'v' || given.has 'V' then describe directories? (!(given.has 'V')) name

def isInternal (shell : Shell) (name : String) : Bool :=
  (shell.functions.lookup name).isSome || Builtin.isBuiltin name

def runBuiltin (evaluator : Evaluator) (tested : Bool) (name : String)
    (arguments : List ByteText) : Action Unit := do
  match name with
  | "eval" => do
      let line := (← get).line
      evaluator.runText tested (ByteText.join [' '] arguments)
      modify fun shell => { shell with line }
  | "exec" => do
      match arguments with
      | [] => Action.setStatus 0
      | command :: rest => evaluator.replaceShell command rest
  | "." => do
      match ← Builtin.operands arguments with
      | [] => Action.setStatus 0
      | file :: _ => evaluator.includeFile file
  | "type" => do
      Action.setStatus 0
      arguments.forM (describe none false)
  | "command" => describeCommand arguments
  | "hash" => Builtin.locate isInternal arguments
  | _ =>
      match Builtin.plain.lookup name with
      | some builtin => builtin arguments
      | none => Action.setStatus 127

def namedBuiltin (evaluator : Evaluator) (tested : Bool) (name : String)
    (arguments : List ByteText) : Action Unit :=
  Builtin.run name (evaluator.runBuiltin tested name arguments)

def tolerant (body : Action Unit) : Action Unit := do
  match ← Action.outcome body with
  | .error .failed => pure ()
  | other => Action.resume other

structure Invocation where
  words : List ByteText
  isDirect : Bool := false
  isStandard : Bool := false

/-- The command behind the options of a word that runs it, with whether they ask for a utility of
the machine; none if the options ask for something else. -/
def commandOperands : Bool → List ByteText → Option (Bool × List ByteText)
  | _, [] => none
  | isStandard, first :: rest =>
      match first with
      | ['-', '-'] => if rest.isEmpty then none else some (isStandard, rest)
      | '-' :: c :: letters =>
          if (c :: letters).all (· = 'p') then commandOperands true rest else none
      | _ => some (isStandard, first :: rest)

/-- Passes over words that only run another command; the bound is on their number. -/
def Invocation.unwrap (shell : Shell) : Nat → Invocation → Invocation
  | 0, invocation => invocation
  | bound + 1, invocation =>
      match invocation.words with
      | [] => invocation
      | name :: rest =>
          let isCommand := name = "command".toList &&
            (invocation.isDirect || (shell.functions.lookup "command").isNone)
          match if isCommand then commandOperands false rest else none with
          | some (isStandard, words) =>
              unwrap shell bound
                { words, isDirect := true, isStandard := invocation.isStandard || isStandard }
          | none => invocation

def Invocation.ofWords (shell : Shell) (words : List ByteText) : Invocation :=
  Invocation.unwrap shell words.length { words }

def runCommand (evaluator : Evaluator) (tested isTail isStandard : Bool) (name : ByteText)
    (arguments : List ByteText) : Action Unit := do
  let text := String.ofList name
  if Builtin.isBuiltin text then tolerant (evaluator.namedBuiltin tested text arguments)
  else
    let usual := ((← get).value? "PATH").getD []
    let directories := if isStandard then standardSearchPath.toList else usual
    evaluator.runProgram isTail directories name arguments

def declares (shell : Shell) (words : List ByteText) : Bool :=
  match (Invocation.ofWords shell words).words with
  | [] => false
  | name :: _ => ["alias", "export", "readonly", "local"].contains (String.ofList name)

def expandWords (evaluator : Evaluator) : List Word → Action (List ByteText)
  | [] => return []
  | word :: rest => do
      let fields ← evaluator.fields word
      return fields ++ (← expandWords evaluator rest)

/-- Expands the words of a command behind those that are expanded, of which the last is first;
assignments behind a command that declares are not split. -/
def expandCommand (evaluator : Evaluator) : List ByteText → List Word → Action (List ByteText)
  | done, [] => return done.reverse
  | done, word :: rest => do
      let fields ← match word.assignment? with
        | some (name, value) => do
            if declares (← get) done.reverse then
              pure [name.toList ++ '=' :: (← evaluator.assignedText value)]
            else evaluator.fields word
        | none => evaluator.fields word
      expandCommand evaluator (fields.reverse ++ done) rest

def traceMark (evaluator : Evaluator) : Action ByteText := do
  let before ← get
  let mark := (before.value? "PS4").getD []
  match readTemplate mark with
  | .error _ => return mark
  | .ok word => do
      let text ← evaluator.text word
      modify fun shell => { shell with status := before.status, substituted := before.substituted }
      return text

/-- Shows a command before it is run, if that is asked for, where messages went before it was
redirected. -/
def trace (evaluator : Evaluator) (before : List (Nat × Nat))
    (assignments : List (String × ByteText)) (words : List ByteText) : Action Unit := do
  if (← get).hasOption 'x' then
    let shown := assignments.map (fun (name, value) => name.toList ++ '=' :: value) ++ words
    let text := (← evaluator.traceMark) ++ ByteText.join [' '] shown ++ ['\n']
    let descriptors := (← get).process.descriptors
    let errors := ((before.lookup 2).toList ++ (descriptors.lookup 2).toList).take 1
    modify fun shell =>
      { shell with process := { shell.process with descriptors := errors.map (2, ·) } }
    discard (Action.ofTask (Task.write 2 text))
    modify fun shell => { shell with process := { shell.process with descriptors } }

def giveBack (held : List (String × Option Variable)) : Action Unit :=
  modify fun shell =>
    { shell with
      bindings := restoreVariables held shell.bindings
      located := if (held.lookup "PATH").isSome then [] else shell.located }

/-- Runs what the words of a command came to, with its assignments. -/
def dispatch (evaluator : Evaluator) (tested isTail : Bool) (before : List (Nat × Nat))
    (assignments : List (String × Word)) (words : List ByteText) : Action Unit := do
  -- They stay if no command or a special one is run. The descriptors are those from before its
  -- redirections.
  let invocation := Invocation.ofWords (← get) words
  match invocation.words with
  | [] => do
      evaluator.trace before (← evaluator.assign false assignments) []
      Action.setStatus (← get).substituted
  | name :: arguments => do
      let text := String.ofList name
      if !invocation.isDirect && Grammar.specialBuiltins.contains text then
        evaluator.trace before (← evaluator.assign false assignments) words
        evaluator.namedBuiltin tested text arguments
      else
        let shell ← get
        let held := assignments.map fun (name, _) => (name, shell.bindings.lookup name)
        let function? := if invocation.isDirect then none else shell.functions.lookup text
        let result ← Action.outcome do
          evaluator.trace before (← evaluator.assign function?.isNone assignments) words
          match function? with
          | some body => evaluator.callFunction tested body arguments
          | none => evaluator.runCommand tested isTail invocation.isStandard name arguments
        giveBack held
        Action.resume result

def checkStatus (tested : Bool) : Action Unit := do
  let shell ← get
  if shell.hasOption 'e' && !tested && shell.status ≠ 0 then throw .exited

def runSimple (evaluator : Evaluator) (tested isTail : Bool) (line : Nat)
    (assignments : List (String × Word)) (words : List Word) (redirections : List Redirection) :
    Action Unit := do
  modify fun shell => { shell with line, substituted := 0 }
  let words ← evaluator.expandCommand [] words
  let invocation := Invocation.ofWords (← get) words
  let reroutings ← redirections.mapM evaluator.reroute
  let saved ← save
  match ← Action.outcome (reroutings.forM evaluator.redirect) with
  | .error stop => do
      restore saved reroutings
      let isSpecial := !invocation.isDirect && words.head?.any fun name =>
        Grammar.specialBuiltins.contains (String.ofList name)
      match stop with
      | .failed => if isSpecial then throw .failed
      | other => throw other
  | .ok () => do
      let result ← Action.outcome
        (evaluator.dispatch tested isTail saved.descriptors assignments words)
      let keeps := invocation.words.head? = some "exec".toList
      unless keeps do restore saved reroutings
      Action.resume result

def locateStage : Command → Action Unit
  | .simple _ _ ([.literal name false] :: _) _ => do
      let shell ← get
      if isName name && !isInternal shell (String.ofList name) then
        discard (locateProgram ((shell.value? "PATH").getD []) name)
  | _ => pure ()

def runStages (evaluator : Evaluator) (tested : Bool) : Option Nat → List Command → Action Unit
  | _, [] => pure ()
  | input, stage :: rest => do
      locateStage stage
      let output ← if rest.isEmpty then pure none
        else do
          let shell ← get
          let (world, source, sink) := shell.process.world.openPipe []
          set { shell with process := { shell.process with world } }
          pure (some (source, sink))
      let status ← evaluator.subshell do
        match input with
        | some number => connect 0 number
        | none => pure ()
        match output with
        | some (_, sink) => connect 1 sink
        | none => pure ()
        evaluator.execute tested stage
      if rest.isEmpty then settle status
      else
        Signal.announce status
        runStages evaluator tested (output.map (·.1)) rest

def turnEnded (result : Except Stop Unit) : Action Bool := do
  match result with
  | .ok () => return true
  | .error (.broken levels) => if 1 < levels then throw (.broken (levels - 1)) else return false
  | .error (.continued levels) =>
      if 1 < levels then throw (.continued (levels - 1)) else return true
  | .error other => throw other

def inLoop (body : Action Unit) : Action Unit := do
  modify fun shell => { shell with loops := shell.loops + 1 }
  let result ← Action.outcome body
  modify fun shell => { shell with loops := shell.loops - 1 }
  Action.resume result

/-- The turns of a loop, so many at most; `status` is what the last turn came to. -/
def turns (evaluator : Evaluator) (tested negated : Bool) (condition body : Command) :
    Nat → Nat → Action Unit
  | 0, status => Action.setStatus status
  | bound + 1, status => do
      match ← Action.outcome (evaluator.execute true condition) with
      | .error stop => do
          if ← turnEnded (.error stop) then
            turns evaluator tested negated condition body bound status
          else Action.setStatus 0
      | .ok () => do
          let holds := (← get).status = 0
          if holds == negated then Action.setStatus status
          else
            let result ← Action.outcome (evaluator.execute tested body)
            let status := (← get).status
            if ← turnEnded result then
              turns evaluator tested negated condition body bound status
            else Action.setStatus status

def maxTurns : Nat := 1000000000

def turnsOver (evaluator : Evaluator) (tested : Bool) (name : String) (body : Command) :
    List ByteText → Action Unit
  | [] => pure ()
  | value :: rest => do
      Action.setVariable name value false
      let result ← Action.outcome (evaluator.execute tested body)
      if ← turnEnded result then turnsOver evaluator tested name body rest

def anyPattern (evaluator : Evaluator) (text : ByteText) : List Word → Action Bool
  | [] => return false
  | pattern :: rest => do
      if Pattern.accepts (← evaluator.pattern pattern) text then return true
      else anyPattern evaluator text rest

def executeAs (evaluator : Evaluator) (tested isTail : Bool) (command : Command) : Action Unit := do
  modify fun shell => { shell with isTail }
  evaluator.execute tested command

def runCases (evaluator : Evaluator) (tested isTail : Bool) (text : ByteText) :
    List (List Word × Command) → Action Unit
  | [] => Action.setStatus 0
  | (patterns, body) :: rest => do
      if ← evaluator.anyPattern text patterns then
        match body with
        | .nothing => Action.setStatus 0
        | body => evaluator.executeAs tested isTail body
      else runCases evaluator tested isTail text rest

/-- Runs a command in the background; it is done before the next one starts. -/
def runBackground (evaluator : Evaluator) (body : Command) : Action Unit := do
  let number := (← get).process.world.nextProcess
  let status ← evaluator.subshell do
    connectNew 0 { target := .device .null, isReadable := true }
    evaluator.execute false body
  modify fun shell => { shell with jobs := (number, status) :: shell.jobs, status := 0 }

/-- Runs a command. -/
def runPresent (evaluator : Evaluator) (tested isTail : Bool) : Command → Action Unit
  -- Whether another command asks how it ended is told, and whether the shell ends with it.
  | .nothing => pure ()
  | .simple line assignments words redirections => do
      evaluator.runSimple tested isTail line assignments words redirections
      evaluator.receive
      checkStatus tested
  | .sequence first second => do
      evaluator.execute tested first
      evaluator.executeAs tested isTail second
  | .both first second => do
      evaluator.execute true first
      if (← get).status = 0 then evaluator.executeAs tested isTail second
  | .either first second => do
      evaluator.execute true first
      if (← get).status ≠ 0 then evaluator.executeAs tested isTail second
  | .negation body => do
      evaluator.execute true body
      Action.setStatus (if (← get).status = 0 then 1 else 0)
  | .pipeline stages => do
      evaluator.runStages tested none stages
      evaluator.receive
      checkStatus tested
  | .background body => evaluator.runBackground body
  | .subshell line body redirections => do
      modify fun shell => { shell with line }
      let reroutings ← redirections.mapM evaluator.reroute
      let status ← evaluator.subshell do
        reroutings.forM evaluator.redirect
        evaluator.execute tested body
      settle status
      evaluator.receive
      checkStatus tested
  | .redirected line body redirections => do
      modify fun shell => { shell with line }
      let reroutings ← redirections.mapM evaluator.reroute
      let saved ← save
      match ← Action.outcome (reroutings.forM evaluator.redirect) with
      | .error .failed => do
          restore saved reroutings
          checkStatus tested
      | .error other => do
          restore saved reroutings
          throw other
      | .ok () => do
          let result ← Action.outcome (evaluator.execute tested body)
          restore saved reroutings
          Action.resume result
  | .conditional condition consequence alternative => do
      evaluator.execute true condition
      if (← get).status = 0 then evaluator.executeAs tested isTail consequence
      else
        match alternative with
        | .nothing => Action.setStatus 0
        | body => evaluator.executeAs tested isTail body
  | .loop negated condition body =>
      inLoop (evaluator.turns tested negated condition body maxTurns 0)
  | .forEach line name words body => do
      modify fun shell => { shell with line }
      let values ← match words with
        | some words => evaluator.expandWords words
        | none => do pure (← get).arguments
      Action.setStatus 0
      inLoop (evaluator.turnsOver tested name body values)
  | .choice line subject cases => do
      modify fun shell => { shell with line }
      let text ← evaluator.text subject
      evaluator.runCases tested isTail text cases
  | .function name body => do
      modify fun shell => { shell with functions := setKey name body shell.functions }
      Action.setStatus 0

def runNode (evaluator : Evaluator) (tested : Bool) (command : Command) : Action Unit := do
  let isTail := (← get).isTail
  modify fun shell => { shell with isTail := false }
  unless (← get).hasOption 'n' do evaluator.runPresent tested isTail command

def ofDepth : Nat → Evaluator
  | 0 => { atoms := fun _ _ => return [], execute := fun _ _ => throw .exited }
  | depth + 1 =>
      { atoms := fun role word shell => (ofDepth depth).wordAtoms role word shell
        execute := fun tested command shell => (ofDepth depth).runNode tested command shell }

def maxDepth : Nat := 1000000

end Evaluator

end CallAtlas.Script
