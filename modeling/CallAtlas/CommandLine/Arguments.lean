import CallAtlas.Settings.Basic

/-!
The arguments of the command line. Options take their value from the next argument
or behind an equals sign, and all but one may occur once only; `--remove` takes as
many values as follow. Behind `--` every argument is a path.
-/

namespace CallAtlas

/-- What a run is asked to do. -/
structure Arguments where
  paths : List Path := []
  json : Bool := false
  dot : Bool := false
  outDir : Option String := none
  noRender : Bool := false
  format : Option String := none
  remove : List String := []
  config : Option Path := none
  deadCode : Option DeadCodePolicy := none
  rejectDuplicates : Bool := false

inductive Request where
  | run (arguments : Arguments)
  | version
  | help

namespace Arguments

inductive Valued where
  | outDir
  | format
  | remove
  | config
  | deadCode
  deriving DecidableEq, Repr

inductive Flag where
  | json
  | dot
  | noRender
  | rejectDuplicates
  deriving DecidableEq, Repr

inductive LongOption where
  | flag (which : Flag)
  | valued (which : Valued)
  | version
  | help

def longOptions : List (String × LongOption) :=
  [("json", .flag .json), ("dot", .flag .dot), ("out-dir", .valued .outDir),
    ("no-render", .flag .noRender), ("format", .valued .format), ("remove", .valued .remove),
    ("config", .valued .config), ("dead-code", .valued .deadCode),
    ("reject-duplicates", .flag .rejectDuplicates), ("version", .version), ("help", .help)]

def formats : List String := ["png", "svg", "pdf"]

def setFlag (arguments : Arguments) : Flag → Option Arguments
  | .json => if arguments.json then none else some { arguments with json := true }
  | .dot => if arguments.dot then none else some { arguments with dot := true }
  | .noRender => if arguments.noRender then none else some { arguments with noRender := true }
  | .rejectDuplicates =>
      if arguments.rejectDuplicates then none else some { arguments with rejectDuplicates := true }

def path? (text : String) : Option Path :=
  if text.isEmpty then none else some ⟨text⟩

/-- Takes up the values of an option; nothing if they are not allowed. -/
def setValues (arguments : Arguments) : Valued → List String → Option Arguments
  | .outDir, [value] =>
      if arguments.outDir.isSome then none else some { arguments with outDir := some value }
  | .format, [value] =>
      if arguments.format.isSome || !formats.contains value then none
      else some { arguments with format := some value }
  | .remove, value :: rest => some { arguments with remove := arguments.remove ++ value :: rest }
  | .config, [value] => do
      let path ← path? value
      if arguments.config.isSome then none else some { arguments with config := some path }
  | .deadCode, [value] => do
      let policy ← AnalysisSection.deadCodeWords.lookup value
      if arguments.deadCode.isSome then none
      else some { arguments with deadCode := some policy }
  | _, _ => none

inductive Pending where
  | nothing
  | option (which : Valued) (values : List String)
  | paths (values : List String)

/-- Takes up what is open. -/
def settle (arguments : Arguments) : Pending → Option Arguments
  | .nothing => some arguments
  | .option which values => arguments.setValues which values
  | .paths values => do
      return { arguments with paths := arguments.paths ++ (← values.mapM path?) }

def Pending.wantsMore : Pending → Bool
  | .option .remove _ => true
  | .option _ values => values.isEmpty
  | _ => false

def readValue (arguments : Arguments) (pending : Pending) (value : String) :
    Option (Arguments × Pending) :=
  match pending with
  | .option which values =>
      if pending.wantsMore then some (arguments, .option which (values ++ [value]))
      else do return (← arguments.settle pending, .paths [value])
  | .paths values => some (arguments, .paths (values ++ [value]))
  | .nothing => some (arguments, .paths [value])

def splitLong (text : List Char) : String × Option String :=
  let name := String.ofList (text.takeWhile (· ≠ '='))
  match text.dropWhile (· ≠ '=') with
  | [] => (name, none)
  | _ :: value => (name, some (String.ofList value))

def withDefaults (arguments : Arguments) : Arguments :=
  if arguments.paths.isEmpty then { arguments with paths := [⟨"."⟩] } else arguments

/-- Reads arguments from left to right; nothing if they are not allowed. -/
def read (arguments : Arguments) (pending : Pending) : List String → Option Request
  | [] => do return .run (← arguments.settle pending).withDefaults
  | argument :: rest =>
      match argument.toList with
      | ['-', '-'] => do
          let settled ← arguments.settle pending
          return .run (← settled.settle (.paths rest)).withDefaults
      | '-' :: '-' :: long =>
          let (name, attached) := splitLong long
          match longOptions.lookup name, attached with
          | some (.flag which), none => do
              read (← (← arguments.settle pending).setFlag which) .nothing rest
          | some (.valued which), none => do
              read (← arguments.settle pending) (.option which []) rest
          | some (.valued which), some value => do
              read (← (← arguments.settle pending).setValues which [value]) .nothing rest
          | some .version, none => do
              discard (arguments.settle pending)
              return .version
          | some .help, none => do
              discard (arguments.settle pending)
              return .help
          | _, _ => none
      | '-' :: short :: _ => do
          discard (arguments.settle pending)
          if short = 'V' then return .version
          else if short = 'h' then return .help
          else none
      | _ => do
          let (arguments, pending) ← readValue arguments pending argument
          read arguments pending rest

/-- Reads a command line; nothing if it is not allowed. -/
def parse (command : List String) : Option Request :=
  read {} .nothing command

end Arguments

end CallAtlas
