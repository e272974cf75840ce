import CallAtlas.Failure
import CallAtlas.FileSystem.SourceFiles
import CallAtlas.Graph.Analysis
import CallAtlas.Removal.Basic

/-!
Surveys: the analysis of all source files of some inputs under common settings. A
file that fails does not keep the others from being analysed; whether it spoils
the whole run is a matter of its failure, and a parser out of order does.
-/

namespace CallAtlas

def parseSource (parser : Parser) (source : List Char) : Except Failure SyntaxTree := do
  let parse ← (parser source).mapError Failure.ofParserFault
  (SyntaxTree.check source parse).mapError Failure.ofSyntaxError

def analyzeSource (parser : Parser) (settings : AnalysisSettings) (source : List Char) :
    Except Failure Analysis := do
  let tree ← parseSource parser source
  (Analysis.ofTree settings tree).mapError Failure.duplicateName

def readSource (files : FileSystem) (path : Path) : Except Failure (List Char) :=
  match files.readText path with
  | .ok text => .ok text.toList
  | .error cause => .error (.io path.text cause.message)

def analyzeFile (parser : Parser) (settings : AnalysisSettings) (files : FileSystem) (path : Path) :
    Except Failure Analysis := do
  analyzeSource parser settings (← readSource files path)

/-- What is analysed and how. Directories with the names in `excluded` are left out, besides those
that always are. -/
structure Survey where
  inputs : List Path
  settings : AnalysisSettings := {}
  excluded : List String := []

structure FileResult where
  path : Path
  result : Except Failure Analysis

structure SurveyRun where
  files : List FileResult

namespace SurveyRun

def succeeded (run : SurveyRun) : List (Path × Analysis) :=
  run.files.filterMap fun file =>
    match file.result with
    | .ok analysis => some (file.path, analysis)
    | .error _ => none

def failed (run : SurveyRun) : List (Path × Failure) :=
  run.files.filterMap fun file =>
    match file.result with
    | .ok _ => none
    | .error failure => some (file.path, failure)

def hasFailures (run : SurveyRun) : Bool :=
  !run.failed.isEmpty

/-- The first failure that spoils the run. -/
def fatal? (run : SurveyRun) : Option (Path × Failure) :=
  run.failed.find? fun (_, failure) => !failure.isRecoverable

def totalFunctions (run : SurveyRun) : Nat :=
  (run.succeeded.map fun (_, analysis) => analysis.catalog.size).foldr (· + ·) 0

end SurveyRun

namespace Survey

def rejectDuplicates (survey : Survey) (enabled : Bool) : Survey :=
  let duplicates := if enabled then DuplicatePolicy.reject else .lastWriterWins
  { survey with settings := { survey.settings with duplicates } }

def withDeadCode (survey : Survey) (deadCode : DeadCodePolicy) : Survey :=
  { survey with settings := { survey.settings with deadCode } }

def withDenylist (survey : Survey) (denylist : Denylist) : Survey :=
  { survey with settings := { survey.settings with denylist } }

def allow (survey : Survey) (names : List String) : Survey :=
  survey.withDenylist (survey.settings.denylist.without names)

def excludeDirectories (survey : Survey) (names : List String) : Survey :=
  { survey with excluded := survey.excluded ++ names }

/-- The files of a survey. -/
def files (survey : Survey) (schedule : Schedule) (system : FileSystem) :
    Except ScanError (List Path) :=
  -- With directories of its own to leave out it goes through its inputs one by one.
  if survey.excluded.isEmpty then SourceFiles.collect schedule system [] survey.inputs
  else do
    let found ← survey.inputs.mapM fun input =>
      if system.isDirectoryAt input then
        SourceFiles.gather schedule system input survey.excluded
      else SourceFiles.collect schedule system [] [input]
    return Path.dedup (Path.sort found.flatten)

def run (survey : Survey) (schedule : Schedule) (parser : Parser) (files : FileSystem) :
    Except ScanError SurveyRun := do
  let paths ← survey.files schedule files
  return ⟨paths.map fun path => ⟨path, analyzeFile parser survey.settings files path⟩⟩

def scanContext (error : ScanError) : List String :=
  "Failed to collect input files" :: error.chain

def prune (survey : Survey) (parser : Parser) (files : FileSystem) (path : Path)
    (names : List String) : Except Failure Pruned := do
  let source ← readSource files path
  let tree ← parseSource parser source
  let analysis ← (Analysis.ofTree survey.settings tree).mapError Failure.duplicateName
  (removeFunctions tree analysis.catalog names).mapError fun fault => .removal fault.message

end Survey

end CallAtlas
