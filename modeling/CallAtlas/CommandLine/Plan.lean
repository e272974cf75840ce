import CallAtlas.CommandLine.Arguments
import CallAtlas.CommandLine.Session
import CallAtlas.Diagram.Dot
import CallAtlas.Report.Basic

/-!
The plan of a run. Settings come from a file and then from the arguments; before
anything is printed the output directory is made and all sources are analysed. Then
the plan says what the reports are and which artifacts every source gets.
-/

namespace CallAtlas

namespace Arguments

/-- The directory whose settings apply: the first path, or the one that holds it. -/
def settingsDirectory (arguments : Arguments) (files : FileSystem) : Path :=
  match arguments.paths.head? with
  | none => ⟨"."⟩
  | some first =>
      if files.isDirectoryAt first then first
      else (first.parent?.filter fun parent => !parent.text.isEmpty).getD ⟨"."⟩

def loadSettings (arguments : Arguments) (files : FileSystem) : Except SettingsError Settings :=
  match arguments.config with
  | some path => Settings.loadFile files path
  | none => do return (← Settings.load files (arguments.settingsDirectory files)).getD {}

def analysisSettings (arguments : Arguments) (settings : Settings) : AnalysisSettings :=
  let base := settings.analysisSettings
  { base with
    deadCode := arguments.deadCode.getD base.deadCode
    duplicates := if arguments.rejectDuplicates then .reject else base.duplicates }

def renderSection (arguments : Arguments) (settings : Settings) : RenderSection :=
  let base := settings.renderSection
  { base with
    enabled := if arguments.noRender then some false else base.enabled
    format := arguments.format.orElse fun _ => base.format }

def wantsJson (arguments : Arguments) (settings : Settings) : Bool :=
  arguments.json || (settings.output.bind (·.format)) = some "json"

def namesToRemove (arguments : Arguments) (settings : Settings) : List String :=
  if arguments.remove.isEmpty then settings.remove.getD [] else arguments.remove

def outputText (arguments : Arguments) (settings : Settings) : String :=
  (arguments.outDir.orElse fun _ => settings.output.bind (·.dir)).getD "."

end Arguments

structure Plan where
  json : Bool
  printDot : Bool
  remove : List String
  render : RenderSection
  directory : Path
  survey : Survey

/-- What a run knows before it prints anything. -/
structure Prepared where
  plan : Plan
  files : FileSystem
  results : SurveyRun

namespace Plan

/-- Everything before the reports; the files come back also when it fails. -/
def prepare (tools : Toolkit) (arguments : Arguments) (files : FileSystem) :
    Except (RunError × FileSystem) Prepared := do
  let settings ← (arguments.loadSettings files).mapError (.settings ·, files)
  let directory ← (OutputDirectory.check (arguments.outputText settings)).mapError
    (.outputPath ·, files)
  let (files, obstacle) := files.createAll directory
  if let some cause := obstacle then throw (.outputDirectory directory cause, files)
  let survey : Survey :=
    { inputs := arguments.paths, settings := arguments.analysisSettings settings }
  let results ← (survey.run tools.schedule tools.parser files).mapError (.scan ·, files)
  let plan : Plan :=
    { json := arguments.wantsJson settings
      printDot := arguments.dot
      remove := arguments.namesToRemove settings
      render := arguments.renderSection settings
      directory
      survey }
  return { plan, files, results }

def reports (plan : Plan) (results : SurveyRun) : String :=
  let succeeded := results.succeeded
  if plan.json then
    match succeeded with
    | [(_, analysis)] => (Report.json analysis).render ++ "\n"
    | several =>
        (Json.array (several.map fun (path, analysis) =>
          .object [("file", .string path.text), ("report", Report.json analysis)])).render ++ "\n"
  else if 1 < results.files.length then
    String.join (succeeded.map fun (path, analysis) =>
      s!"=== {path.text} ===\n" ++ Report.plain analysis ++ "\n")
  else String.join (succeeded.map fun (_, analysis) => Report.plain analysis)

def writeDiagram (plan : Plan) (tools : Toolkit) (input : Path) (analysis : Analysis)
    (session : Session) : Session :=
  let dot := Dot.render (Diagram.ofAnalysis analysis)
  let session := if plan.printDot then session.printLine dot else session
  let dotPath := Artifact.path plan.directory input Artifact.diagramSuffix
  match session.files.writeText dotPath dot with
  | .error cause => session.note s!"[WARN] DOT write failed to {dotPath.text}: {cause.message}"
  | .ok files =>
      let image := Artifact.path plan.directory input (Artifact.imageSuffix plan.render.formatName)
      let (outcome, effects) := plan.render.render tools.host dotPath image files
      let session := session.absorb effects
      match outcome with
      | .rendered output _ => session.note s!"Graph rendered to: {output.text}"
      | other =>
          match other.failure? with
          | some failure =>
              session.note s!"[WARN] {failure.message} (DOT kept at {dotPath.text})"
          | none => session

def fullMessage : Failure → String
  | .io path detail => (Failure.io path detail).message ++ ": " ++ detail
  | other => other.message

def writePruned (plan : Plan) (tools : Toolkit) (input : Path) (session : Session) : Session :=
  match plan.survey.prune tools.parser session.files input plan.remove with
  | .error failure =>
      session.note s!"[ERROR] Failed to rewrite {input.text}: {fullMessage failure}"
  | .ok pruned =>
      let session := pruned.notFound.foldl
        (fun session name => session.note s!"[WARN] {input.text}: no function named `{name}`")
        session
      let target := Artifact.path plan.directory input (Artifact.prunedSuffix input)
      match session.files.writeText target (String.ofList pruned.source) with
      | .error cause =>
          session.note s!"[ERROR] Failed to write {target.text}: {cause.message}"
      | .ok files =>
          { session with files }.note
            s!"Removed {pruned.removed.length} function(s), pruned copy at: {target.text}"

def writeArtifacts (plan : Plan) (tools : Toolkit) (session : Session)
    (file : Path × Analysis) : Session :=
  let session := plan.writeDiagram tools file.1 file.2 session
  if plan.remove.isEmpty then session else plan.writePruned tools file.1 session

/-- Everything from the reports on. -/
def carryOut (plan : Plan) (tools : Toolkit) (results : SurveyRun) (session : Session) :
    RunResult :=
  let session := session.print (plan.reports results)
  let session := results.succeeded.foldl (plan.writeArtifacts tools) session
  let session := results.failed.foldl
    (fun session (path, failure) => session.note s!"[ERROR] {path.text}: {failure.message}")
    session
  { session, exitCode := if results.hasFailures then 1 else 0 }

end Plan

end CallAtlas
