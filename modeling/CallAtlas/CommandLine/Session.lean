import CallAtlas.CommandLine.Output
import CallAtlas.Render.Basic
import CallAtlas.Survey.Basic

/-!
What a run of the command line works on: the files, and what it has printed so far
on the stream for results and on the one for messages. Both streams are taken to be
open and to have room for all that is printed: what becomes of a run whose reader
has gone away is not told here. A run that cannot go on ends with an error, which is
reported with its causes.
-/

namespace CallAtlas

structure Toolkit where
  parser : Parser
  host : Host
  schedule : Schedule

structure Session where
  files : FileSystem
  output : String := ""
  errors : String := ""

structure RunResult where
  session : Session
  exitCode : Nat

namespace Session

/-- Prints on the stream for results, which takes every text. -/
def print (session : Session) (text : String) : Session :=
  { session with output := session.output ++ text }

def printLine (session : Session) (line : String) : Session :=
  session.print (line ++ "\n")

def note (session : Session) (line : String) : Session :=
  { session with errors := session.errors ++ line ++ "\n" }

def absorb (session : Session) (effects : Effects) : Session where
  files := effects.files
  output := session.output ++ String.ofList (Text.decodeLossy effects.output)
  errors := session.errors ++ String.ofList (Text.decodeLossy effects.errors)

end Session

inductive RunError where
  | settings (cause : SettingsError)
  | outputPath (fault : OutputFault)
  | outputDirectory (directory : Path) (cause : FileError)
  | scan (cause : ScanError)
  | aborted (file : Path) (failure : Failure)

namespace RunError

def chain : RunError → List String
  | settings cause => ["Failed to load configuration", cause.toFailure.message]
  | outputPath fault => [fault.toFailure.message]
  | outputDirectory directory cause =>
      [s!"Failed to create output directory {directory.text}", cause.message]
  | scan cause => Survey.scanContext cause
  | aborted file failure => [s!"Analysis aborted: {file.text}: {failure.message}"]

def indented (margin text : String) : String :=
  String.ofList (text.toList.flatMap fun c => if c = '\n' then '\n' :: margin.toList else [c])

/-- The causes of an error below it; several of them are numbered. -/
def causes : List String → String
  | [] => ""
  | [cause] => "\n\nCaused by:\n    " ++ indented "    " cause
  | several =>
      "\n\nCaused by:" ++ String.join (several.mapIdx fun index cause =>
        "\n" ++ String.ofList (List.replicate (5 - (toString index).length) ' ') ++
          toString index ++ ": " ++ indented "       " cause)

def report (error : RunError) : String :=
  match error.chain with
  | [] => "Error: \n"
  | whole :: below => "Error: " ++ whole ++ causes below ++ "\n"

end RunError

end CallAtlas
