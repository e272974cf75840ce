import CallAtlas.Render.Process
import CallAtlas.Settings.Basic
import CallAtlas.Text.Blank
import CallAtlas.Text.Lossy

/-!
Rendering diagrams with an external program. If the program is not there, an
install command may be run once to get it; every way in which rendering can end
is an outcome and not an error.
-/

namespace CallAtlas

inductive InstallAttempt where
  | notNeeded
  | skipped
  | succeeded
  | failed (detail : String)
  deriving DecidableEq, Repr

def InstallAttempt.text : InstallAttempt → String
  | notNeeded => "NotNeeded"
  | skipped => "Skipped"
  | succeeded => "Succeeded"
  | failed detail => "Failed(" ++ Text.quoted detail ++ ")"

inductive RenderOutcome where
  | disabled
  | rendered (output : Path) (install : InstallAttempt)
  | unavailable (program : String) (install : InstallAttempt)
  | failed (detail : String)
  deriving DecidableEq, Repr

namespace RenderOutcome

def isRendered : RenderOutcome → Bool
  | rendered .. => true
  | _ => false

def failure? : RenderOutcome → Option Failure
  | disabled => none
  | rendered .. => none
  | unavailable program install =>
      some (.render s!"renderer `{program}` not available (install: {install.text})")
  | failed detail => some (.render detail)

end RenderOutcome

structure Effects where
  files : FileSystem
  output : ByteArray := .empty
  errors : ByteArray := .empty

def Effects.after (effects : Effects) (execution : Execution) : Effects where
  files := execution.files
  output := effects.output ++ execution.output
  errors := effects.errors ++ execution.errors

namespace RenderSection

def probe (render : RenderSection) (host : Host) (files : FileSystem) : Option Path :=
  host.find? files render.programName

def install (render : RenderSection) (host : Host) (files : FileSystem) : InstallAttempt × Effects :=
  match render.installCommand with
  | none => (.skipped, { files })
  | some [] => (.skipped, { files })
  | some (command :: arguments) =>
      match host.run files command arguments with
      | .error cause => (.failed s!"failed to run `{command}`: {cause.message}", { files })
      | .ok execution =>
          let effects := Effects.after { files } execution
          if !execution.status.success then
            (.failed s!"install command exited with {execution.status.message}", effects)
          else if (render.probe host execution.files).isSome then (.succeeded, effects)
          else (.failed s!"`{render.programName}` still not on PATH after install", effects)

def outcomeOf (output : Path) (install : InstallAttempt) (execution : Execution) : RenderOutcome :=
  if execution.status.success then
    if execution.files.pathExists output then .rendered output install
    else .failed s!"renderer produced no file at {output.text}"
  else
    let said := String.ofList (Text.trim (Text.decodeLossy execution.errors))
    .failed s!"renderer exited with {execution.status.message}: {said}"

/-- Runs the renderer; what it prints is kept from the user. -/
def runRenderer (render : RenderSection) (host : Host) (program : Path) (install : InstallAttempt)
    (dot output : Path) (effects : Effects) : RenderOutcome × Effects :=
  let arguments := ["-T" ++ render.formatName, dot.text, "-o", output.text]
  match host.start effects.files program arguments with
  | .error cause => (.failed s!"failed to run {program.text}: {cause.message}", effects)
  | .ok execution =>
      (outcomeOf output install execution, { effects with files := execution.files })

def render (render : RenderSection) (host : Host) (dot output : Path) (files : FileSystem) :
    RenderOutcome × Effects :=
  if !render.isEnabled then (.disabled, { files })
  else
    match render.probe host files with
    | some program => render.runRenderer host program .notNeeded dot output { files }
    | none =>
        let (install, effects) := render.install host files
        match install, render.probe host effects.files with
        | .succeeded, some program =>
            render.runRenderer host program install dot output effects
        | _, _ => (.unavailable render.programName install, effects)

end RenderSection

end CallAtlas
