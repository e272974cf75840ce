import CallAtlas.CommandLine.Plan

/-!
A run of the command line on a file tree. Errors before the reports end the run with
nothing printed, and later ones do not end it: whether it succeeded depends on the
analysed files alone.
-/

namespace CallAtlas

namespace Arguments

def run (arguments : Arguments) (tools : Toolkit) (files : FileSystem) : RunResult :=
  match Plan.prepare tools arguments files with
  | .error (error, files) => { session := { files, errors := error.report }, exitCode := 1 }
  | .ok prepared =>
      let session : Session := { files := prepared.files }
      let session :=
        if prepared.results.files.isEmpty then session.note "[WARN] No source files found."
        else session
      match prepared.results.fatal? with
      | some (file, failure) =>
          let error := RunError.aborted file failure
          { session := { session with errors := session.errors ++ error.report }, exitCode := 1 }
      | none => prepared.plan.carryOut tools prepared.results session

end Arguments

inductive CommandResult where
  | misused
  | finished (result : RunResult)

namespace CommandResult

def version : String := "callmap-cli 0.1.0\n"

def help : String :=
  "Call graph and dead function reporter for JavaScript/TypeScript

Usage: callmap [OPTIONS] [PATHS]...

Arguments:
  [PATHS]...  Source files or directories to analyze [default: .]

Options:
      --json                   Output the report in JSON format
      --dot                    Also print the Graphviz DOT text to stdout
      --out-dir <DIR>          Directory for generated .dot, image and pruned files
      --no-render              Do not invoke the Graphviz renderer
      --format <FORMAT>        Image format for the rendered graph [possible values: png, svg, pdf]
      --remove <REMOVE>...     Write a copy of each input with these functions removed
      --config <FILE>          Explicit config file (default: callmap.toml next to the first input)
      --dead-code <DEAD_CODE>  How dead functions are determined [possible values: never-called, unreachable-from-roots]
      --reject-duplicates      Fail files that define the same function name twice
  -h, --help                   Print help
  -V, --version                Print version
"

def ofCommand (tools : Toolkit) (command : List String) (files : FileSystem) : CommandResult :=
  match Arguments.parse command with
  | none => misused
  | some (.run arguments) => finished (arguments.run tools files)
  | some .version => finished { session := { files, output := version }, exitCode := 0 }
  | some .help => finished { session := { files, output := help }, exitCode := 0 }

end CommandResult

end CallAtlas
