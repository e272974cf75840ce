import CallAtlas.Script.Utility.Catenation
import CallAtlas.Script.Utility.Characters
import CallAtlas.Script.Utility.Comparison
import CallAtlas.Script.Utility.Copying
import CallAtlas.Script.Utility.Environment
import CallAtlas.Script.Utility.Expressions
import CallAtlas.Script.Utility.Extents
import CallAtlas.Script.Utility.Formatting
import CallAtlas.Script.Utility.Linking
import CallAtlas.Script.Utility.Listing
import CallAtlas.Script.Utility.Making
import CallAtlas.Script.Utility.Paths
import CallAtlas.Script.Utility.Removing
import CallAtlas.Script.Utility.Search
import CallAtlas.Script.Utility.Sed
import CallAtlas.Script.Utility.Sequence
import CallAtlas.Script.Utility.Sorting
import CallAtlas.Script.Utility.Testing
import CallAtlas.Script.Utility.WordRunning

/-!
The utilities by their names, and what they say when results cannot be printed.
-/

namespace CallAtlas.Script.Utility

def programs : List (String × Program) :=
  [("[", test true), ("basename", printBaseName), ("cat", catenate), ("chmod", changeMode),
    ("cmp", compareFiles), ("cp", copy), ("cut", cut), ("dirname", printDirectoryName),
    ("echo", printWords), ("expr", expression), ("false", fun _ _ => return 1),
    ("grep", Search.program), ("head", head), ("install", install), ("kill", sendSignals),
    ("ln", link), ("ls", list), ("mkdir", makeDirectories), ("mv", move), ("printf", printFormat),
    ("pwd", printWorkingDirectory), ("readlink", readLink), ("realpath", realPath),
    ("rev", reverseChars), ("rm", remove), ("rmdir", removeDirectories), ("sed", Sed.program),
    ("seq", printSequence), ("sleep", pause), ("sort", sort), ("sync", synchronize),
    ("tac", reverseLines), ("tail", tail), ("tee", tee), ("test", test false), ("touch", touch),
    ("tr", mapChars), ("true", fun _ _ => return 0), ("uniq", unique), ("unlink", unlink),
    ("wc", wordCount), ("yes", printEndlessly)]

def launchers : List (String × Launcher) :=
  [("env", runInEnvironment), ("find", .ofProgram Finding.program), ("nice", runNicely),
    ("nohup", runDetached), ("timeout", runInTime), ("xargs", .ofProgram runOnWords)]

def scripts : List (String × String) :=
  let search := fun (option : String) =>
    s!"#!/bin/sh\ncmd=$\x7b0##*/\x7d\nexec grep {option} \"$@\"\n"
  [("egrep", search "-E"), ("fgrep", search "-F")]

structure Loss where
  cause : FileError
  isFresh : Bool

def Loss.report (loss : Loss) (utility called : String) : List String × Nat :=
  let isClosed := loss.cause = .badDescriptor
  let certain := s!": {loss.cause.reason}"
  let reason := if loss.isFresh then certain else ""
  match utility with
  | "sort" =>
      ([s!"{called}: fflush failed: 'standard output'{certain}", s!"{called}: write error"], 2)
  | "cmp" => if isClosed then ([], 1) else ([s!"{called}: standard output{certain}"], 2)
  | "sed" =>
      let action := if isClosed then "close" else "flush"
      ([s!"{called}: couldn't {action} stdout{certain}"], 4)
  | "find" =>
      let second := if isClosed then certain else ""
      ([s!"{called}: 'standard output'{certain}", s!"{called}: write error{second}"], 1)
  | "cat" =>
      let what := if isClosed then "standard output" else "write error"
      ([s!"{called}: {what}{certain}"], 1)
  | "wc" =>
      let shown := if isClosed then certain else ""
      ([s!"{called}: write error{shown}"], 1)
  | "rev" => if isClosed then ([], 0) else ([s!"{called}: write error{certain}"], 1)
  | "yes" => ([s!"{called}: standard output{certain}"], 1)
  | _ =>
      let status := if ["ls", "grep"].contains utility then 2
        else if utility = "expr" then 3
        else if ["env", "nice", "nohup", "timeout"].contains utility then 125
        else 1
      ([s!"{called}: write error{reason}"], status)

end CallAtlas.Script.Utility
