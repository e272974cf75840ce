import CallAtlas.CommandLine.Run
import CallAtlas.FileTree.Changes
import CallAtlas.Script
import CallAtlas.Tree.Written

/-!
The command line on the files of the working directory. The parse of a source is
read from the file beside it whose name ends in `.parse`, and the programs of a run
are the scripts in the directory `bin`.
-/

namespace CallAtlas.Main

def isScript (content : ByteArray) : Bool :=
  content.toList.take 2 = "#!".toUTF8.toList

/-- The files and directories among the entries of a directory; links are left out. -/
partial def load (entries : Array IO.FS.DirEntry) : IO FileTree := do
  let mut loaded := #[]
  for entry in entries do
    match (← entry.path.symlinkMetadata).type with
    | .dir => loaded := loaded.push (entry.fileName, ← load (← entry.path.readDir))
    | .file =>
        let content ← IO.FS.readBinFile entry.path
        loaded := loaded.push (entry.fileName, .file content { mode := if isScript content then 0o755 else 0o644 })
    | _ => pure ()
  return .plainDirectory loaded.toList

def parseSuffix : String := ".parse"

/-- The sources with a parse beside them. -/
partial def knownParses : FileTree → List (List Char × Parse)
  | .directory entries _ =>
      entries.flatMap fun (name, object) =>
        match object with
        | .file content _ =>
            let known := do
              let source ← String.fromUTF8? content
              let beside ← entries.lookup (name ++ parseSuffix)
              let parse ← match beside with
                | .file written _ => (String.fromUTF8? written).bind Parse.ofText?
                | _ => none
              return (source.toList, parse)
            known.toList
        | below => knownParses below
  | _ => []

def apply : FileChange → IO Unit
  | .made location => IO.FS.createDirAll ("/".intercalate location)
  | .wrote location content => IO.FS.writeBinFile ("/".intercalate location) content

end CallAtlas.Main

open CallAtlas in
def main (arguments : List String) : IO UInt32 := do
  let directory ← IO.currentDir
  let content ← Main.load (← directory.readDir)
  let files := Script.machineWith (directory.components.filter (!·.isEmpty)) content
  let tools : Toolkit :=
    { parser := Parser.ofTable (Main.knownParses content)
      host := Script.host ⟨(directory / "bin").toString⟩
      schedule := .inOrder }
  match CommandResult.ofCommand tools arguments files with
  | .misused =>
      IO.eprint "error: invalid arguments\n\nFor more information, try '--help'.\n"
      return 2
  | .finished result =>
      (content.changes result.session.files.here).forM Main.apply
      IO.print result.session.output
      IO.eprint result.session.errors
      return result.exitCode.toUInt32
