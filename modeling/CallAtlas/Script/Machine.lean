import CallAtlas.Script.Execution

/-!
A machine that runs scripts: the files that every machine has, and programs started
on them.
-/

namespace CallAtlas.Script

def utilityNames : List String :=
  shells ++ Utility.launchers.map (·.1) ++ Utility.programs.map (·.1)

def systemDirectory (entries : List (String × FileTree)) : FileTree :=
  .directory entries { mode := 0o755, isOwned := false }

def utilityDirectory : FileTree :=
  let program := fun (name : String) (content : ByteArray) =>
    (name, FileTree.file content { mode := 0o755, isOwned := false })
  systemDirectory (utilityNames.map (fun name => program name (utilityContent name)) ++
    Utility.scripts.map fun (name, content) => program name content.toUTF8)

def deviceDirectory : FileTree :=
  systemDirectory [("full", .device .full), ("null", .device .null)]

def machine : FileTree :=
  let bare := systemDirectory []
  let shared := FileTree.directory [] { mode := 0o1777, isOwned := false }
  systemDirectory
    [("bin", .link "usr/bin"), ("dev", deviceDirectory), ("etc", bare), ("home", bare),
      ("lib", bare), ("mnt", bare), ("opt", bare), ("proc", bare),
      ("root", .directory [] { mode := 0o700, isOwned := false }), ("run", bare), ("sbin", bare),
      ("srv", bare), ("sys", bare), ("tmp", shared),
      ("usr", systemDirectory [("bin", utilityDirectory), ("lib", bare), ("local", bare),
        ("share", bare)]),
      ("var", systemDirectory [("tmp", shared)])]

def machineWith (workingDirectory : FileTree.Location) (content : FileTree) : FileSystem where
  root := machine.put workingDirectory content
  workingDirectory

def freshWorld (root : FileTree) : World where
  root
  opened :=
    [(0, { target := .device .null, isReadable := true }),
      (1, { target := .output, isWritable := true }),
      (2, { target := .errors, isWritable := true })]
  nextNumber := max 3 root.nextIdentity

def launch (programs : Path) (files : FileSystem) (program : Path) (arguments : List String) :
    Except FileError Execution := do
  let process : Process :=
    { world := freshWorld files.root
      entered := files.workingDirectory
      descriptors := [(0, 0), (1, 1), (2, 2)]
      environment := [("PATH", ByteText.ofString programs.text)]
      mask := files.mask }
  let process := process.enter files.workingDirectory
  let evaluator := Evaluator.ofDepth Evaluator.maxDepth
  let (status, world) ← evaluator.start Evaluator.maxInterpreters process
    (ByteText.ofString program.text) (ByteText.ofString program.text)
    (arguments.map ByteText.ofString)
  return { files := { files with root := world.root }, status
           output := ByteText.toBytes world.output.text
           errors := ByteText.toBytes world.errors.text }

def host (programs : Path) : Host where
  programs
  launch := launch programs

end CallAtlas.Script
