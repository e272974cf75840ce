import CallAtlas.Script.Machine

/-!
A host of its own, to run the command line on a file tree alone.

The renderer and its installer are programs that a `Host` starts. The command line
and all that is proved about it take any host, and nothing outside of
`CallAtlas.Script` but the program itself imports this part. What it adds is one
host that needs no operating system: a shell with its utilities, for which the
programs in a file tree are scripts (`Script.host`). So a run with programs is a
function of a file tree, as a run without them is, and can be tried out on files
that are written down.

* `Token`, `Program`, `Grammar`: scripts and how they are read.
* `Expansion`, `Pattern`, `Arithmetic`, `Condition`, `Format`: words and tests.
* `Process`, `Opening`, `Redirection`, `Subshell`, `Signal`: what a shell works on.
* `Shell`, `Builtin`, `Execution`, `Launch`: how commands run.
* `Utility`: the programs beside the shell, on byte texts (`ByteText`, `Regex`,
  `Decimal`) and on files (`Links`).
* `Machine`: the file tree that all of them stand in, and the host.
-/
