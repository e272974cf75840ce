import CallAtlas.FileSystem.Basic

/-!
Running programs. What a program does to the files and what it prints is up to
the host; the library only says how programs are found and what it makes of their
results.
-/

namespace CallAtlas

inductive ExitStatus where
  | exited (code : Nat)
  | signaled (number : Nat)
  deriving DecidableEq, Repr

namespace ExitStatus

def signalNames : List (Nat × String) :=
  [(1, "SIGHUP"), (2, "SIGINT"), (3, "SIGQUIT"), (4, "SIGILL"), (5, "SIGTRAP"), (6, "SIGABRT"),
    (7, "SIGBUS"), (8, "SIGFPE"), (9, "SIGKILL"), (10, "SIGUSR1"), (11, "SIGSEGV"),
    (12, "SIGUSR2"), (13, "SIGPIPE"), (14, "SIGALRM"), (15, "SIGTERM"), (16, "SIGSTKFLT"),
    (24, "SIGXCPU"), (25, "SIGXFSZ"), (26, "SIGVTALRM"), (27, "SIGPROF"), (29, "SIGIO"),
    (30, "SIGPWR"), (31, "SIGSYS")]

def success : ExitStatus → Bool
  | exited code => code = 0
  | signaled _ => false

def message : ExitStatus → String
  | exited code => s!"exit status: {code}"
  | signaled number =>
      match signalNames.lookup number with
      | some name => s!"signal: {number} ({name})"
      | none => s!"signal: {number}"

end ExitStatus

structure Execution where
  files : FileSystem
  status : ExitStatus
  output : ByteArray
  errors : ByteArray

/-- Where programs come from and what they do. -/
structure Host where
  /-- The directory in which programs are looked up by name. -/
  programs : Path
  /-- Runs a program file with arguments, unless it cannot be started. -/
  launch : FileSystem → Path → List String → Except FileError Execution

namespace Host

def isProgram (files : FileSystem) (path : Path) : Bool :=
  (files.stat path).toOption.any FileTree.isProgram

def componentText : Component → String
  | .root => ""
  | .here => "."
  | .up => ".."
  | .name text => text

/-- The file that a program's name stands for: a plain name in the directory of programs, and
a path from the working directory on, without a dot in front. -/
def candidate (host : Host) (files : FileSystem) (name : String) : Path :=
  let components := Path.components ⟨name⟩
  if components.length ≤ 1 then host.programs.join name
  else if Path.isAbsolute ⟨name⟩ then ⟨name⟩
  else
    let steps := (components.dropWhile (· = .here)).map componentText
    ⟨"/" ++ "/".intercalate (files.workingDirectory ++ steps)⟩

def find? (host : Host) (files : FileSystem) (name : String) : Option Path :=
  let path := host.candidate files name
  if isProgram files path then some path else none

def holdsNul (text : String) : Bool :=
  text.toList.contains '\x00'

/-- Runs a program file; no argument can hold the character that ends it. -/
def start (host : Host) (files : FileSystem) (program : Path) (arguments : List String) :
    Except FileError Execution :=
  if holdsNul program.text || arguments.any holdsNul then .error .nulInArgument
  else host.launch files program arguments

def run (host : Host) (files : FileSystem) (command : String) (arguments : List String) :
    Except FileError Execution :=
  if command.isEmpty && !arguments.any holdsNul then .error .notFound
  else if command.toList.contains '/' then host.start files ⟨command⟩ arguments
  else host.start files (host.programs.join command) arguments

end Host

end CallAtlas
