import CallAtlas.Render.Process

/-!
Signals between processes: their names and what becomes of a process that does not
handle them.
-/

namespace CallAtlas.Script

namespace Signal

def descriptions : List (Nat × String) :=
  [(1, "Hangup"), (3, "Quit"), (4, "Illegal instruction"), (5, "Trace/breakpoint trap"),
    (6, "Aborted"), (7, "Bus error"), (8, "Floating point exception"), (9, "Killed"),
    (10, "User defined signal 1"), (11, "Segmentation fault"), (12, "User defined signal 2"),
    (14, "Alarm clock"), (15, "Terminated"), (16, "Stack fault"), (24, "CPU time limit exceeded"),
    (25, "File size limit exceeded"), (26, "Virtual timer expired"),
    (27, "Profiling timer expired"), (29, "I/O possible"), (30, "Power failure"),
    (31, "Bad system call")]

def harmless : List (Nat × String) :=
  [(17, "SIGCHLD"), (18, "SIGCONT"), (19, "SIGSTOP"), (20, "SIGTSTP"), (21, "SIGTTIN"),
    (22, "SIGTTOU"), (23, "SIGURG"), (28, "SIGWINCH")]

def last : Nat := 64

/-- The name of a signal, as scripts give it; the end of a script counts as zero. -/
def name (number : Nat) : String :=
  if number = 0 then "EXIT"
  else if number ≤ 31 then
    match (ExitStatus.signalNames ++ harmless).lookup number with
    | some long => if number = 16 then "16" else (long.drop 3).toString
    | none => toString number
  else if number ≤ 33 then toString number
  else if number = 34 then "RTMIN"
  else if number ≤ 49 then s!"RTMIN+{number - 34}"
  else if number < last then s!"RTMAX-{last - number}"
  else "RTMAX"

def ofDigits? (text : String) : Option Nat :=
  match if text.all Char.isDigit then text.toNat? else none with
  | some number => if number ≤ last then some number else none
  | none => none

def number? (least : Nat) (text : String) : Option Nat :=
  match ofDigits? text with
  | some number => some number
  | none =>
      let upper := text.map Char.toUpper
      (List.range (last + 1)).find? fun number => least ≤ number && name number = upper

def isFatal (number : Nat) : Bool :=
  number ≠ 0 && (harmless.lookup number).isNone

def isCertain (number : Nat) : Bool := number = 9 || number = 19

end Signal

end CallAtlas.Script
