/-!
Runs of blank lines. A run is a line feed followed by two or more lines that hold
nothing but blanks and tabs, as long as it can be; the collapse puts two line
feeds in the place of every run, from left to right.
-/

namespace CallAtlas.Text

def isPadding (c : Char) : Bool :=
  c = ' ' || c = '\t'

/-- Reads padded lines: how many end in the text, and where the last of them does, as the number of
characters up to there. -/
def paddedLines (count stop passed : Nat) : List Char → Nat × Nat
  -- `passed` counts the characters read.
  | [] => (count, stop)
  | c :: rest =>
      if c = '\n' then paddedLines (count + 1) (passed + 1) (passed + 1) rest
      else if isPadding c then paddedLines count stop (passed + 1) rest
      else (count, stop)

/-- The length of the run that a text starts with; zero if it starts with none. -/
def runLength : List Char → Nat
  | [] => 0
  | c :: rest =>
      if c = '\n' then
        let (count, stop) := paddedLines 0 0 0 rest
        if 2 ≤ count then stop + 1 else 0
      else 0

/-- Replaces the runs of a text, its first `skip` characters being part of a run replaced already. -/
def collapseFrom : Nat → List Char → List Char
  | _, [] => []
  | skip + 1, _ :: rest => collapseFrom skip rest
  | 0, c :: rest =>
      match runLength (c :: rest) with
      | 0 => c :: collapseFrom 0 rest
      | length + 1 => '\n' :: '\n' :: collapseFrom length rest

def collapseBlankRuns (text : List Char) : List Char :=
  collapseFrom 0 text

end CallAtlas.Text
