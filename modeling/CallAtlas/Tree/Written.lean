import CallAtlas.Tree.Checked
import CallAtlas.Tree.Outline

/-!
Parses that were made beforehand. A parse can be kept as text, one line for each
node of its outline, and a table of parses is a parser: it looks its answer up,
and a text that it does not know counts as flawed.
-/

namespace CallAtlas

namespace Parse

/-- The node that a line stands for: its depth, its marks, where it starts and stops, its field or a
hyphen, and its kind, which may hold blanks. -/
def itemOfLine? (line : String) : Option OutlineItem :=
  -- The marks are `n` for a named node, `m` for a missing and `f` for a faulty one.
  match line.splitOn " " with
  | depth :: marks :: start :: stop :: field :: kind => do
      let depth ← depth.toNat?
      let start ← start.toNat?
      let stop ← stop.toNat?
      return {
        depth
        label := {
          kind := " ".intercalate kind
          named := marks.toList.contains 'n'
          missing := marks.toList.contains 'm'
          faulty := marks.toList.contains 'f'
          field := if field = "-" then none else some field
          span := ⟨start, stop⟩ } }
  | _ => none

/-- The parse that a text stands for. -/
def ofText? (text : String) : Option Parse :=
  -- Its first line tells whether the parse is flawed.
  match (text.splitOn "\n").filter (!·.isEmpty) with
  | [] => none
  | verdict :: lines => do
      let root ← Outline.toNode? (← lines.mapM itemOfLine?)
      return { root, flawed := verdict = "flawed" }

def unknown : Parse where
  root := .branch
    { kind := "program", named := true, missing := false, faulty := false, field := none
      span := ⟨0, 0⟩ } []
  flawed := true

end Parse

def Parser.ofTable (table : List (List Char × Parse)) : Parser :=
  fun source => .ok ((table.lookup source).getD .unknown)

end CallAtlas
