import CallAtlas.Diagram.Basic

/-!
Diagrams in the DOT language. Labels are written as quoted strings, in which a
quote, a backslash and a line feed take two characters each; carriage returns are
dropped, since a quoted string has no way to write one that viewers agree on.
-/

namespace CallAtlas.Dot

def escape : List Char → List Char
  | [] => []
  | c :: rest =>
      if c = '"' then '\\' :: '"' :: escape rest
      else if c = '\\' then '\\' :: '\\' :: escape rest
      else if c = '\n' then '\\' :: 'n' :: escape rest
      else if c = '\r' then escape rest
      else c :: escape rest

def escapeLabel (label : String) : String :=
  String.ofList (escape label.toList)

def quoted (label : String) : String :=
  "\"" ++ escapeLabel label ++ "\""

def lines (diagram : Diagram) : List String :=
  ["digraph callmap \x7b",
    "  rankdir=LR;",
    "  node [shape=box, style=filled, fillcolor=lightblue, fontname=\"JetBrains Mono\"];",
    ""] ++
  diagram.nodes.map (fun node => "  " ++ quoted node.label ++ ";") ++
  (if diagram.isolated.isEmpty then []
    else "" :: diagram.isolated.map (fun node => "  " ++ quoted node.label ++ " [fillcolor=gold];")) ++
  [""] ++
  diagram.edges.map (fun edge =>
    "  " ++ quoted edge.source.label ++ " -> " ++ quoted edge.target.label ++ ";") ++
  ["\x7d"]

def render (diagram : Diagram) : String :=
  String.join ((lines diagram).map (· ++ "\n"))

end CallAtlas.Dot
