import CallAtlas.Proofs.Tree.Places
import CallAtlas.Tree.Checked

/-!
Trees of small programs. Every function has a name of one letter and no
parameters, every call is a statement of its own and has no arguments. A tree is
put together from the places where its parts start.
-/

namespace CallAtlas.Sketch

def rule (kind : String) (start stop : Nat) (children : List Node) : Node :=
  .branch
    { kind, named := true, missing := false, faulty := false, field := none, span := ⟨start, stop⟩ }
    children

def token (text : String) (start : Nat) : Node :=
  .branch
    { kind := text, named := false, missing := false, faulty := false, field := none
      span := ⟨start, start + text.length⟩ }
    []

/-- The same node, held under a field. -/
def under (field : String) : Node → Node
  | .branch label children => .branch { label with field := some field } children

def identifier (start : Nat) : Node :=
  rule "identifier" start (start + 1) []

def brackets (kind : String) (start : Nat) : Node :=
  rule kind start (start + 2) [token "(" start, token ")" (start + 1)]

def block (start stop : Nat) (statements : List Node) : Node :=
  rule "statement_block" start stop
    (token "\x7b" start :: statements ++ [token "\x7d" (stop - 1)])

def function (kind : String) (start stop : Nat) (statements : List Node) : Node :=
  rule kind start stop
    [token "function" start, under "name" (identifier (start + 9)),
      under "parameters" (brackets "formal_parameters" (start + 10)),
      under "body" (block (start + 13) stop statements)]

/-- `f();` -/
def call (start : Nat) : Node :=
  rule "expression_statement" start (start + 4)
    [rule "call_expression" start (start + 3)
        [under "function" (identifier start), under "arguments" (brackets "arguments" (start + 1))],
      token ";" (start + 3)]

def constant (start stop : Nat) (value : Node) : Node :=
  rule "lexical_declaration" start stop
    [under "kind" (token "const" start),
      rule "variable_declarator" (start + 6) (stop - 1)
        [under "name" (identifier (start + 6)), token "=" (start + 8), under "value" value],
      token ";" (stop - 1)]

def number (start : Nat) : Node :=
  rule "number" start (start + 1) []

def arrow (start : Nat) : Node :=
  rule "arrow_function" start (start + 7)
    [under "parameters" (brackets "formal_parameters" start), token "=>" (start + 3),
      under "body" (number (start + 6))]

def binding (start stop : Nat) (value : Node) : Node :=
  rule "variable_declarator" start stop
    [under "name" (identifier start), token "=" (start + 2), under "value" value]

def bindings (start stop : Nat) (parts : List Node) : Node :=
  rule "lexical_declaration" start stop
    (under "kind" (token "let" start) :: parts ++ [token ";" (stop - 1)])

def exported (start stop : Nat) (declaration : Node) : Node :=
  rule "export_statement" start stop [token "export" start, under "declaration" declaration]

def template (start stop : Nat) : Node :=
  rule "expression_statement" start stop
    [rule "template_string" start (stop - 1)
        [token "`" start, rule "string_fragment" (start + 1) (stop - 2) [], token "`" (stop - 2)],
      token ";" (stop - 1)]

def program (source : String) (statements : List Node) : SyntaxTree where
  source := source.toList
  root := rule "program" 0 source.length statements

/-- The place to which the numbers of children lead from the root. -/
def place (tree : SyntaxTree) (way : List Nat) : Cursor :=
  way.foldl (fun cursor index => (cursor.child? index).getD cursor) (Cursor.ofRoot tree.root)

theorem isPlace_place (tree : SyntaxTree) (way : List Nat) :
    Cursor.IsPlace tree.root (place tree way) := by
  have along : ∀ start, Cursor.IsPlace tree.root start → Cursor.IsPlace tree.root
      (way.foldl (fun cursor index => (cursor.child? index).getD cursor) start) := by
    induction way with
    | nil => exact fun start isPlace => isPlace
    | cons index rest ih =>
        intro start isPlace
        have step : Cursor.IsPlace tree.root ((start.child? index).getD start) := by
          cases found : start.child? index with
          | none => exact isPlace
          | some child => exact isPlace.tail ⟨index, found⟩
        exact ih _ step
  exact along (Cursor.ofRoot tree.root) .refl

end CallAtlas.Sketch
