import CallAtlas.Function.Form
import CallAtlas.Tree.Checked

/-!
The names of functions. A declaration has its own name; a function that is the
value of a variable declarator has the declarator's plain identifier. A catalog
registers less than calls are attributed to: it leaves out methods and function
expressions with a name of their own.
-/

namespace CallAtlas.SyntaxTree

def formOf? (cursor : Cursor) : Option FunctionForm :=
  FunctionForm.ofKind? cursor.kind

def ownName? (tree : SyntaxTree) (node : Node) : Option String :=
  (node.childUnder? "name").map tree.text

/-- The plain identifier that a variable declarator binds; patterns bind none. -/
def plainBinding? (tree : SyntaxTree) (declarator : Node) : Option String :=
  match declarator.childUnder? "name" with
  | some binding => if binding.kind = "identifier" then some (tree.text binding) else none
  | none => none

/-- The last step to a node goes to the value of a variable declarator. -/
def entersValue (step : Step) : Bool :=
  step.parent.kind = "variable_declarator" &&
    step.parent.children.findIdx? (Node.isUnder "value") = some step.index

/-- The plain identifier of the variable declarator that a node is the value of. -/
def boundName? (tree : SyntaxTree) (cursor : Cursor) : Option String :=
  match cursor.above with
  | [] => none
  | step :: _ => if entersValue step then tree.plainBinding? step.parent else none

/-- The name and kind under which a catalog registers a function. -/
def catalogName? (tree : SyntaxTree) (cursor : Cursor) : Option (String × FunctionKind) :=
  match formOf? cursor with
  | some .declaration => (tree.ownName? cursor.node).map (·, .declaration)
  | some .generatorDeclaration => (tree.ownName? cursor.node).map (·, .generator)
  | some .expression =>
      if (cursor.node.childUnder? "name").isSome then none
      else (tree.boundName? cursor).map (·, .expression)
  | some .generatorExpression =>
      if (cursor.node.childUnder? "name").isSome then none
      else (tree.boundName? cursor).map (·, .generator)
  | some .arrow => (tree.boundName? cursor).map (·, .arrow)
  | some .method => none
  | none => none

/-- The name to which the calls inside a function are attributed. -/
def callerName? (tree : SyntaxTree) (cursor : Cursor) : Option String :=
  match formOf? cursor with
  | some .declaration => tree.ownName? cursor.node
  | some .generatorDeclaration => tree.ownName? cursor.node
  | _ => tree.boundName? cursor

def functions (tree : SyntaxTree) : List Cursor :=
  tree.nodes.filter fun cursor => cursor.node.named && isFunctionLike cursor.kind

end CallAtlas.SyntaxTree
