/-!
The forms in which a program text can define a function, by the node kinds of the
grammar, and the coarser kinds under which a catalog files them.
-/

namespace CallAtlas

inductive FunctionForm where
  | declaration
  | generatorDeclaration
  | expression
  | generatorExpression
  | arrow
  | method
  deriving DecidableEq, Repr

namespace FunctionForm

/-- The form that a node kind stands for. -/
def ofKind? (kind : String) : Option FunctionForm :=
  -- Function expressions have had two kinds.
  if kind = "function_declaration" then some declaration
  else if kind = "generator_function_declaration" then some generatorDeclaration
  else if kind = "function_expression" then some expression
  else if kind = "function" then some expression
  else if kind = "generator_function" then some generatorExpression
  else if kind = "arrow_function" then some arrow
  else if kind = "method_definition" then some method
  else none

def isDeclaration : FunctionForm → Bool
  | declaration | generatorDeclaration => true
  | _ => false

end FunctionForm

def isFunctionLike (kind : String) : Bool :=
  (FunctionForm.ofKind? kind).isSome

inductive FunctionKind where
  | declaration
  | generator
  | expression
  | arrow
  deriving DecidableEq, Repr

def FunctionKind.text : FunctionKind → String
  | declaration => "declaration"
  | generator => "generator"
  | expression => "expression"
  | arrow => "arrow"

end CallAtlas
