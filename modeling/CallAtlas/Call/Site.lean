import CallAtlas.Call.Denylist
import CallAtlas.Function.Catalog

/-!
Call sites: who calls whom at one call expression. A call is attributed to the
nearest function around it, and its callee is a plain identifier or the property
of a member expression, parentheses around it apart. A site that leads to no edge
of the call relation is dropped for the first reason that holds.
-/

namespace CallAtlas

/-- Why a call site leads to no edge, in the order in which the reasons are tried. -/
inductive DropReason where
  | unattributed
  | unsupportedCallee
  | denylisted
  | notCatalogued
  deriving DecidableEq, Repr

structure Call where
  caller : String
  callee : String
  deriving DecidableEq, Repr

namespace Node

/-- A template that is handed to a function is written as a call without being one. -/
def isTaggedTemplate (call : Node) : Bool :=
  match call.childUnder? "arguments" with
  | some arguments => arguments.kind = "template_string"
  | none => false

def isCallExpression (node : Node) : Bool :=
  node.kind = "call_expression"

def isCallSite (node : Node) : Bool :=
  node.isCallExpression && !node.isTaggedTemplate

mutual

/-- What stands inside all parentheses; empty ones hold nothing. -/
def unwrapped? : Node → Option Node
  | .branch label children =>
      if label.kind = "parenthesized_expression" then firstUnwrapped? children
      else some (.branch label children)

def firstUnwrapped? : List Node → Option Node
  | [] => none
  | child :: rest => if child.named then unwrapped? child else firstUnwrapped? rest

end

end Node

namespace SyntaxTree

def enclosing? : List Step → Option Cursor
  | [] => none
  | step :: rest =>
      if isFunctionLike step.parent.kind then some ⟨step.parent, rest⟩ else enclosing? rest

def targetName? (tree : SyntaxTree) (target : Node) : Option String :=
  if target.kind = "identifier" then some (tree.text target)
  else if target.kind = "member_expression" then
    match target.childUnder? "property" with
    | some property =>
        if property.kind = "property_identifier" then some (tree.text property) else none
    | none => none
  else none

def calleeName? (tree : SyntaxTree) (call : Node) : Option String :=
  if call.isTaggedTemplate then none
  else ((call.childUnder? "function").bind Node.unwrapped?).bind tree.targetName?

def attribution? (tree : SyntaxTree) (call : Cursor) : Option String :=
  (enclosing? call.above).bind tree.callerName?

def resolveCall (tree : SyntaxTree) (catalog : Catalog) (denylist : Denylist) (call : Cursor) :
    Except DropReason Call :=
  match tree.attribution? call with
  | none => .error .unattributed
  | some caller =>
      match tree.calleeName? call.node with
      | none => .error .unsupportedCallee
      | some callee =>
          if denylist.contains callee then .error .denylisted
          else if catalog.contains caller && catalog.contains callee then .ok ⟨caller, callee⟩
          else .error .notCatalogued

def callSites (tree : SyntaxTree) : List Cursor :=
  tree.nodes.filter fun cursor => cursor.node.isCallSite

end SyntaxTree

end CallAtlas
