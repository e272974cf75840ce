import CallAtlas.Function.Catalog
import CallAtlas.Removal.BlankRun
import CallAtlas.Removal.Cut

/-!
Removing functions from a source. A function declaration goes with its export; a
function bound by a variable goes with its declarator and a comma beside it, and
when a declaration loses all of its declarators it goes as a whole. What is left
is the source text, with lines emptied by a cut gone and runs of blank lines
collapsed.
-/

namespace CallAtlas

open Text (Span)

inductive RemovalFault where
  | unresolved (name : String) (line : Nat)
  | notBound (name : String)
  | noDeclaration (name : String)
  deriving DecidableEq, Repr

def RemovalFault.message : RemovalFault → String
  | unresolved name line => s!"no syntax node for `{name}` at line {line}"
  | notBound name => s!"`{name}` is not variable-bound"
  | noDeclaration name => s!"`{name}` has no declaration"

structure Pruned where
  source : List Char
  removed : List String
  notFound : List String

def Pruned.changed (pruned : Pruned) : Bool :=
  !pruned.removed.isEmpty

namespace Removal

inductive Target where
  | declared (declaration : Cursor)
  | bound (declaration declarator : Cursor)

/-- The statement that exports a declaration, or the declaration itself. -/
def withExport (declaration : Cursor) : Cursor :=
  match declaration.parent? with
  | some parent => if parent.kind = "export_statement" then parent else declaration
  | none => declaration

def isDeclarator (node : Node) : Bool :=
  node.kind = "variable_declarator"

def target (tree : SyntaxTree) (name : String) (record : FunctionRecord) :
    Except RemovalFault Target :=
  match tree.resolve? record.region with
  | none => .error (.unresolved name record.definingLine)
  | some function =>
      if (SyntaxTree.formOf? function).any FunctionForm.isDeclaration then .ok (.declared function)
      else
        match function.parent? with
        | none => .error (.notBound name)
        | some declarator =>
            if isDeclarator declarator.node then
              match declarator.parent? with
              | none => .error (.noDeclaration name)
              | some declaration => .ok (.bound declaration declarator)
            else .error (.notBound name)

structure Group where
  declaration : Cursor
  dropped : List Cursor

/-- Files a declarator under its declaration; declarations are told apart by where they start. -/
def Group.add (declaration declarator : Cursor) : List Group → List Group
  | [] => [⟨declaration, [declarator]⟩]
  | group :: rest =>
      if group.declaration.span.start = declaration.span.start then
        { group with dropped := group.dropped ++ [declarator] } :: rest
      else group :: Group.add declaration declarator rest

def groups (targets : List Target) : List Group :=
  targets.foldl
    (fun done target =>
      match target with
      | .declared _ => done
      | .bound declaration declarator => Group.add declaration declarator done)
    []

def isComma (cursor : Cursor) : Bool :=
  cursor.kind = ","

/-- The bytes of a declarator and of the comma behind it with the blanks that follow, or
else of the comma before it. -/
def declaratorSpan (source : List Char) (declarator : Cursor) : Span :=
  match declarator.nextSibling?.filter isComma with
  | some comma =>
      let padding := (Text.dropBytes comma.span.stop source).takeWhile Text.isPadding
      ⟨declarator.span.start, comma.span.stop + padding.length⟩
  | none =>
      match declarator.previousSibling?.filter isComma with
      | some comma => ⟨comma.span.start, declarator.span.stop⟩
      | none => declarator.span

def declaratorCount (declaration : Node) : Nat :=
  declaration.children.countP fun child => child.named && isDeclarator child

def Group.spans (source : List Char) (group : Group) : List Span :=
  if group.dropped.length = declaratorCount group.declaration.node then
    [(withExport group.declaration).span]
  else group.dropped.map (declaratorSpan source)

def spans (source : List Char) (targets : List Target) : List Span :=
  targets.filterMap (fun
    | .declared declaration => some (withExport declaration).span
    | .bound .. => none) ++
  (groups targets).flatMap (Group.spans source)

def cutSpans (source : List Char) (spans : List Span) : List Char :=
  Text.cutAll (Span.merge (spans.map (Span.widen source))) source

/-- The targets of the requested names that the catalog holds, in increasing order of names. -/
def targets (tree : SyntaxTree) (catalog : Catalog) (requested : NameSet) :
    Except RemovalFault (List Target) :=
  (requested.toList.filterMap fun name => (catalog.get? name).map (name, ·)).mapM
    fun (name, record) => target tree name record

end Removal

def removeFunctions (tree : SyntaxTree) (catalog : Catalog) (names : List String) :
    Except RemovalFault Pruned := do
  let requested := NameSet.ofList names
  let targets ← Removal.targets tree catalog requested
  let removed := requested.toList.filter catalog.contains
  let text := Removal.cutSpans tree.source (Removal.spans tree.source targets)
  return {
    source := if removed.isEmpty then text else Text.collapseBlankRuns text
    removed
    notFound := requested.toList.filter fun name => !catalog.contains name }

end CallAtlas
