import CallAtlas.Text.Blank
import CallAtlas.Text.Position
import CallAtlas.Tree.Cursor

/-!
Source files with a tree that holds no fault. A parser answers a text with some
tree and says whether it had to repair it; `SyntaxTree.check` lets a tree through
exactly when it had not, and otherwise points at the first repaired node. A parser
that gives no answer at all is out of order, whatever the text.
-/

namespace CallAtlas

open Text (Span)

/-- A parser's answer. It is flawed if the tree holds a fault, be it in a node of its own or not. -/
structure Parse where
  root : Node
  flawed : Bool

inductive ParserFault where
  | grammar (cause : String)
  | noTree
  deriving DecidableEq, Repr

def ParserFault.message : ParserFault → String
  | grammar cause => s!"failed to load TSX grammar: {cause}"
  | noTree => "tree-sitter returned no tree"

abbrev Parser := List Char → Except ParserFault Parse

inductive SyntaxFault where
  | missing (kind : String)
  | unexpected (excerpt : String)
  | endOfInput
  | unlocated
  deriving DecidableEq, Repr

def SyntaxFault.message : SyntaxFault → String
  | missing kind => s!"missing `{kind}`"
  | unexpected excerpt => s!"unexpected `{excerpt}`"
  | endOfInput => "unexpected end of input"
  | unlocated => "syntax error"

structure SyntaxError where
  line : Nat
  column : Nat
  fault : SyntaxFault
  deriving DecidableEq, Repr

structure Region where
  span : Span
  firstLine : Nat
  lastLine : Nat
  deriving DecidableEq, Repr

def Region.lineSpan (region : Region) : Nat :=
  region.lastLine - region.firstLine + 1

structure SyntaxTree where
  source : List Char
  root : Node

namespace Cursor

/-- The parser put the node in or found no place for its text. -/
def isRepaired (place : Cursor) : Bool :=
  place.node.label.faulty || place.node.label.missing

def firstRepaired? (root : Node) : Option Cursor :=
  (walk root).find? isRepaired

end Cursor

namespace SyntaxTree

def excerptLength : Nat := 24

def faultAt (source : List Char) (node : Node) : SyntaxFault :=
  if node.label.missing then .missing node.kind
  else
    let excerpt := Text.trim ((Text.slice source node.span).take excerptLength)
    if excerpt.isEmpty then .endOfInput else .unexpected (String.ofList excerpt)

/-- The first repaired node in document order, or the root if none is marked. -/
def firstError (source : List Char) (root : Node) : SyntaxError :=
  let repaired := Cursor.firstRepaired? root
  let node := (repaired.map Cursor.node).getD root
  let position := Text.positionAt source node.span.start
  { line := position.row + 1
    column := position.column + 1
    fault := if repaired.isSome then faultAt source node else .unlocated }

def check (source : List Char) (parse : Parse) : Except SyntaxError SyntaxTree :=
  if parse.flawed then .error (firstError source parse.root) else .ok ⟨source, parse.root⟩

def nodes (tree : SyntaxTree) : List Cursor :=
  Cursor.walk tree.root

def text (tree : SyntaxTree) (node : Node) : String :=
  String.ofList (Text.slice tree.source node.span)

def region (tree : SyntaxTree) (node : Node) : Region where
  span := node.span
  firstLine := Text.startLine tree.source node.span
  lastLine := Text.endLine tree.source node.span

mutual

/-- Goes down from a node as long as the first child that reaches to the end of
the span, and past its start, does not begin after it. -/
def descend (span : Span) (above : List Step) : Node → Cursor
  | .branch label children => descendInto span (.branch label children) above 0 children

def descendInto (span : Span) (parent : Node) (above : List Step) (index : Nat) :
    List Node → Cursor
  | [] => ⟨parent, above⟩
  | child :: rest =>
      if child.span.stop < span.stop ∨ child.span.stop ≤ span.start then
        descendInto span parent above (index + 1) rest
      else if child.span.start ≤ span.start then
        descend span (⟨parent, index⟩ :: above) child
      else ⟨parent, above⟩

end

/-- The nearest node at or above a place that covers exactly a span. -/
def covering? (span : Span) (node : Node) : List Step → Option Cursor
  | [] => if node.span = span then some ⟨node, []⟩ else none
  | step :: rest =>
      if node.span = span then some ⟨node, step :: rest⟩ else covering? span step.parent rest

def resolve? (tree : SyntaxTree) (region : Region) : Option Cursor :=
  let deepest := descend region.span [] tree.root
  covering? region.span deepest.node deepest.above

def summary (tree : SyntaxTree) : String :=
  "SyntaxTree \x7b bytes: " ++ toString (Text.byteLength tree.source) ++ ", root: \"" ++
    tree.root.kind ++ "\" \x7d"

end SyntaxTree

end CallAtlas
