import CallAtlas.Function.Naming
import CallAtlas.Name.Map
import CallAtlas.Text.Lines

/-!
The catalog of a source file: one record for each name that a function is
registered under. When a name is registered twice, a policy decides whether the
later function replaces the earlier one or the catalog is refused.
-/

namespace CallAtlas

structure FunctionRecord where
  name : String
  definingLine : Nat
  lineCount : Nat
  kind : FunctionKind
  region : Region
  deriving DecidableEq, Repr

abbrev Catalog := NameMap FunctionRecord

inductive DuplicatePolicy where
  | lastWriterWins
  | reject
  deriving DecidableEq, Repr

structure DuplicateName where
  name : String
  firstLine : Nat
  secondLine : Nat
  deriving DecidableEq, Repr

def lineExtent (source : List Char) (region : Region) : Nat :=
  Text.nonBlankLines source region.firstLine region.lastLine

namespace Catalog

/-- The record of a function registered under a name; it has at least one line. -/
def recordOf (tree : SyntaxTree) (cursor : Cursor) (name : String) (kind : FunctionKind) :
    FunctionRecord :=
  let region := tree.region cursor.node
  { name
    definingLine := region.firstLine
    lineCount := max (lineExtent tree.source region) 1
    kind
    region }

def record? (tree : SyntaxTree) (cursor : Cursor) : Option FunctionRecord :=
  (tree.catalogName? cursor).map fun (name, kind) => recordOf tree cursor name kind

def candidates (tree : SyntaxTree) : List FunctionRecord :=
  tree.functions.filterMap (record? tree)

def register (policy : DuplicatePolicy) (catalog : Catalog) (record : FunctionRecord) :
    Except DuplicateName Catalog :=
  match policy, catalog.get? record.name with
  | .reject, some previous =>
      .error ⟨record.name, previous.definingLine, record.definingLine⟩
  | _, _ => .ok (catalog.insert record.name record)

def build (policy : DuplicatePolicy) (tree : SyntaxTree) : Except DuplicateName Catalog :=
  (candidates tree).foldlM (register policy) ∅

end Catalog

end CallAtlas
