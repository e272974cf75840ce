import CallAtlas.Path.Basic

/-!
The order of paths: component by component, a shorter path before its
continuations. Sorting keeps the order in which different spellings of one path
were given, and removing duplicates keeps the first spelling.
-/

namespace CallAtlas

namespace Component

/-- The root goes before a leading dot, that before a step up, and that before names. -/
def rank : Component → Nat
  | root => 0
  | here => 1
  | up => 2
  | name _ => 3

def text : Component → String
  | name text => text
  | _ => ""

/-- Names among each other go by their characters. -/
def less (first second : Component) : Bool :=
  first.rank < second.rank || (first.rank == second.rank && decide (first.text < second.text))

end Component

namespace Path

def componentsLE : List Component → List Component → Bool
  | [], _ => true
  | _ :: _, [] => false
  | first :: rest, second :: rest' =>
      if first = second then componentsLE rest rest' else first.less second

def le (first second : Path) : Bool :=
  componentsLE first.components second.components

def sort (paths : List Path) : List Path :=
  paths.mergeSort le

/-- Drops every path that spells the one before it again. -/
def dedupFrom (last : Path) : List Path → List Path
  | [] => []
  | next :: rest => if last.same next then dedupFrom last rest else next :: dedupFrom next rest

def dedup : List Path → List Path
  | [] => []
  | first :: rest => first :: dedupFrom first rest

end Path

end CallAtlas
