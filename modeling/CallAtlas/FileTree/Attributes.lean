/-!
What is known of a file or directory besides what it holds: who may do what with it,
and a number by which it is known under whatever name.
-/

namespace CallAtlas

inductive Right where
  | read
  | write
  | execute
  deriving DecidableEq, Repr

def Right.bit : Right → Nat
  | read => 4
  | write => 2
  | execute => 1

structure Attributes where
  /-- Permissions in octal digits: for the owner, the group and all others, with a digit for special
  ones in front. -/
  mode : Nat
  /-- Whether programs run for the owner. -/
  isOwned : Bool := true
  /-- The number of an object that needed one. -/
  identity : Option Nat := none
  deriving DecidableEq, Repr

namespace Attributes

def digit (attributes : Attributes) : Nat :=
  if attributes.isOwned then attributes.mode / 0o100 % 8 else attributes.mode % 8

def grants (attributes : Attributes) (right : Right) : Bool :=
  attributes.digit / right.bit % 2 = 1

end Attributes

end CallAtlas
