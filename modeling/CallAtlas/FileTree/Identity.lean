import CallAtlas.FileTree.Basic

/-!
Objects by their identities. An object keeps its identity when it is renamed, and all
names of a file show what was done to it under one of them.
-/

namespace CallAtlas.FileTree

mutual

def identified? (identity : Nat) (object : FileTree) : Option (Location × FileTree) :=
  if object.identity? = some identity then some ([], object)
  else
    match object with
    | directory entries _ => identifiedIn? identity entries
    | _ => none

def identifiedIn? (identity : Nat) : List (String × FileTree) → Option (Location × FileTree)
  | [] => none
  | (name, object) :: rest =>
      match identified? identity object with
      | some (location, found) => some (name :: location, found)
      | none => identifiedIn? identity rest

end

mutual

def renew (object : FileTree) (identity : Nat) (value : FileTree) : FileTree :=
  if object.identity? = some identity then value
  else
    match object with
    | directory entries attributes => directory (renewIn identity value entries) attributes
    | other => other

def renewIn (identity : Nat) (value : FileTree) :
    List (String × FileTree) → List (String × FileTree)
  | [] => []
  | (name, object) :: rest => (name, renew object identity value) :: renewIn identity value rest

end

mutual

def countNames (identity : Nat) (object : FileTree) : Nat :=
  (if object.identity? = some identity then 1 else 0) +
    match object with
    | directory entries _ => countNamesIn identity entries
    | _ => 0

def countNamesIn (identity : Nat) : List (String × FileTree) → Nat
  | [] => 0
  | (_, object) :: rest => countNames identity object + countNamesIn identity rest

end

mutual

def nextIdentity (object : FileTree) : Nat :=
  max ((object.identity?.map (· + 1)).getD 0)
    (match object with
    | directory entries _ => nextIdentityIn entries
    | _ => 0)

def nextIdentityIn : List (String × FileTree) → Nat
  | [] => 0
  | (_, object) :: rest => max (nextIdentity object) (nextIdentityIn rest)

end

def identifiedBy (identity : Nat) (object : FileTree) : FileTree :=
  object.withAttributes { object.attributes with identity := some identity }

end CallAtlas.FileTree
