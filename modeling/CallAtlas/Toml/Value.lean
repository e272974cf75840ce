/-!
Values of the TOML configuration language. A table remembers how it came to be,
since that decides what a document may still add to it. Of dates and times only
their being there is kept.
-/

namespace CallAtlas

inductive TableOrigin where
  | header
  | implied
  | dotted
  | inline
  deriving DecidableEq, Repr

inductive Toml where
  | string (text : String)
  | integer (value : Int)
  | float (value : Float)
  | boolean (value : Bool)
  | datetime
  | array (items : List Toml)
  | table (origin : TableOrigin) (members : List (String × Toml))
  | tables (elements : List Toml)

namespace Toml

abbrev Members := List (String × Toml)

def setMember (key : String) (value : Toml) : Members → Members
  | [] => [(key, value)]
  | first :: rest =>
      if first.1 = key then (key, value) :: rest else first :: setMember key value rest

/-- Changes the table at the end of a path, making tables on the way where there are none. -/
def alter (dotted : Bool) (change : TableOrigin → Members → Option Members) :
    TableOrigin → List String → Members → Option Members
  -- Of an array of tables the last one is meant. A value has no members to add, and a dotted key
  -- does not reach into a table that has a header.
  | origin, [], members => change origin members
  | _, key :: rest, members =>
      match members.lookup key with
      | none => do
          let origin := if dotted then TableOrigin.dotted else .implied
          let made ← alter dotted change origin rest []
          return members ++ [(key, table origin made)]
      | some (table origin inner) =>
          if origin = .inline || (dotted && origin = .header) then none
          else do
            let changed ← alter dotted change origin rest inner
            return setMember key (table origin changed) members
      | some (tables elements) =>
          match elements.getLast? with
          | some (table origin inner) => do
              let changed ← alter dotted change origin rest inner
              return setMember key (tables (elements.dropLast ++ [table origin changed])) members
          | _ => none
      | some _ => none

/-- Adds a pair under a dotted key. -/
def insertPair (origin : TableOrigin) (path : List String) (key : String) (value : Toml)
    (members : Members) : Option Members :=
  -- A key must be new, and its tables must be dotted ones.
  alter true
    (fun origin found =>
      if decide (origin = .dotted) == path.isEmpty || (found.lookup key).isSome then none
      else some (found ++ [(key, value)]))
    origin path members

def memberAt? : List String → Members → Option Toml
  | [], _ => none
  | [key], members => members.lookup key
  | key :: rest, members =>
      match members.lookup key with
      | some (table _ inner) => memberAt? rest inner
      | some (tables elements) =>
          match elements.getLast? with
          | some (table _ inner) => memberAt? rest inner
          | _ => none
      | _ => none

end Toml

end CallAtlas
