import CallAtlas.Decimal.Shortest
import CallAtlas.Text.Quoted
import CallAtlas.Toml.Value

/-!
Reading typed settings out of TOML values. A value of the wrong shape is reported
with what it is and what was expected; of several, the first one in the order of
the document. Sections may be written as tables or as arrays of their fields.
-/

namespace CallAtlas

inductive ShapeError where
  | wrongType (found : String) (expected : String)
  | tooShort (length : Nat) (expected : String) (fields : Nat)
  | unknownVariant (found : String) (variants : List String)
  | notStringOrTable
  | noVariant
  | severalVariants
  | variantHasArray
  | variantHasTable
  | variantHasValue (found : String)
  deriving DecidableEq, Repr

namespace ShapeError

def message : ShapeError → String
  | wrongType found expected => s!"invalid type: {found}, expected {expected}"
  | tooShort length expected fields =>
      s!"invalid length {length}, expected {expected} with {fields} elements"
  | unknownVariant found variants =>
      s!"unknown variant `{found}`, expected " ++
        " or ".intercalate (variants.map fun word => s!"`{word}`")
  | notStringOrTable => "wanted string or table"
  | noVariant => "wanted exactly 1 element, found 0 elements"
  | severalVariants => "wanted exactly 1 element, more than 1 element"
  | variantHasArray => "expected empty array"
  | variantHasTable => "expected empty table"
  | variantHasValue found => s!"expected table, found {found}"

end ShapeError

namespace Toml

/-- What a value is, as messages put it. -/
def description : Toml → String
  -- A date counts as a map of its parts.
  | string text => "string " ++ Text.quoted text
  | integer value => s!"integer `{value}`"
  | float value => s!"floating point `{Decimal.text value}`"
  | boolean value => s!"boolean `{value}`"
  | datetime => "map"
  | array _ => "sequence"
  | table .. => "map"
  | tables _ => "sequence"

def typeName : Toml → String
  | string _ => "string"
  | integer _ => "integer"
  | float _ => "float"
  | boolean _ => "boolean"
  | datetime => "datetime"
  | array _ => "array"
  | table .. => "table"
  | tables _ => "array of tables"

abbrev Typed := Except ShapeError

def asString : Toml → Typed String
  | string text => .ok text
  | other => .error (.wrongType other.description "a string")

def asBool : Toml → Typed Bool
  | boolean value => .ok value
  | other => .error (.wrongType other.description "a boolean")

def asStrings : Toml → Typed (List String)
  | array items => items.mapM asString
  | tables elements => elements.mapM asString
  | other => .error (.wrongType other.description "a sequence")

def variant {α : Type} (variants : List (String × α)) (word : String) : Typed α :=
  match variants.lookup word with
  | some value => .ok value
  | none => .error (.unknownVariant word (variants.map (·.1)))

def asNothing : Toml → Typed Unit
  | tables elements => if elements.isEmpty then .ok () else .error .variantHasArray
  | array items => if items.isEmpty then .ok () else .error .variantHasTable
  | table _ members => if members.isEmpty then .ok () else .error .variantHasTable
  | other => .error (.variantHasValue other.typeName)

def asVariant {α : Type} (variants : List (String × α)) : Toml → Typed α
  | string text => variant variants text
  | table _ [] => .error .noVariant
  | table _ [(key, held)] => do
      let value ← variant variants key
      asNothing held
      return value
  | table .. => .error .severalVariants
  | _ => .error .notStringOrTable

abbrev Setter (σ : Type) := Toml → σ → Typed σ

def setter {α σ : Type} (read : Toml → Typed α) (set : σ → Option α → σ) : Setter σ :=
  fun value given => return set given (some (← read value))

def setInOrder {σ : Type} (expected : String) (count : Nat) :
    Nat → List (String × Setter σ) → List Toml → σ → Typed σ
  | _, [], _, given => .ok given
  | index, _ :: _, [], _ => .error (.tooShort index expected count)
  | index, (_, set) :: fields, value :: rest, given => do
      setInOrder expected count (index + 1) fields rest (← set value given)

/-- The members of a table that are fields of a section; others do not count. -/
def setByName {σ : Type} (fields : List (String × Setter σ)) (members : Members) (given : σ) :
    Typed σ :=
  members.foldlM
    (fun done (key, value) =>
      match fields.lookup key with
      | some set => set value done
      | none => .ok done)
    given

def asSection {σ : Type} (expected : String) (fields : List (String × Setter σ)) (initial : σ) :
    Toml → Typed σ
  | table _ members => setByName fields members initial
  | datetime => .ok initial
  | array items => setInOrder expected fields.length 0 fields items initial
  | tables elements => setInOrder expected fields.length 0 fields elements initial
  | other => .error (.wrongType other.description expected)

end Toml

end CallAtlas
