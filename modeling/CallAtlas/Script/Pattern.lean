import CallAtlas.Script.ByteText

/-!
Patterns of file names and texts: a star stands for any characters, a question mark
for one, and brackets for one of some characters. A quoted character stands for
itself, and so does one behind a backslash that an expansion gave.
-/

namespace CallAtlas.Script

abbrev Marked := List (Char × Bool)

namespace Pattern

inductive Item where
  | one (accepts : Char → Bool)
  | run

def classes : List (String × (Char → Bool)) :=
  [("alpha", Char.isAlpha), ("digit", Char.isDigit), ("alnum", Char.isAlphanum),
    ("upper", Char.isUpper), ("lower", Char.isLower),
    ("space", fun c => c = ' ' || (9 ≤ c.toNat && c.toNat ≤ 13)),
    ("blank", fun c => c = ' ' || c = '\t'),
    ("punct", fun c => 33 ≤ c.toNat && c.toNat ≤ 126 && !c.isAlphanum),
    ("print", fun c => 32 ≤ c.toNat && c.toNat ≤ 126),
    ("graph", fun c => 33 ≤ c.toNat && c.toNat ≤ 126),
    ("cntrl", fun c => c.toNat < 32 || c.toNat = 127),
    ("xdigit", fun c => c.isDigit || ('a' ≤ c && c ≤ 'f') || ('A' ≤ c && c ≤ 'F'))]

def class? (text : Marked) : Option ((Char → Bool) × Marked) :=
  let name := text.takeWhile (·.1.isLower)
  match text.dropWhile (·.1.isLower) with
  | (':', false) :: (']', false) :: rest =>
      (classes.lookup (String.ofList (name.map (·.1)))).map (·, rest)
  | _ => none

/-- The characters between brackets, of which the first may be a bracket itself, and what is
behind them. -/
def members : Nat → Bool → (Char → Bool) → Marked → Option ((Char → Bool) × Marked)
  | 0, _, _, _ => none
  | _, _, _, [] => none
  | bound + 1, first, accepts, (c, quoted) :: rest =>
      if c = ']' && !quoted && !first then some (accepts, rest)
      else
        let named := match rest with
          | (':', false) :: behind => if c = '[' && !quoted then class? behind else none
          | _ => none
        match named, rest with
        | some (kind, behind), _ => members bound false (fun x => accepts x || kind x) behind
        | none, ('-', false) :: (last, lastQuoted) :: behind =>
            if last = ']' && !lastQuoted then
              members bound false (fun x => accepts x || x = c) rest
            else members bound false (fun x => accepts x || (c ≤ x && x ≤ last)) behind
        | none, _ => members bound false (fun x => accepts x || x = c) rest

def bracket (text : Marked) : Option ((Char → Bool) × Marked) :=
  match text with
  | (c, false) :: rest =>
      if c = '!' || c = '^' then
        (members (rest.length + 1) true (fun _ => false) rest).map fun (accepts, behind) =>
          (fun x => !accepts x, behind)
      else members (text.length + 1) true (fun _ => false) text
  | _ => members (text.length + 1) true (fun _ => false) text

/-- The pattern of a text; the bound is on its length. -/
def itemsWithin : Nat → Marked → List Item
  | 0, _ => []
  | _, [] => []
  | bound + 1, (c, quoted) :: rest =>
      let itself := .one (· = c) :: itemsWithin bound rest
      if quoted then itself
      else if c = '\\' then
        match rest with
        | (next, _) :: behind => .one (· = next) :: itemsWithin bound behind
        | [] => itself
      else if c = '*' then .run :: itemsWithin bound rest
      else if c = '?' then .one (fun _ => true) :: itemsWithin bound rest
      else if c = '[' then
        match bracket rest with
        | some (accepts, behind) => .one accepts :: itemsWithin bound behind
        | none => itself
      else itself

def items (text : Marked) : List Item :=
  itemsWithin text.length text

def accepts : List Item → List Char → Bool
  | [], text => text.isEmpty
  | .run :: items, [] => accepts items []
  | .run :: items, c :: rest => accepts items (c :: rest) || accepts (.run :: items) rest
  | .one _ :: _, [] => false
  | .one kind :: items, c :: rest => kind c && accepts items rest
termination_by items text => items.length + text.length

/-- Whether a text holds characters that make it a pattern; a bracket needs another one behind
it. -/
def isPattern : Marked → Bool
  | [] => false
  | (c, quoted) :: rest =>
      (!quoted && (c = '*' || c = '?' || (c = '[' && rest.any (· = (']', false))))) ||
        isPattern rest

def acceptsFirst (items : List Item) (text : List Char) : Bool :=
  accepts items (text.takeWhile (· ≠ '\x00'))

def trimFront (items : List Item) (longest : Bool) (text : List Char) : List Char :=
  let sizes := List.range (text.length + 1)
  let sizes := if longest then sizes.reverse else sizes
  match sizes.find? fun size => acceptsFirst items (text.take size) with
  | some size => text.drop size
  | none => text

def trimBack (items : List Item) (longest : Bool) (text : List Char) : List Char :=
  let sizes := List.range (text.length + 1)
  let sizes := if longest then sizes else sizes.reverse
  match sizes.find? fun size => acceptsFirst items (text.drop size) with
  | some size => text.take size
  | none => text

end Pattern

end CallAtlas.Script
