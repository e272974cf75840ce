import CallAtlas.Toml.Numbers

/-!
TOML documents: pairs of a key and a value, and headers that say which table the
pairs below them belong to. The document is a table; its members are in the order
in which they were written, a table with its own header standing where that was.
-/

namespace CallAtlas.Toml

def arrayItems (value : Reader Toml) : Reader Toml := do
  let items ← Reader.collect do
    blanksAndComments
    if ← Reader.accept "]" then return none
    else
      let item ← value
      blanksAndComments
      unless ← Reader.startsWith "]" do Reader.expect ","
      return some item
  return .array items

def inlinePair (value : Reader Toml) : Reader (List String × Toml) := do
  let path ← key
  Reader.expect "="
  blanks
  let held ← value
  blanks
  return (path, held)

/-- The pairs of a table in braces, behind the opening one; the last has no comma behind it. -/
def inlineMembers (value : Reader Toml) : Reader Toml := do
  blanks
  if ← Reader.accept "\x7d" then return .table .inline []
  let first ← inlinePair value
  let rest ← Reader.collect do
    if ← Reader.accept "\x7d" then return none
    else
      Reader.expect ","
      return some (← inlinePair value)
  let members ← (first :: rest).foldlM
    (fun members (path, held) =>
      insertPair .inline path.dropLast (path.getLast?.getD "") held members) []
  return .table .inline members

def valueWith (array table : Reader Toml) : Reader Toml := do
  let some c ← Reader.peek? | failure
  if c = '"' || c = '\'' then return .string (String.ofList (← stringValue))
  else if c = '[' then
    Reader.skip 1
    array
  else if c = '\x7b' then
    Reader.skip 1
    table
  else if ← Reader.accept "true" then return .boolean true
  else if ← Reader.accept "false" then return .boolean false
  else numeric

def value : Nat → Reader Toml
  | 0 => valueWith failure failure
  | depth + 1 => valueWith (arrayItems (value depth)) (inlineMembers (value depth))

/-- A document in the making: what is finished, and the table that pairs go to now. -/
structure Draft where
  finished : Members := []
  current : Members := []
  /-- The header of the current table; the document itself has none. -/
  path : List String := []
  repeated : Bool := false

namespace Draft

def finish (draft : Draft) : Option Members :=
  match draft.path.getLast? with
  | none => some draft.current
  | some key =>
      let table := Toml.table .header draft.current
      alter false
        (fun _ members =>
          if draft.repeated then
            match members.lookup key with
            | some (.tables elements) => some (setMember key (.tables (elements ++ [table])) members)
            | none => some (members ++ [(key, .tables [table])])
            | some _ => none
          else some (members ++ [(key, table)]))
        .header draft.path.dropLast draft.finished

def addPair (draft : Draft) (path : List String) (value : Toml) : Option Draft := do
  let current ← insertPair .header path.dropLast (path.getLast?.getD "") value draft.current
  return { draft with current }

/-- Begins a table. -/
def beginTable (draft : Draft) (path : List String) : Option Draft := do
  -- One that headers of tables below it have implied already is taken up, and then stands where its
  -- own header does.
  let finished ← draft.finish
  let current ← match memberAt? path finished with
    | none => some []
    | some (.table .implied members) => some members
    | some _ => none
  let finished ← alter false
    (fun _ members => some (members.filter fun member => path.getLast? ≠ some member.1))
    .header path.dropLast finished
  return { finished, current, path }

def beginElement (draft : Draft) (path : List String) : Option Draft := do
  let finished ← draft.finish
  let finished ← alter false
    (fun _ members =>
      match path.getLast? with
      | none => none
      | some key =>
          match members.lookup key with
          | none => some (members ++ [(key, .tables [])])
          | some (.tables _) => some members
          | some _ => none)
    .header path.dropLast finished
  return { finished, path, repeated := true }

end Draft

def statement (draft : Draft) : Reader (Option Draft) := do
  blanks
  if (← get).isEmpty then return none
  else if ← lineEnd then return some draft
  else if ← comment then
    statementEnd
    return some draft
  else if ← Reader.accept "[[" then
    let path ← key
    Reader.expect "]]"
    statementEnd
    return some (← draft.beginElement path)
  else if ← Reader.accept "[" then
    let path ← key
    Reader.expect "]"
    statementEnd
    return some (← draft.beginTable path)
  else
    let path ← key
    Reader.expect "="
    blanks
    let held ← value maxDepth
    statementEnd
    return some (← draft.addPair path held)

def statements : Nat → Draft → Reader Draft
  | 0, _ => failure
  | bound + 1, draft => do
      match ← statement draft with
      | none => return draft
      | some next => statements bound next

def byteOrderMark : Char := '\ufeff'

/-- Reads a document; nothing if the text is not valid. -/
def parse (text : String) : Option Members := do
  let chars := if text.toList.head? = some byteOrderMark then text.toList.tail else text.toList
  let (draft, _) ← (statements (chars.length + 1) {}).run chars
  draft.finish

end CallAtlas.Toml
