/-!
Paths of files. A path is kept as it was spelled; what it says are its components,
in which repeated and trailing slashes and inner dots do not count. Two spellings
with the same components are the same path.

Paths and names are Unicode text. A file system can hold names whose bytes are no
text in UTF-8, and a command line can give them; these are left out, and with them
what is lost when such a name is shown.
-/

namespace CallAtlas

structure Path where
  text : String
  deriving DecidableEq, Repr, Inhabited

inductive Component where
  | root
  | here
  | up
  | name (text : String)
  deriving DecidableEq, Repr

namespace Path

/-- The parts between slashes; a text with `n` slashes has `n + 1` of them. -/
def split : List Char → List (List Char)
  | [] => [[]]
  | c :: rest =>
      if c = '/' then [] :: split rest
      else match split rest with
        | [] => [[c]]
        | piece :: more => (c :: piece) :: more

def pieces (path : Path) : List String :=
  (split path.text.toList).map String.ofList

def isIdle (piece : String) : Bool :=
  piece = "" || piece = "."

def step? (piece : String) : Option Component :=
  if isIdle piece then none
  else if piece = ".." then some .up
  else some (.name piece)

def isAbsolute (path : Path) : Bool :=
  path.text.toList.head? = some '/'

def components (path : Path) : List Component :=
  if path.isAbsolute then .root :: path.pieces.filterMap step?
  else if path.pieces.head? = some "." then .here :: path.pieces.tail.filterMap step?
  else path.pieces.filterMap step?

def same (first second : Path) : Bool :=
  first.components = second.components

/-- Puts a path behind another one; an absolute path stands on its own. -/
def join (path : Path) (below : String) : Path :=
  if isAbsolute ⟨below⟩ then ⟨below⟩
  else if path.text.toList.getLast?.all (· = '/') then ⟨path.text ++ below⟩
  else ⟨path.text ++ "/" ++ below⟩

def fileName? (path : Path) : Option String :=
  match path.components.getLast? with
  | some (.name text) => some text
  | _ => none

/-- The parts of a file name before and behind its last dot, unless there is nothing before it. -/
def splitName? (name : String) : Option (String × String) :=
  let behind := name.toList.reverse.takeWhile (· ≠ '.')
  match name.toList.reverse.dropWhile (· ≠ '.') with
  | [] => none
  | [_] => none
  | _ :: before => some (String.ofList before.reverse, String.ofList behind.reverse)

def extension? (path : Path) : Option String :=
  (path.fileName?.bind splitName?).map (·.2)

def stem? (path : Path) : Option String :=
  path.fileName?.map fun name => ((splitName? name).map (·.1)).getD name

/-- Drops idle parts at the end, but not the one a path begins with. -/
def dropIdleEnd (pieces : List String) : List String :=
  match pieces with
  | [] => []
  | first :: rest => first :: (rest.reverse.dropWhile isIdle).reverse

/-- The path without its last component; the root and the empty path have no parent. -/
def parent? (path : Path) : Option Path :=
  match path.components.getLast? with
  | none => none
  | some .root => none
  | some _ =>
      let above := dropIdleEnd (dropIdleEnd path.pieces).dropLast
      if above = [""] then some ⟨"/"⟩ else some ⟨"/".intercalate above⟩

end Path

end CallAtlas
