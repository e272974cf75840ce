import CallAtlas.Script.Regex
import CallAtlas.Script.Utility.Records

/-!
Searching lines for regular expressions.
-/

namespace CallAtlas.Script.Utility

namespace Search

structure Form where
  regexes : List Regex
  ignoresCase : Bool := false
  isInverted : Bool := false
  countsOnly : Bool := false
  namesFound : Bool := false
  namesOthers : Bool := false
  isQuiet : Bool := false
  isSilent : Bool := false
  matchesOnly : Bool := false
  showsNames : Bool := false
  showsNumbers : Bool := false
  showsOffsets : Bool := false
  hasTab : Bool := false
  limit : Option Nat := none
  hasContext : Bool := false
  before : Nat := 0
  behind : Nat := 0
  /-- Patterns for the names of files, one of which has to accept a file if there are any, and for
  those of files that are left out. -/
  included : List ByteText := []
  excluded : List ByteText := []
  ending : Char := '\n'

structure Line where
  text : ByteText
  number : Nat
  offset : Nat

def linesOf (ending : Char) (text : ByteText) : List Line :=
  let step := fun (state : List Line × Nat × Nat) (text : ByteText) =>
    let (lines, number, offset) := state
    ({ text, number, offset : Line } :: lines, number + 1, offset + text.length + 1)
  ((records ending text).foldl step ([], 1, 0)).1.reverse

def matchesIn (regexes : List Regex) (subject : Regex.Subject) : Nat → Nat → List (Nat × ByteText)
  | 0, _ => []
  | bound + 1, start =>
      let found := regexes.filterMap fun regex => regex.find subject start
      let best := found.foldl (fun (best : Option Regex.Match) next =>
        match best with
        | none => some next
        | some held =>
            if next.first < held.first || (next.first = held.first && held.last < next.last) then
              some next
            else best) none
      match best with
      | none => []
      | some found =>
          let next := if found.last = found.first then found.last + 1 else found.last
          let rest := matchesIn regexes subject bound next
          if found.last = found.first then rest
          else (found.first, subject.slice found.first found.last) :: rest

namespace Form

def finds (form : Form) (line : ByteText) : Bool :=
  form.regexes.any (·.isIn form.ignoresCase line) != form.isInverted

/-- What stands in front of a line; the mark tells lines that were found from those around them. -/
def front (form : Form) (label : ByteText) (line : Line) (offset : Nat) (mark : Char) : ByteText :=
  let parts := (if form.showsNames then [label] else []) ++
    (if form.showsNumbers then [Nat.toDigits 10 line.number] else []) ++
    (if form.showsOffsets then [Nat.toDigits 10 offset] else [])
  parts.flatMap (· ++ [mark]) ++ (if form.hasTab && !parts.isEmpty then ['\t'] else [])

def hit (form : Form) (label : ByteText) (line : Line) : ByteText :=
  if form.matchesOnly then
    if form.isInverted then []
    else
      let subject : Regex.Subject := { text := line.text.toArray, ignoreCase := form.ignoresCase }
      (matchesIn form.regexes subject (line.text.length + 1) 0).flatMap fun (start, part) =>
        form.front label line (line.offset + start) ':' ++ part ++ [form.ending]
  else form.front label line line.offset ':' ++ line.text ++ [form.ending]

def isNear (form : Form) (hits : List Line) (line : Line) : Bool :=
  hits.any fun hit => hit.number ≤ line.number + form.before && line.number ≤ hit.number + form.behind

/-- What is printed of the lines that were found and of those around them. -/
def report (form : Form) (isFirst : Bool) (label : ByteText) (lines hits : List Line) : ByteText :=
  -- A line of dashes stands between lines that do not follow each other, also behind what was
  -- printed before.
  if !form.hasContext then hits.flatMap (form.hit label)
  else
    let shown := lines.filter (form.isNear hits)
    let pieces := (shown.zip (none :: shown.map some)).map fun (line, earlier?) =>
      let gap : Bool := match earlier? with
        | some earlier => earlier.number + 1 < line.number
        | none => !isFirst
      (if gap then "--\n".toList else []) ++
        (if hits.any (·.number = line.number) then form.hit label line
          else form.front label line line.offset '-' ++ line.text ++ [form.ending])
    pieces.flatten

def run (form : Form) (isFirst : Bool) (label content : ByteText) : Task Bool := do
  -- `isFirst` tells that no lines were printed yet.
  let lines := linesOf form.ending content
  let hits := lines.filter fun line => form.finds line.text
  let hits := match form.limit with
    | some size => hits.take size
    | none => hits
  let found := !hits.isEmpty
  let printed := if form.isQuiet then []
    else if form.namesFound || form.namesOthers then
      if found == form.namesFound then label ++ ['\n'] else []
    else if form.countsOnly then
      (if form.showsNames then label ++ [':'] else []) ++ Nat.toDigits 10 hits.length ++ ['\n']
    else form.report isFirst label lines hits
  Task.print printed
  return found

def accepts (pattern name : ByteText) : Bool :=
  let parts := ByteText.split '/' name
  (List.range parts.length).any fun passed =>
    let part := ByteText.join ['/'] (parts.drop passed)
    Pattern.accepts (Pattern.items (pattern.map (·, false))) part

def isWanted (form : Form) (name : ByteText) : Bool :=
  name = ['-'] ||
    ((form.included.isEmpty || form.included.any (accepts · name)) &&
      !form.excluded.any (accepts · name))

end Form

def usage (name : String) : List String :=
  let short := (baseName (ByteText.ofString name)).toText
  [s!"Usage: {short} [OPTION]... PATTERNS [FILE]...", s!"Try '{short} --help' for more information."]

def isExtended (given : Given) : Bool := given.has 'E' || given.has 'P'

def findsNothing (given : Given) (patterns : List ByteText) : Bool :=
  let isEmpty := patterns.all List.isEmpty && (patterns.isEmpty != given.has 'v') &&
    patterns.length ≤ 1 && !(given.has 'v' && (given.has 'w' || given.has 'x'))
  given.last? ['l', 'L'] ≠ some 'L' &&
    (isEmpty || ((given.value? 'm').bind plainCount?) = some 0)

def regexOf (given : Given) (pattern : ByteText) : Except String Regex := do
  let isExtended := isExtended given
  let regex ← if given.has 'F' then pure (Regex.ofText pattern)
    else if pattern.take 2 = ['[', ':'] && pattern.drop (pattern.length - 2) = [':', ']'] then
      throw "character class syntax is [[:space:]], not [:space:]"
    else
      match Regex.parse { isExtended, isLoose := true } pattern with
      | .ok regex => pure regex
      | .error .unmatchedBracket => throw "Invalid regular expression"
      | .error fault => throw fault.message
  let around := fun (first last : Regex) => Regex.sequence first (.sequence regex last)
  return if given.has 'x' then around .lineStart .lineEnd
    else if given.has 'w' then around .noWordBefore .noWordBehind
    else regex

def filesBelow (files : FileSystem) : Nat → ByteText → List ByteText
  | 0, path => [path]
  | bound + 1, path =>
      match files.stat path.toPath with
      | .ok (.directory entries _) =>
          entries.flatMap fun (name, object) =>
            if object.isLink then []
            else filesBelow files bound (inDirectory path (ByteText.ofString name))
      | _ => [path]

def idleFlag : Char := Char.ofNat 0x11c0

def idleValue : Char := Char.ofNat 0x11c1

def colorLetter : Char := Char.ofNat 0x11c2

def includeLetter : Char := Char.ofNat 0x11c3

def excludeLetter : Char := Char.ofNat 0x11c4

def options : OptionForm where
  flags := "EFGHILPTUVZabchilnoqRrsuvwxyz0123456789".toList ++ [idleFlag]
  valued := ['A', 'B', 'C', 'D', 'X', 'd', 'e', 'f', 'm', idleValue, includeLetter,
    excludeLetter]
  optional := [colorLetter]
  long := [("basic-regexp", 'G'), ("extended-regexp", 'E'), ("fixed-regexp", 'F'),
    ("fixed-strings", 'F'), ("perl-regexp", 'P'), ("after-context", 'A'), ("before-context", 'B'),
    ("binary-files", idleValue), ("byte-offset", 'b'), ("context", 'C'), ("color", colorLetter),
    ("colour", colorLetter), ("count", 'c'), ("devices", 'D'), ("directories", 'd'),
    ("exclude", excludeLetter), ("exclude-from", idleValue), ("exclude-dir", idleValue), ("file", 'f'),
    ("files-with-matches", 'l'), ("files-without-match", 'L'), ("group-separator", idleValue),
    ("ignore-case", 'i'), ("no-ignore-case", idleFlag), ("include", includeLetter),
    ("initial-tab", 'T'), ("label", idleValue), ("line-buffered", idleFlag), ("line-number", 'n'),
    ("line-regexp", 'x'), ("max-count", 'm'), ("no-filename", 'h'),
    ("no-group-separator", idleFlag), ("no-messages", 's'), ("null", 'Z'), ("null-data", 'z'),
    ("only-matching", 'o'), ("quiet", 'q'), ("recursive", 'r'), ("dereference-recursive", 'R'),
    ("regexp", 'e'), ("invert-match", 'v'), ("silent", 'q'), ("text", 'a'), ("binary", 'U'),
    ("unix-byte-offsets", 'u'), ("with-filename", 'H'), ("word-regexp", 'w')]
  usage := usage

def searchAll (form : Form) (name : String) (skipsDirectories : Bool) :
    Bool → List ByteText → Task (Bool × Bool)
  -- The answer is whether lines were found, and whether something could not be read. A directory
  -- that cannot be read has no lines.
  | _, [] => return (false, false)
  | isFirst, operand :: rest => do
      let label := if operand = ['-'] then "(standard input)".toList else operand
      let result ← readOperand operand
      let isDirectory := match result with
        | .error cause => cause = .isADirectory
        | .ok _ => false
      let failed ← match result with
        | .ok _ => pure false
        | .error cause =>
            if isDirectory && skipsDirectories then pure false
            else do
              unless form.isSilent do tell s!"{name}: {ByteText.toText label}: {cause.reason}"
              pure true
      let found ← match result with
        | .ok content =>
            if form.isWanted operand then form.run isFirst label content else pure false
        | .error _ => if failed && isDirectory then form.run isFirst label [] else pure false
      if found && form.isQuiet then return (true, failed)
      else
        let (more, others) ← searchAll form name skipsDirectories (isFirst && !found) rest
        return (found || more, failed || others)

def matchers (given : Given) : List Char :=
  (given.options.map (·.1)).filter ['E', 'F', 'G', 'P'].contains

def program : Program :=
  withOptions options 2 fun name given => do
    let failed := fun (complaint : String) => giveUp 2 s!"{name}: {complaint}"
    let isWrong := fun (value : ByteText) => (plainCount? value).isNone
    let contexts := given.options.filter fun option => ['A', 'B', 'C'].contains option.1
    match contexts.find? (isWrong ·.2), (given.values 'm').find? isWrong with
    | some (_, value), _ => failed s!"{value.toText}: invalid context length argument"
    | none, some _ => failed "invalid max count"
    | none, none => do
        if 1 < (matchers given).eraseDups.length then failed "conflicting matchers specified"
        else
          let fromFiles ← (given.values 'f').mapM fun (path : ByteText) => do
            return (path, ← readOperand path)
          let unreadable := fromFiles.findSome? fun (path, content) =>
            match content with
            | .ok _ => none
            | .error cause => some (path, cause)
          match unreadable with
          | some (path, cause) => failed s!"{path.toText}: {cause.reason}"
          | none =>
              let texts := given.values 'e' ++ fromFiles.filterMap fun (_, content) =>
                content.toOption.bind fun text =>
                  if text.isEmpty then none
                  else if text.getLast? = some '\n' then some text.dropLast
                  else some text
              let hasPatterns := given.has 'e' || given.has 'f'
              match hasPatterns, given.operands with
              | false, [] => do
                  (usage name).forM tell
                  return 2
              | _, all =>
                  let texts := if hasPatterns then texts else all.take 1
                  let operands := if hasPatterns then all else all.drop 1
                  let patterns := texts.flatMap (ByteText.split '\n')
                  if given.has 'E' then
                    (patterns.flatMap fun pattern =>
                      Regex.lonelyOperators pattern.length true pattern).forM fun operator =>
                        tell s!"{name}: warning: {operator} at start of expression"
                  match patterns.mapM (regexOf given) with
                  | .error complaint => failed complaint
                  | .ok regexes =>
                      if findsNothing given patterns then return 1
                      else run name given regexes operands
where
  run (name : String) (given : Given) (regexes : List Regex) (operands : List ByteText) :
      Task Nat := do
    let number := fun (letter : Char) => (given.value? letter).bind plainCount?
    let digits := (given.options.filter fun option => option.1.isDigit).map (·.1)
    let around := (number 'C').orElse fun _ => plainCount? digits
    let isRecursive := given.has 'r' || given.has 'R' || given.value? 'd' = some "recurse".toList
    let files ← Task.files
    let inputs := if isRecursive then
        if operands.isEmpty then
          (filesBelow files 1000 ['.']).map (·.drop 2)
        else operands.flatMap (filesBelow files 1000)
      else if operands.isEmpty then [['-']]
      else operands
    let contexts := given.options.filter fun option =>
      ['A', 'B', 'C'].contains option.1 || option.1.isDigit
    let form : Form :=
      { regexes
        ignoresCase := given.has 'i' || given.has 'y'
        isInverted := given.has 'v'
        countsOnly := given.has 'c'
        namesFound := given.last? ['l', 'L'] = some 'l'
        namesOthers := given.last? ['l', 'L'] = some 'L'
        isQuiet := given.has 'q'
        isSilent := given.has 's'
        matchesOnly := given.has 'o'
        showsNames := match given.last? ['h', 'H'] with
          | some letter => letter = 'H'
          | none => 1 < operands.length || isRecursive
        showsNumbers := given.has 'n'
        showsOffsets := given.has 'b'
        hasTab := given.has 'T'
        limit := number 'm'
        hasContext := !contexts.isEmpty
        before := ((number 'B').orElse fun _ => around).getD 0
        behind := ((number 'A').orElse fun _ => around).getD 0
        included := given.values includeLetter
        excluded := given.values excludeLetter
        ending := if given.has 'z' then '\x00' else '\n' }
    let skipsDirectories := given.value? 'd' = some "skip".toList
    let (found, failed) ← searchAll form name skipsDirectories true inputs
    return if found && form.isQuiet then 0
      else if failed then 2
      else if found then 0
      else 1

end Search

end CallAtlas.Script.Utility
