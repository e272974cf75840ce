import CallAtlas.Script.Arithmetic
import CallAtlas.Script.Utility.Names

/-!
Listing directories by name, one name on a line.
-/

namespace CallAtlas.Script.Utility

structure ListForm where
  showsHidden : Bool := false
  showsAll : Bool := false
  asEntries : Bool := false
  isRecursive : Bool := false
  isReversed : Bool := false
  bySize : Bool := false
  byExtension : Bool := false
  classifies : Bool := false
  marksDirectories : Bool := false
  follows : Bool := false
  followsOperands : Bool := false

namespace ListForm

def mark (form : ListForm) (object : FileTree) : ByteText :=
  if object.isDirectory && (form.classifies || form.marksDirectories) then ['/']
  else if !form.classifies then []
  else
    match object with
    | .link _ => ['@']
    | .file _ attributes => if attributes.mode &&& 0o111 ≠ 0 then ['*'] else []
    | _ => []

def sizeOf : FileTree → Nat
  | .file content _ => content.size
  | .link target => target.utf8ByteSize
  | .directory .. => 4096
  | .device _ => 0

def extension (name : ByteText) : ByteText :=
  if name.contains '.' then '.' :: (name.reverse.takeWhile (· ≠ '.')).reverse else []

def sorted (form : ListForm) (entries : List (ByteText × FileTree)) :
    List (ByteText × FileTree) :=
  let byName := fun (first second : ByteText) => decide (String.ofList first ≤ String.ofList second)
  let le := fun (first second : ByteText × FileTree) =>
    if form.bySize && sizeOf first.2 ≠ sizeOf second.2 then
      decide (sizeOf second.2 ≤ sizeOf first.2)
    else if form.byExtension && extension first.1 ≠ extension second.1 then
      byName (extension first.1) (extension second.1)
    else byName first.1 second.1
  let ordered := entries.mergeSort le
  if form.isReversed then ordered.reverse else ordered

def lines (form : ListForm) (entries : List (ByteText × FileTree)) : ByteText :=
  ByteText.unlines ((form.sorted entries).map fun (name, object) => name ++ form.mark object)

def shows (form : ListForm) (name : String) : Bool :=
  form.showsAll || form.showsHidden || !(name.startsWith ".")

/-- Prints what directories hold. -/
def showDirectories (form : ListForm) (name : String) (hasHeadings : Bool) :
    Nat → Bool → Bool → List ByteText → Task Nat
  -- Each has a heading if there are several; `isFirst` tells that no line was printed yet. Trees
  -- nest so deep at most.
  | 0, _, _, _ => return 0
  | _, _, _, [] => return 0
  | bound + 1, isOperand, isFirst, path :: rest => do
      match (← Task.files).list path.toPath with
      | .error cause => do
          tell s!"{name}: cannot open directory {quote path}: {cause.reason}"
          let more ← showDirectories form name hasHeadings bound isOperand isFirst rest
          return max (if isOperand then 2 else 1) more
      | .ok entries => do
          let shown := (entries.filter fun entry => form.shows entry.1).map fun entry =>
            (ByteText.ofString entry.1, entry.2)
          let above := if form.showsAll then
              [(['.'], FileTree.plainDirectory []), (['.', '.'], FileTree.plainDirectory [])]
            else []
          let followed ← shown.mapM fun (entry, object) => do
            let aim := (← known? true (inDirectory path entry)).toOption.map (·.object)
            return (entry, if form.follows then aim.getD object else object)
          let heading := if hasHeadings then path ++ [':', '\n'] else []
          Task.print ((if isFirst then [] else ['\n']) ++ heading ++ form.lines (above ++ followed))
          let below := if form.isRecursive then
              ((form.sorted followed).filter fun entry => entry.2.isDirectory).map fun entry =>
                inDirectory path entry.1
            else []
          let inner ← showDirectories form name hasHeadings bound false false below
          let more ← showDirectories form name hasHeadings bound isOperand false rest
          return max inner more

end ListForm

def directoryLinkLetter : Char := Char.ofNat 0x1150

def indicatorLetter : Char := Char.ofNat 0x1151

def classifyLetter : Char := Char.ofNat 0x1152

def list : Program :=
  withOptions
    { flags := "abcdfghiklmnopqrstuvxABCDFGHLNQRSUXZ1".toList ++
        [directoryLinkLetter, ignoredFlag, Char.ofNat 0x1154]
      valued := ['I', 'T', 'w', Char.ofNat 0x1155, indicatorLetter]
      optional := [classifyLetter, Char.ofNat 0x1156]
      long := [("all", 'a'), ("escape", 'b'), ("directory", 'd'), ("dired", 'D'),
        ("full-time", ignoredFlag), ("group-directories-first", ignoredFlag),
        ("human-readable", 'h'), ("inode", 'i'), ("kibibytes", 'k'), ("numeric-uid-gid", 'n'),
        ("no-group", 'G'), ("hide-control-chars", 'q'), ("reverse", 'r'), ("size", 's'),
        ("width", 'w'), ("almost-all", 'A'), ("ignore-backups", 'B'),
        ("classify", classifyLetter), ("file-type", Char.ofNat 0x1154), ("si", ignoredFlag),
        ("dereference-command-line", 'H'),
        ("dereference-command-line-symlink-to-dir", directoryLinkLetter), ("hide", Char.ofNat 0x1155),
        ("ignore", 'I'), ("indicator-style", indicatorLetter), ("dereference", 'L'),
        ("literal", 'N'), ("quote-name", 'Q'), ("quoting-style", Char.ofNat 0x1155),
        ("recursive", 'R'), ("format", Char.ofNat 0x1155), ("show-control-chars", ignoredFlag),
        ("sort", Char.ofNat 0x1155), ("tabsize", 'T'), ("time", Char.ofNat 0x1155),
        ("time-style", Char.ofNat 0x1155), ("zero", ignoredFlag), ("color", Char.ofNat 0x1156),
        ("hyperlink", Char.ofNat 0x1156), ("block-size", Char.ofNat 0x1155), ("context", 'Z'),
        ("author", ignoredFlag)] }
    2 fun name given => do
      let isNumber := fun (text : ByteText) => !text.isEmpty && text.all Char.isDigit
      match (given.values 'T').find? (!isNumber ·), (given.values 'w').find? (!isNumber ·) with
      | some text, _ => giveUp 2 s!"{name}: invalid tab size: {cite text}"
      | none, some text => giveUp 2 s!"{name}: invalid line width: {cite text}"
      | none, none => do
          let isLong := given.has 'l' || given.has 'n' || given.has 'g' || given.has 'o'
          let classifies := given.has 'F' || given.has classifyLetter
          let form : ListForm :=
            { showsHidden := given.has 'A'
              showsAll := given.last? ['a', 'A', 'f'] = some 'a' || given.has 'f'
              asEntries := given.has 'd'
              isRecursive := given.has 'R'
              isReversed := given.has 'r'
              bySize := given.has 'S'
              byExtension := given.has 'X'
              classifies
              marksDirectories := given.has 'p'
              follows := given.has 'L'
              followsOperands := given.has 'L' || given.has 'H' ||
                !(isLong || classifies || given.has 'd') }
          let operands := if given.operands.isEmpty then [['.']] else given.operands
          let results ← operands.mapM fun (operand : ByteText) => do
            let aim ← known? true operand
            let itself ← known? false operand
            let isFollowed := aim.toOption.any fun known =>
              known.object.isDirectory || given.has 'L' || given.has 'H'
            let found := if form.followsOperands && isFollowed then aim else itself
            match found with
            | .ok known => return .ok (operand, known.object)
            | .error cause => do
                tell s!"{name}: cannot access {quote operand}: {cause.reason}"
                return Except.error cause
          let found := results.filterMap Except.toOption
          let status := if found.length = operands.length then 0 else 2
          let isListed := fun (entry : ByteText × FileTree) =>
            entry.2.isDirectory && !form.asEntries
          let others := found.filter fun entry => !isListed entry
          let directories := form.sorted (found.filter isListed)
          Task.print (form.lines others)
          let hasHeadings := 1 < operands.length || form.isRecursive
          let shown ← form.showDirectories name hasHeadings 100000 true others.isEmpty
            (directories.map (·.1))
          return max status shown
where
  ignoredFlag : Char := Char.ofNat 0x1153

end CallAtlas.Script.Utility
