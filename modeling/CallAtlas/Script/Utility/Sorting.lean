import CallAtlas.Script.Format
import CallAtlas.Script.Utility.Records

/-!
Sorting lines by keys, and lines that are repeated.
-/

namespace CallAtlas.Script.Utility

inductive KeyKind where
  | text
  | numeric
  | general
  | human
  | month
  | version
  deriving DecidableEq

structure KeyOrder where
  skipsBlanks : Bool := false
  skipsEndBlanks : Bool := false
  isDictionary : Bool := false
  ignoresControls : Bool := false
  foldsCase : Bool := false
  kinds : List KeyKind := []
  isReversed : Bool := false

structure SortKey where
  field : Nat := 0
  char : Nat := 0
  /-- The last field, and how much of it counts; all of it if none is told. -/
  lastField : Option Nat := none
  lastChar : Nat := 0
  order : KeyOrder := {}

structure SortForm where
  keys : List SortKey := []
  order : KeyOrder := {}
  separator : Option Char := none
  isUnique : Bool := false
  isStable : Bool := false
  ending : Char := '\n'

namespace KeyOrder

def isDefault (order : KeyOrder) : Bool :=
  !(order.skipsBlanks || order.skipsEndBlanks || order.isDictionary || order.ignoresControls ||
    order.foldsCase || !order.kinds.isEmpty)

def add? (atStart atEnd : Bool) (order : KeyOrder) (letter : Char) : Option KeyOrder :=
  let with? := fun (kind : KeyKind) =>
    some { order with kinds := order.kinds.filter (· ≠ kind) ++ [kind] }
  match letter with
  | 'b' => some { order with
      skipsBlanks := order.skipsBlanks || atStart
      skipsEndBlanks := order.skipsEndBlanks || atEnd }
  | 'd' => some { order with isDictionary := true }
  | 'f' => some { order with foldsCase := true }
  | 'i' => some { order with ignoresControls := true }
  | 'r' => some { order with isReversed := true }
  | 'n' => with? .numeric
  | 'g' => with? .general
  | 'h' => with? .human
  | 'M' => with? .month
  | 'V' => with? .version
  | 'R' => some order
  | _ => none

def conflict? (order : KeyOrder) : Option String :=
  let has := fun (kind : KeyKind) => order.kinds.contains kind
  let others := has .version || order.isDictionary || order.ignoresControls
  let count := (order.kinds.filter (· ≠ .version)).length + (if others then 1 else 0)
  let letters := [('d', order.isDictionary), ('f', order.foldsCase), ('g', has .general),
    ('h', has .human), ('i', order.ignoresControls && !order.isDictionary), ('M', has .month),
    ('n', has .numeric), ('V', has .version)]
  if 1 < count then some (String.ofList ((letters.filter (·.2)).map (·.1))) else none

def isBlank (c : Char) : Bool := c = ' ' || c = '\t' || c = '\n'

def number (text : ByteText) : Bool × ByteText × ByteText :=
  let text := text.dropWhile isBlank
  let (negative, text) := match text with
    | '-' :: rest => (true, rest)
    | rest => (false, rest)
  let whole := text.takeWhile Char.isDigit
  let fraction := match text.drop whole.length with
    | '.' :: rest => rest.takeWhile Char.isDigit
    | _ => []
  let whole := whole.dropWhile (· = '0')
  let fraction := (fraction.reverse.dropWhile (· = '0')).reverse
  (negative && !(whole.isEmpty && fraction.isEmpty), whole, fraction)

def compareTexts (first second : ByteText) : Ordering :=
  compareOfLessAndEq (String.ofList first) (String.ofList second)

def compareNumbers (first second : ByteText) : Ordering :=
  let (negative, whole, fraction) := number first
  let (negative', whole', fraction') := number second
  let size := ((compare whole.length whole'.length).then (compareTexts whole whole')).then
    (compareTexts fraction fraction')
  match negative, negative' with
  | true, false => .lt
  | false, true => .gt
  | false, false => size
  | true, true => size.swap

def month (text : ByteText) : Nat :=
  let months := ["JAN", "FEB", "MAR", "APR", "MAY", "JUN", "JUL", "AUG", "SEP", "OCT", "NOV", "DEC"]
  let start := String.ofList (((text.dropWhile isBlank).take 3).map Char.toUpper)
  match months.idxOf? start with
  | some index => index + 1
  | none => 0

def unitPower (text : ByteText) : Nat :=
  let body := text.dropWhile isBlank
  let body := if body.head? = some '-' then body.drop 1 else body
  let rest := (body.dropWhile fun c => c.isDigit || c = '.')
  match rest.head? with
  | some c => (("KMGTPEZY".toList.idxOf? c.toUpper).map (· + 1)).getD 0
  | none => 0

def compareHuman (first second : ByteText) : Ordering :=
  let sign := fun (text : ByteText) =>
    let (negative, whole, fraction) := number text
    if whole.isEmpty && fraction.isEmpty then (0 : Int) else if negative then -1 else 1
  let power := fun (text : ByteText) => sign text * (unitPower text : Int)
  ((compare (sign first) (sign second)).then (compare (power first) (power second))).then
    (compareNumbers first second)

def general? (text : ByteText) : Option Signed :=
  (readReal .extended (text.dropWhile Arithmetic.isSpace)).map (·.1)

def generalRank : Option Signed → Nat
  | none => 0
  | some { size := .undefined, .. } => 1
  | some { isNegative := true, size := .infinite } => 2
  | some { size := .finite .., .. } => 3
  | some { size := .infinite, .. } => 4

def compareGeneral (first second : ByteText) : Ordering :=
  let exact := fun (value : Option Signed) =>
    match value with
    | some { isNegative, size := .finite mantissa exponent } =>
        let ratio := Decimal.Ratio.scaled mantissa 2 exponent
        ((if isNegative then -(ratio.num : Int) else ratio.num), (ratio.den : Int))
    | _ => (0, 1)
  let (num, den) := exact (general? first)
  let (num', den') := exact (general? second)
  (compare (generalRank (general? first)) (generalRank (general? second))).then
    (compare (num * den') (num' * den))

/-- Compares texts with the numbers in them by size; the bound is on the length of both. -/
def compareVersions : Nat → ByteText → ByteText → Ordering
  | 0, _, _ => .eq
  | bound + 1, first, second =>
      let text := first.takeWhile (!·.isDigit)
      let text' := second.takeWhile (!·.isDigit)
      let rank := fun (c : Char) => if c = '~' then 0 else if c.isAlpha then c.toNat + 1 else c.toNat + 300
      let ranks := fun (text : ByteText) => text.map (fun c => Char.ofNat (rank c)) ++ [Char.ofNat 1]
      if text ≠ text' then compareTexts (ranks text) (ranks text')
      else
        let rest := first.drop text.length
        let rest' := second.drop text'.length
        if rest.isEmpty && rest'.isEmpty then .eq
        else
          let digits := rest.takeWhile Char.isDigit
          let digits' := rest'.takeWhile Char.isDigit
          (compare (Arithmetic.digits 10 digits).1 (Arithmetic.digits 10 digits').1).then
            (compareVersions bound (rest.drop digits.length) (rest'.drop digits'.length))

def visible (order : KeyOrder) (text : ByteText) : ByteText :=
  let kept := text.filter fun c =>
    (!order.isDictionary || c.isAlphanum || isBlank c) &&
      (!order.ignoresControls || order.isDictionary || isPrintable c)
  if order.foldsCase then kept.map Char.toUpper else kept

def compareKeys (order : KeyOrder) (first second : ByteText) : Ordering :=
  let result := match order.kinds.head? with
    | some .numeric => compareNumbers first second
    | some .general => compareGeneral first second
    | some .human => compareHuman first second
    | some .month => compare (month first) (month second)
    | some .version => compareVersions (first.length + second.length + 1) first second
    | _ => compareTexts (order.visible first) (order.visible second)
  if order.isReversed then result.swap else result

end KeyOrder

namespace SortKey

def behindFields (separator : Option Char) : Nat → ByteText → ByteText
  | 0, text => text
  | fields + 1, text =>
      match separator with
      | some c => behindFields separator fields ((text.dropWhile (· ≠ c)).drop 1)
      | none =>
          let rest := text.dropWhile KeyOrder.isBlank
          behindFields separator fields (rest.dropWhile fun c => !KeyOrder.isBlank c)

def textIn (key : SortKey) (separator : Option Char) (line : ByteText) : ByteText :=
  let start := behindFields separator key.field line
  let start := if key.order.skipsBlanks then start.dropWhile KeyOrder.isBlank else start
  let start := start.drop key.char
  match key.lastField with
  | none => start
  | some field =>
      let behind := if key.lastChar = 0 then
          match separator with
          | some c => (behindFields separator field line).dropWhile (· ≠ c)
          | none => behindFields separator (field + 1) line
        else
          let rest := behindFields separator field line
          let rest := if key.order.skipsEndBlanks then rest.dropWhile KeyOrder.isBlank else rest
          rest.drop key.lastChar
      start.take (start.length - behind.length)

def readCount (what : String) (text : ByteText) : Except String (Nat × ByteText) :=
  let digits := text.takeWhile Char.isDigit
  if digits.isEmpty then .error s!"{what}: invalid count at start of {cite text}"
  else .ok ((Arithmetic.digits 10 digits).1, text.drop digits.length)

def readOrder (atStart atEnd : Bool) : ByteText → KeyOrder → KeyOrder × ByteText
  | [], order => (order, [])
  | letter :: rest, order =>
      match order.add? atStart atEnd letter with
      | some order => readOrder atStart atEnd rest order
      | none => (order, letter :: rest)

def parse (text : ByteText) : Except String SortKey := do
  let wrong := fun (what : String) => s!"{what}: invalid field specification {cite text}"
  let (field, rest) ← readCount "invalid number at field start" text
  if field = 0 then throw (wrong "field number is zero")
  let (char, rest) ← match rest with
    | '.' :: rest => do
        let (char, rest) ← readCount "invalid number after '.'" rest
        if char = 0 then throw (wrong "character offset is zero")
        pure (char - 1, rest)
    | rest => pure (0, rest)
  let (order, rest) := readOrder true false rest {}
  match rest with
  | ',' :: rest => do
      let (lastField, rest) ← readCount "invalid number after ','" rest
      if lastField = 0 then throw (wrong "field number is zero")
      let (lastChar, rest) ← match rest with
        | '.' :: rest => readCount "invalid number after '.'" rest
        | rest => pure (0, rest)
      let (order, rest) := readOrder false true rest order
      if !rest.isEmpty then throw (wrong "stray character in field spec")
      return { field := field - 1, char, lastField := some (lastField - 1), lastChar, order }
  | rest => do
      if !rest.isEmpty then throw (wrong "stray character in field spec")
      return { field := field - 1, char, order }

end SortKey

namespace SortForm

def fullKeys (form : SortForm) : List SortKey :=
  let keys := form.keys.map fun key =>
    if key.order.isDefault && !key.order.isReversed then { key with order := form.order } else key
  if keys.isEmpty && !form.order.isDefault then [{ order := form.order }] else keys

def compareLines (form : SortForm) (first second : ByteText) : Ordering :=
  let byKey := form.fullKeys.foldl (fun result key =>
    result.then (key.order.compareKeys (key.textIn form.separator first)
      (key.textIn form.separator second))) Ordering.eq
  let whole := KeyOrder.compareTexts first second
  let last := if form.order.isReversed then whole.swap else whole
  if form.fullKeys.isEmpty then last
  else if form.isUnique || form.isStable then byKey
  else byKey.then last

def isBefore (form : SortForm) (first second : ByteText) : Bool :=
  form.compareLines first second ≠ .gt

def withoutRepeated (form : SortForm) : List ByteText → List ByteText
  | [] => []
  | first :: rest => first :: go first rest
where
  go (kept : ByteText) : List ByteText → List ByteText
    | [] => []
    | next :: rest =>
        if form.compareLines kept next = .eq then go kept rest else next :: go next rest

/-- The lines of some texts in order; texts that are sorted are merged. -/
def sorted (form : SortForm) (merges : Bool) (texts : List ByteText) : List ByteText :=
  let all := texts.map (records form.ending)
  let ordered := if merges then
      all.foldl (fun first second => first.merge second form.isBefore) []
    else all.flatten.mergeSort form.isBefore
  if form.isUnique then form.withoutRepeated ordered else ordered

def disorder? (form : SortForm) : Nat → List ByteText → Option (Nat × ByteText)
  | number, first :: second :: rest =>
      let result := form.compareLines first second
      if result = .gt || (form.isUnique && result = .eq) then some (number + 1, second)
      else disorder? form (number + 1) (second :: rest)
  | _, _ => none

end SortForm

def checkLetter : Char := Char.ofNat 0x1190

def sortWordLetter : Char := Char.ofNat 0x1191

def sortWords : List (String × Char) :=
  [("general-numeric", 'g'), ("human-numeric", 'h'), ("month", 'M'), ("numeric", 'n'),
    ("random", 'R'), ("version", 'V')]

def isBufferSize (text : ByteText) : Bool :=
  let rest := text.dropWhile Char.isDigit
  rest.length < text.length && (rest.isEmpty || (rest.length = 1 && rest.all ("bkKmMgGtTPEZY%".toList.contains ·)))

def readSortOption (form : SortForm) (option : Char × ByteText) : Except String SortForm := do
  let (letter, value) := option
  match letter with
  | 'k' => return { form with keys := form.keys ++ [← SortKey.parse value] }
  | 't' =>
      match value with
      | [] => throw "empty tab"
      | [c] => return { form with separator := some c }
      | ['\\', '0'] => return { form with separator := some '\x00' }
      | _ => throw s!"multi-character tab {cite value}"
  | 'u' => return { form with isUnique := true }
  | 's' => return { form with isStable := true }
  | 'z' => return { form with ending := '\x00' }
  | 'S' => if isBufferSize value then return form else throw s!"invalid -S argument {cite value}"
  | _ =>
      let letter := if letter = sortWordLetter then (chosenWord? sortWords value).getD ' '
        else letter
      match form.order.add? true true letter with
      | some order => return { form with order }
      | none => return form

def checkWords : List (String × Char) :=
  [("quiet", 'C'), ("silent", 'C'), ("diagnose-first", 'c')]

def checksOf (given : Given) : List Char :=
  given.options.filterMap fun (letter, value) =>
    if letter = checkLetter then some ((chosenWord? checkWords value).getD 'c')
    else if letter = 'c' || letter = 'C' then some letter
    else none

def sortFault? (letter : Char) (value : ByteText) : Option ValueFault :=
  if letter = checkLetter then
    if value.isEmpty then none
    else (wordFault? "--check" checkWords value).map ({ · with status? := some 1 })
  else if letter = sortWordLetter then
    (wordFault? "--sort" sortWords value).map ({ · with status? := some 1 })
  else
    match readSortOption {} (letter, value) with
    | .ok _ => none
    | .error complaint => some { complaint }

def sort : Program :=
  withOptions
    { flags := "bcCdfghimMnrRsuVz".toList ++ [Char.ofNat 0x1192]
      valued := ['k', 'o', 'S', 't', 'T', 'y', sortWordLetter, Char.ofNat 0x1193]
      optional := [checkLetter]
      long := [("ignore-leading-blanks", 'b'), ("check", checkLetter),
        ("compress-program", Char.ofNat 0x1193), ("debug", Char.ofNat 0x1192),
        ("dictionary-order", 'd'), ("ignore-case", 'f'), ("files0-from", Char.ofNat 0x1193),
        ("general-numeric-sort", 'g'), ("ignore-nonprinting", 'i'), ("key", 'k'), ("merge", 'm'),
        ("month-sort", 'M'), ("numeric-sort", 'n'), ("human-numeric-sort", 'h'),
        ("version-sort", 'V'), ("random-sort", 'R'), ("random-source", Char.ofNat 0x1193),
        ("sort", sortWordLetter), ("output", 'o'), ("reverse", 'r'), ("stable", 's'),
        ("batch-size", Char.ofNat 0x1193), ("buffer-size", 'S'), ("field-separator", 't'),
        ("temporary-directory", 'T'), ("unique", 'u'), ("zero-terminated", 'z'),
        ("parallel", Char.ofNat 0x1193)]
      check := fun _ => sortFault? }
    2 fun name given => do
      let failed := fun (complaint : String) => giveUp 2 s!"{name}: {complaint}"
      let checks := checksOf given
      match given.options.foldlM readSortOption {} with
      | .error complaint => failed complaint
      | .ok form =>
          let conflict? := if checks.contains 'c' && checks.contains 'C' then some "cC"
            else (form.fullKeys.map (·.order)).findSome? KeyOrder.conflict?
          match conflict? with
          | some letters => failed s!"options '-{letters}' are incompatible"
          | none => do
              let extra := (given.operands.drop 1).head?
              match checks.head?, extra with
              | some letter, some extra =>
                  failed s!"extra operand {cite extra} not allowed with -{letter}"
              | some letter, none => do
                  let operand := given.inputs.headD ['-']
                  match ← readOperand operand with
                  | .error cause => failed (checkFault operand cause)
                  | .ok content =>
                      match form.disorder? 1 (records form.ending content) with
                      | none => return 0
                      | some (number, line) => do
                          if letter = 'c' then
                            tell s!"{name}: {operand.toText}:{number}: disorder: {line.toText}"
                          return 1
              | none, _ => run name given form
where
  checkFault (operand : ByteText) (cause : FileError) : String :=
    let what := if cause = .isADirectory then "read failed" else "open failed"
    s!"{what}: {bare operand}: {cause.reason}"
  readFault (operand : ByteText) (cause : FileError) : String :=
    let what := if cause = .isADirectory then "read failed" else "cannot read"
    s!"{what}: {bare operand}: {cause.reason}"
  run (name : String) (given : Given) (form : SortForm) : Task Nat := do
    let denied ← given.inputs.filterMapM fun (operand : ByteText) => do
      if operand = ['-'] then return none
      else
        match ← Task.stat operand with
        | .error cause => return some (operand, cause)
        | .ok object =>
            return if object.grants .read then none else some (operand, .permissionDenied)
    match denied with
    | (operand, cause) :: _ => giveUp 2 s!"{name}: {readFault operand cause}"
    | [] =>
        let opened ← match given.value? 'o' with
          | none => pure none
          | some target => do
              match ← Task.openPath { writes := true, creates := true } target with
              | .ok _ => pure none
              | .error cause => pure (some (target, cause))
        match opened with
        | some (target, cause) => giveUp 2 s!"{name}: open failed: {bare target}: {cause.reason}"
        | none => do
            let contents ← given.inputs.mapM fun (operand : ByteText) => do
              return (operand, ← readOperand operand)
            let failures := contents.filterMap fun (operand, content) =>
              match content with
              | .ok _ => none
              | .error cause => some (operand, cause)
            match failures with
            | (operand, cause) :: _ => giveUp 2 s!"{name}: {readFault operand cause}"
            | [] =>
                let texts := contents.filterMap fun (_, content) => content.toOption
                let output := joinRecords form.ending (form.sorted (given.has 'm') texts)
                match given.value? 'o' with
                | none => do
                    Task.print output
                    return 0
                | some target =>
                    match ← Task.writePath .writing target output with
                    | none => return 0
                    | some cause => giveUp 2 s!"{name}: write failed: {bare target}: {cause.reason}"

structure RepeatForm where
  skipFields : Nat := 0
  skipChars : Nat := 0
  checkChars : Option Nat := none
  foldsCase : Bool := false

def RepeatForm.visible (form : RepeatForm) (line : ByteText) : ByteText :=
  let rest := (SortKey.behindFields none form.skipFields line).drop form.skipChars
  let rest := match form.checkChars with
    | some size => rest.take size
    | none => rest
  if form.foldsCase then rest.map Char.toUpper else rest

def allRepeatedLetter : Char := Char.ofNat 0x11a0

def groupLetter : Char := Char.ofNat 0x11a1

inductive RunSpacing where
  | none
  | prepended
  | appended
  | separated
  | both
  deriving DecidableEq

def repeatedWords : List (String × RunSpacing) :=
  [("none", .none), ("prepend", .prepended), ("separate", .separated)]

def groupWords : List (String × RunSpacing) :=
  [("prepend", .prepended), ("append", .appended), ("separate", .separated), ("both", .both)]

def RunSpacing.spaced (spacing : RunSpacing) (ending : Char) (runs : List ByteText) : ByteText :=
  match spacing with
  | none => runs.flatten
  | prepended => runs.flatMap (ending :: ·)
  | appended => runs.flatMap (· ++ [ending])
  | separated => ByteText.join [ending] runs
  | both => if runs.isEmpty then [] else ending :: runs.flatMap (· ++ [ending])

def repeatCounts : List (Char × String) :=
  [('f', "fields to skip"), ('s', "bytes to skip"), ('w', "bytes to compare")]

def repeatFault? (letter : Char) (value : ByteText) : Option ValueFault :=
  if letter = allRepeatedLetter && !value.isEmpty then
    wordFault? "--all-repeated" repeatedWords value
  else if letter = groupLetter && !value.isEmpty then wordFault? "--group" groupWords value
  else
    match repeatCounts.lookup letter with
    | none => none
    | some what =>
        if (plainCount? value).isSome then none
        else some { complaint := s!"{value.toText}: invalid number of {what}" }

def unique : Program :=
  withOptions
    { flags := "cdDiuz".toList ++ digitFlags, valued := ['f', 's', 'w']
      optional := [allRepeatedLetter, groupLetter]
      long := [("count", 'c'), ("repeated", 'd'), ("all-repeated", allRepeatedLetter),
        ("group", groupLetter), ("ignore-case", 'i'), ("unique", 'u'), ("skip-fields", 'f'),
        ("skip-chars", 's'), ("check-chars", 'w'), ("zero-terminated", 'z')]
      check := fun _ => repeatFault? }
    1 fun name given => do
      let digits := (given.options.filter fun option => digitFlags.contains option.1).map (·.1)
      let number := fun (letter : Char) => (given.value? letter).bind plainCount?
      let isOffset := fun (operand : ByteText) =>
        operand.head? = some '+' && (plainCount? (operand.drop 1)).isSome
      let offset := given.operands.find? isOffset
      let operands := given.operands.filter fun operand => !isOffset operand
      let form : RepeatForm :=
        { skipFields := (number 'f').getD (Arithmetic.digits 10 digits).1
          skipChars := (number 's').getD
            ((offset.map fun text => (Arithmetic.digits 10 (text.drop 1)).1).getD 0)
          checkChars := number 'w'
          foldsCase := given.has 'i' }
      let selects := ['c', 'd', 'D', 'u', allRepeatedLetter].any given.has
      match operands with
      | _ :: _ :: extra :: _ => refuseExtra 1 name extra
      | _ =>
          if given.has groupLetter && selects then
            misuse 1 name "--group is mutually exclusive with -c/-d/-D/-u"
          else if given.has 'c' && (given.has 'D' || given.has allRepeatedLetter) then
            misuse 1 name "printing all duplicated lines and repeat counts is meaningless"
          else run name given form (operands[0]?.getD ['-']) (operands[1]?.getD ['-'])
where
  shown (given : Given) (ending : Char) (runs : List (List ByteText)) : ByteText :=
    let showsAll := given.has 'D' || given.has allRepeatedLetter
    if given.has groupLetter then
      let spacing := ((given.value? groupLetter).bind (chosenWord? groupWords ·)).getD .separated
      spacing.spaced ending (runs.map (joinRecords ending))
    else if showsAll then
      let spacing := ((given.value? allRepeatedLetter).bind (chosenWord? repeatedWords ·)).getD .none
      let repeated := runs.filter fun run => 1 < run.length
      let kept := if given.has 'u' then repeated.map (·.drop 1) else repeated
      spacing.spaced ending (kept.map (joinRecords ending))
    else
      let kept := runs.filter fun run =>
        (!given.has 'd' || 1 < run.length) && (!given.has 'u' || run.length = 1)
      kept.flatMap fun run =>
        (if given.has 'c' then column 7 run.length ++ [' '] else []) ++ run.headD [] ++ [ending]
  /-- Prints the runs of equal lines, or writes them to a file that is opened before they are
  read. -/
  run (name : String) (given : Given) (form : RepeatForm) (input output : ByteText) : Task Nat := do
    let failed := fun (operand : ByteText) (cause : FileError) =>
      giveUp 1 s!"{name}: {bare operand}: {cause.reason}"
    let fault ← if input = ['-'] then pure none
      else do
        match ← Task.openPath .reading input with
        | .ok _ => pure none
        | .error cause => pure (some cause)
    match fault with
    | some cause => failed input cause
    | none => do
        let opened ← if output = ['-'] then pure (.ok none)
          else do pure ((← Task.openPath .writing output).map some)
        match opened with
        | .error cause => failed output cause
        | .ok target => do
            match ← readOperand input with
            | .error cause => giveUp 1 s!"{name}: error reading {quote input}: {cause.reason}"
            | .ok content => do
                let ending := if given.has 'z' then '\x00' else '\n'
                let runs := (records ending content).splitBy fun first second =>
                  form.visible first = form.visible second
                let text := shown given ending runs
                match target with
                | none => do
                    Task.print text
                    return 0
                | some file => do
                    match ← Task.writeOpen file text with
                    | none => return 0
                    | some cause => failed output cause

end CallAtlas.Script.Utility
