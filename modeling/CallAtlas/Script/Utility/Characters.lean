import CallAtlas.Script.Pattern
import CallAtlas.Script.Utility.Records

/-!
Replacing and deleting characters, and cutting parts out of lines.
-/

namespace CallAtlas.Script.Utility

namespace CharSet

/-- A character of a set as it is spelled; one behind a backslash has no other meaning. -/
structure Spelled where
  char : Char
  isEscaped : Bool := false

def Spelled.isPlain (spelled : Spelled) (c : Char) : Bool := spelled.char = c && !spelled.isEscaped

inductive Item where
  | char (c : Char)
  | range (first last : Char)
  | class (name : String) (holds : Char → Bool)
  | equivalent (c : Char)
  | repeated (c : Char) (count : Nat)

def Item.chars : Item → List Char
  | char c => [c]
  | range first last =>
      (List.range (last.toNat + 1 - first.toNat)).map fun step => Char.ofNat (first.toNat + step)
  | .class _ holds => ((List.range 256).map Char.ofNat).filter holds
  | equivalent c => [c]
  | repeated c count => List.replicate count c

/-- The characters of a text with backslashes, and what is remarked about them. -/
def unquote : Nat → ByteText → List Spelled × List String
  -- The bound is on the length of the text.
  | 0, _ => ([], [])
  | _, [] => ([], [])
  | _, ['\\'] =>
      ([{ char := '\\' }], ["warning: an unescaped backslash at end of string is not portable"])
  | bound + 1, '\\' :: c :: rest =>
      let add := fun (char : Char) (behind : ByteText) =>
        let (more, remarks) := unquote bound behind
        ({ char, isEscaped := true : Spelled } :: more, remarks)
      let isOctal := fun (c : Char) => '0' ≤ c && c ≤ '7'
      match c with
      | 'a' => add '\x07' rest
      | 'b' => add '\x08' rest
      | 'f' => add '\x0c' rest
      | 'n' => add '\n' rest
      | 'r' => add '\r' rest
      | 't' => add '\t' rest
      | 'v' => add '\x0b' rest
      | _ =>
          if isOctal c then
            let digits := ((c :: rest).takeWhile isOctal).take 3
            let value := (Arithmetic.digits 8 digits).1
            if value < 256 then add (Char.ofNat value) ((c :: rest).drop digits.length)
            else
              let short := String.ofList (digits.take 2)
              let last := String.ofList (digits.drop 2)
              let remark := s!"warning: the ambiguous octal escape \\{String.ofList digits} is being\n\tinterpreted as the 2-byte sequence \\0{short}, {last}"
              let (more, remarks) := add (Char.ofNat (Arithmetic.digits 8 (digits.take 2)).1)
                ((c :: rest).drop 2)
              (more, remark :: remarks)
          else add c rest
  | bound + 1, c :: rest =>
      let (more, remarks) := unquote bound rest
      ({ char := c } :: more, remarks)

def plainText (all : List Spelled) : ByteText := all.map (·.char)

def repeated? (text : List Spelled) : Except String (Option (Item × List Spelled)) :=
  match text with
  | c :: star :: rest =>
      if !star.isPlain '*' then .ok none
      else
        let digits := rest.takeWhile fun spelled => !spelled.isPlain ']'
        let behind := rest.drop (digits.length + 1)
        let count := plainText digits
        if digits.length = rest.length then .ok none
        else if count.isEmpty then .ok (some (.repeated c.char 0, behind))
        else
          match plainCount? count with
          | none => .error s!"invalid repeat count {cite count} in [c*n] construct"
          | some value =>
              let value := if count.head? = some '0' then (Arithmetic.digits 8 count).1 else value
              .ok (some (.repeated c.char value, behind))
  | _ => .ok none

def isRepetition (text : List Spelled) : Bool :=
  match text with
  | star :: rest =>
      let behind := rest.dropWhile fun spelled => spelled.char.isDigit
      star.isPlain '*' && behind.head?.any (·.isPlain ']')
  | [] => false

def closed? (mark : Char) : List Spelled → Option (List Spelled × List Spelled)
  | first :: second :: rest =>
      if first.isPlain mark && second.isPlain ']' then some ([], rest)
      else (closed? mark (second :: rest)).map fun (inner, behind) => (first :: inner, behind)
  | _ => none

def bracket? (text : List Spelled) : Except String (Option (Item × List Spelled)) :=
  match text with
  | mark :: rest =>
      if mark.isPlain ':' || mark.isPlain '=' then
        match closed? mark.char rest with
        | none => repeated? text
        | some (inner, behind) =>
            let name := plainText inner
            if mark.char = ':' then
              match Pattern.classes.lookup name.toText with
              | some holds => .ok (some (.class name.toText holds, behind))
              | none =>
                  if name.isEmpty then .error "missing character class name '[::]'"
                  else if isRepetition rest then repeated? text
                  else .error s!"invalid character class {cite name}"
            else
              match name with
              | [c] => .ok (some (.equivalent c, behind))
              | [] => .error "missing equivalence class character '[==]'"
              | _ =>
                  if isRepetition rest then repeated? text
                  else
                    .error s!"{name.toText}: equivalence class operand must be a single character"
      else repeated? text
  | [] => .ok none

def shownChar (c : Char) : String :=
  ByteText.toText (if isPrintable c then [c] else escapedChar c)

def items : Nat → List Spelled → Except String (List Item)
  -- The bound is on the length of the text.
  | 0, _ => .ok []
  | _, [] => .ok []
  | bound + 1, first :: rest => do
      let bracketed ← if first.isPlain '[' then bracket? rest else pure none
      match bracketed with
      | some (item, behind) => return item :: (← items bound behind)
      | none =>
          match rest with
          | dash :: last :: behind =>
              if dash.isPlain '-' then
                if last.char < first.char then
                  let shown := s!"{shownChar first.char}-{shownChar last.char}"
                  throw s!"range-endpoints of '{shown}' are in reverse collating sequence order"
                return .range first.char last.char :: (← items bound behind)
              else return .char first.char :: (← items bound rest)
          | _ => return .char first.char :: (← items bound rest)

def parse (text : ByteText) : Except String (List Item) × List String :=
  let (spelled, remarks) := unquote (text.length + 1) text
  (items (spelled.length + 1) spelled, remarks)

def isFilling : Item → Bool
  | .repeated _ 0 => true
  | _ => false

def className? : Item → Option String
  | .class name _ => some name
  | _ => none

def isEquivalence : Item → Bool
  | .equivalent _ => true
  | _ => false

def charsOf (all : List Item) : List Char := all.flatMap Item.chars

def filled (size : Nat) (all : List Item) : List Char :=
  let room := size - (charsOf all).length
  all.flatMap fun item =>
    match item with
    | .repeated c 0 => List.replicate room c
    | other => other.chars

def conflict? (truncates complements : Bool) (first second : List Item) : Option String :=
  let classes := second.filterMap className?
  let chars := filled (charsOf first).length second
  let isCase := fun (name : String) => name = "upper" || name = "lower"
  if 1 < (second.filter isFilling).length then
    some "only one [c*] repeat construct may appear in string2"
  else if second.any isEquivalence then
    some "[=c=] expressions may not appear in string2 when translating"
  else if classes.any (!isCase ·) then
    some "when translating, the only character classes that may appear in\nstring2 are 'upper' and 'lower'"
  else if !classes.isEmpty && !(first.any fun item => (className? item).any isCase) then
    some "misaligned [:upper:] and/or [:lower:] construct"
  else if chars.isEmpty && !truncates && !(charsOf first).isEmpty then
    some "when not truncating set1, string2 must be non-empty"
  else if complements && first.any (fun item => (className? item).isSome) && 1 < chars.eraseDups.length then
    some "when translating with complemented character classes,\nstring2 must map all characters in the domain to one"
  else none

end CharSet

def squeeze (set : List Char) : List Char → List Char
  | first :: second :: rest =>
      if first = second && set.contains first then squeeze set (second :: rest)
      else first :: squeeze set (second :: rest)
  | text => text

def mapChars : Program :=
  withOptions
    { flags := "AcCdst".toList, stopsAtOperand := true
      long := [("complement", 'c'), ("delete", 'd'), ("squeeze-repeats", 's'),
        ("truncate-set1", 't')] } 1
    fun name given => do
      let deletes := given.has 'd'
      let squeezes := given.has 's'
      let least := if deletes == squeezes then 2 else 1
      let most := if deletes && !squeezes then 1 else 2
      let count := given.operands.length
      if count = 0 then misuse 1 name "missing operand"
      else if count < least then
        tell s!"{name}: missing operand after {cite (given.operands.getLast?.getD [])}"
        tell (if squeezes then "Two strings must be given when both deleting and squeezing repeats."
          else "Two strings must be given when translating.")
        hint 1 name
      else if most < count then
        tell s!"{name}: extra operand {cite (given.operands[most]?.getD [])}"
        if count = 2 then
          tell "Only one string may be given when deleting without squeezing repeats."
        hint 1 name
      else
        let (first?, remarks) := CharSet.parse (given.operands.headD [])
        remarks.forM fun remark => tell s!"{name}: {remark}"
        match first? with
        | .error complaint => giveUp 1 s!"{name}: {complaint}"
        | .ok first =>
            let (second?, remarks) := CharSet.parse (given.operands[1]?.getD [])
            remarks.forM fun remark => tell s!"{name}: {remark}"
            match second? with
            | .error complaint => giveUp 1 s!"{name}: {complaint}"
            | .ok second => run name given (count = 2 && !deletes) first second
where
  run (name : String) (given : Given) (translates : Bool) (first second : List CharSet.Item) :
      Task Nat := do
    let complements := given.has 'c' || given.has 'C'
    let conflict := if first.any CharSet.isFilling then
        some "the [c*] repeat construct may not appear in string1"
      else if translates then CharSet.conflict? (given.has 't') complements first second
      else none
    match conflict with
    | some complaint => giveUp 1 s!"{name}: {complaint}"
    | none =>
        let chars := CharSet.charsOf first
        let set := if complements then
            ((List.range 256).map Char.ofNat).filter fun c => !(chars.contains c)
          else chars
        let target := CharSet.filled set.length second
        match ← Task.read 0 with
        | .error cause => giveUp 1 s!"{name}: read error: {cause.reason}"
        | .ok content => do
            let last := target.getLast?.getD ' '
            let table := if given.has 't' then set.zip target
              else set.zip (target ++ List.replicate (set.length - target.length) last)
            let replace := fun c => ((table.reverse.find? (·.1 = c)).map (·.2)).getD c
            let changed := if given.has 'd' then content.filter fun c => !(set.contains c)
              else if translates then content.map replace
              else content
            let squeezed := if given.operands.length = 2 then target else set
            Task.print (if given.has 's' then squeeze squeezed changed else changed)
            return 0

abbrev PlaceRange := Nat × Option Nat

def readPlaces (ofFields : Bool) (text : ByteText) : Except String (List PlaceRange) :=
  let isEnd := fun (c : Char) => c = ',' || c = ' ' || c = '\t'
  let fromOne := if ofFields then "fields are numbered from 1"
    else "byte/character positions are numbered from 1"
  let invalid := fun (rest : ByteText) =>
    if ofFields then s!"invalid field value {cite rest}"
    else s!"invalid byte/character position {cite rest}"
  let large := fun (digits : ByteText) =>
    if ofFields then s!"field number {cite digits} is too large"
    else s!"byte/character offset {cite digits} is too large"
  let number := fun (digits : ByteText) =>
    let value := (Arithmetic.digits 10 digits).1
    if maxCount ≤ value then Except.error (large digits) else .ok value
  let rec go : Nat → ByteText → Except String (List PlaceRange)
    | 0, _ => .ok []
    | bound + 1, text => do
        let digits := text.takeWhile Char.isDigit
        let rest := text.drop digits.length
        let more := fun (range : PlaceRange) (rest : ByteText) =>
          match rest with
          | [] => Except.ok [range]
          | c :: behind =>
              if isEnd c then (go bound behind).map (range :: ·) else .error (invalid rest)
        match rest with
        | '-' :: behind => do
            let lastDigits := behind.takeWhile Char.isDigit
            let rest := behind.drop lastDigits.length
            if digits.isEmpty && lastDigits.isEmpty && (rest.isEmpty || rest.head?.any isEnd) then
              throw "invalid range with no endpoint: -"
            if rest.head? = some '-' then
              throw (if ofFields then "invalid field range" else "invalid byte or character range")
            let first ← if digits.isEmpty then pure 1 else number digits
            if first = 0 then throw fromOne
            if lastDigits.isEmpty then more (first, none) rest
            else
              let last ← number lastDigits
              if last < first then throw "invalid decreasing range"
              more (first, some last) rest
        | _ => do
            if digits.isEmpty then throw (if rest.isEmpty || rest.head?.any isEnd then fromOne else invalid rest)
            let value ← number digits
            if value = 0 then throw fromOne
            more (value, some value) rest
  go (text.length + 1) text

def inRanges (ranges : List PlaceRange) (place : Nat) : Bool :=
  ranges.any fun (first, last) => first ≤ place && last.all (place ≤ ·)

def complementLetter : Char := Char.ofNat 0x11b0

def outputLetter : Char := Char.ofNat 0x11b1

def placedParts (keeps : Nat → Bool) (line : ByteText) : List ByteText :=
  let marked := line.zipIdx.map fun (c, index) => (c, keeps (index + 1))
  let parts := marked.splitBy fun first second => first.2 && second.2
  (parts.filter fun part => part.all (·.2)).map fun part => part.map (·.1)

def listLetters : List Char := ['b', 'c', 'f']

def cutFault? (given : Given) (letter : Char) (value : ByteText) : Option ValueFault :=
  if listLetters.contains letter && listLetters.any given.has then
    some { complaint := "only one list may be specified", hints := true }
  else if letter = 'd' && 1 < value.length then
    some { complaint := "the delimiter must be a single character", hints := true }
  else none

def cut : Program :=
  withOptions
    { flags := ['n', 's', 'z', complementLetter], valued := ['b', 'c', 'd', 'f', outputLetter]
      long := [("bytes", 'b'), ("characters", 'c'), ("fields", 'f'), ("delimiter", 'd'),
        ("only-delimited", 's'), ("output-delimiter", outputLetter),
        ("complement", complementLetter), ("zero-terminated", 'z')]
      check := cutFault? } 1
    fun name given => do
      let lists := given.options.filter fun option => listLetters.contains option.1
      let delimiter := (given.value? 'd').map fun value => value.head?.getD '\x00'
      let ofFields := (lists.head?.map (·.1)) = some 'f'
      match lists with
      | [] => misuse 1 name "you must specify a list of bytes, characters, or fields"
      | (_, places) :: _ =>
          if !ofFields && delimiter.isSome then
            misuse 1 name "an input delimiter may be specified only when operating on fields"
          else if !ofFields && given.has 's' then
            misuse 1 name
              "suppressing non-delimited lines makes sense\n\tonly when operating on fields"
          else
            match readPlaces ofFields places with
            | .error complaint => misuse 1 name complaint
            | .ok ranges =>
                let keeps := fun (place : Nat) => inRanges ranges place != given.has complementLetter
                let ending := if given.has 'z' then '\x00' else '\n'
                let mark := delimiter.getD '\t'
                let joint := (given.value? outputLetter).getD (if ofFields then [mark] else [])
                let shown := fun (line : ByteText) =>
                  if !ofFields then some (ByteText.join joint (placedParts keeps line))
                  else if line.contains mark then
                    let fields := (ByteText.split mark line).zipIdx.filter fun (_, index) =>
                      keeps (index + 1)
                    some (ByteText.join joint (fields.map (·.1)))
                  else if given.has 's' then none
                  else some line
                forOperands given.inputs fun operand => do
                  match ← readOperand operand with
                  | .error cause => giveUp 1 s!"{name}: {bare operand}: {cause.reason}"
                  | .ok content => do
                      Task.print (joinRecords ending ((records ending content).filterMap shown))
                      return 0

end CallAtlas.Script.Utility
