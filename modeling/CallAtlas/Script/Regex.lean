import CallAtlas.Script.Pattern

/-!
Regular expressions, in the basic and the extended spelling, and the longest match of
one in a line.
-/

namespace CallAtlas.Script

inductive Regex where
  | empty
  | one (accepts : Char → Bool)
  | lineStart
  | lineEnd
  | wordEdge
  | wordStart
  | wordEnd
  | noEdge
  | noWordBefore
  | noWordBehind
  | group (number : Nat) (inner : Regex)
  | again (number : Nat)
  | sequence (first second : Regex)
  | choice (first second : Regex)
  | repeated (least : Nat) (most : Option Nat) (inner : Regex)

namespace Regex

structure Spelling where
  isExtended : Bool := false
  isLoose : Bool := false

inductive Fault where
  | unmatchedOpening
  | unmatchedClosing
  | unmatchedBrace
  | unmatchedBracket
  | invalidBounds
  | invalidClass
  | invalidRange
  | invalidReference
  | nothingToRepeat
  | tooBig
  | trailingBackslash

def Fault.message : Fault → String
  | unmatchedOpening => "Unmatched ( or \\("
  | unmatchedClosing => "Unmatched ) or \\)"
  | unmatchedBrace => "Unmatched \\\x7b"
  | unmatchedBracket => "Unmatched [, [^, [:, [., or [="
  | invalidBounds => "Invalid content of \\\x7b\\\x7d"
  | invalidClass => "Invalid character class name"
  | invalidRange => "Invalid range end"
  | invalidReference => "Invalid back reference"
  | nothingToRepeat => "Invalid preceding regular expression"
  | tooBig => "Regular expression too big"
  | trailingBackslash => "Trailing backslash"

structure Reading where
  rest : List Char
  groups : Nat := 0
  closed : List Nat := []
  spelling : Spelling

abbrev Read := StateT Reading (Except Fault)

def drop (count : Nat) : Read Unit :=
  modify fun reading => { reading with rest := reading.rest.drop count }

/-- Whether an operator stands here; the basic spelling has a backslash before it. -/
def atOperator (c : Char) : Read Bool := do
  let reading ← get
  if reading.spelling.isExtended then return reading.rest.head? = some c
  else return reading.rest.take 2 = ['\\', c]

def acceptOperator (c : Char) : Read Bool := do
  if ← atOperator c then
    drop (if (← get).spelling.isExtended then 1 else 2)
    return true
  else return false

def number : Read (Option Nat) := do
  let reading ← get
  let digits := reading.rest.takeWhile Char.isDigit
  drop digits.length
  return if digits.isEmpty then none else some (digits.foldl (fun n c => n * 10 + (c.toNat - 48)) 0)

def isWithin (part : List Char) : List Char → Bool
  | [] => part.isEmpty
  | c :: rest => part.isPrefixOf (c :: rest) || isWithin part rest

def maxRepetitions : Nat := 32767

def bounds : Read (Nat × Option Nat) := do
  let closing := if (← get).spelling.isExtended then ['\x7d'] else ['\\', '\x7d']
  let fault : Fault := if isWithin closing (← get).rest then .invalidBounds else .unmatchedBrace
  let least ← number
  if (← get).rest.head? = some ',' then
    drop 1
    let most ← number
    unless ← acceptOperator '\x7d' do throw fault
    if most.any (· < least.getD 0) then throw .invalidBounds
    if maxRepetitions < most.getD (least.getD 0) then throw .tooBig
    return (least.getD 0, most)
  else
    unless ← acceptOperator '\x7d' do throw fault
    if least.isNone then throw .invalidBounds
    if maxRepetitions < least.getD 0 then throw .tooBig
    return (least.getD 0, least)

def isBounds (text : List Char) : Bool :=
  let behind := text.dropWhile fun c => c.isDigit || c = ','
  text.any (fun c => c.isDigit || c = ',') && behind.head? = some '\x7d' && text.head? ≠ some '\x7d'

def atBounds : Read Bool := do
  -- In the loose spelling, what is none stands for itself.
  let reading ← get
  if reading.spelling.isExtended && reading.spelling.isLoose then
    return reading.rest.head? = some '\x7b' && isBounds (reading.rest.drop 1)
  else atOperator '\x7b'

def repetitions : Nat → Regex → Read Regex
  | 0, regex => return regex
  | bound + 1, regex => do
      let reading ← get
      if reading.rest.head? = some '*' then
        drop 1
        repetitions bound (.repeated 0 none regex)
      else if ← acceptOperator '+' then repetitions bound (.repeated 1 none regex)
      else if ← acceptOperator '?' then repetitions bound (.repeated 0 (some 1) regex)
      else if ← atBounds then
        discard (acceptOperator '\x7b')
        let (least, most) ← bounds
        repetitions bound (.repeated least most regex)
      else return regex

def isWordChar (c : Char) : Bool := isNameChar c

def escapedClass (c : Char) : Option (Char → Bool) :=
  match c with
  | 'w' => some isWordChar
  | 'W' => some (!isWordChar ·)
  | 's' => some fun x => x = ' ' || (9 ≤ x.toNat && x.toNat ≤ 13)
  | 'S' => some fun x => !(x = ' ' || (9 ≤ x.toNat && x.toNat ≤ 13))
  | _ => none

def escapedChar (c : Char) : Char :=
  match c with
  | 'n' => '\n'
  | 't' => '\t'
  | _ => c

def escapedPlace (c : Char) : Option Regex :=
  match c with
  | 'b' => some .wordEdge
  | 'B' => some .noEdge
  | '<' => some .wordStart
  | '>' => some .wordEnd
  | '\x60' => some .lineStart
  | '\'' => some .lineEnd
  | _ => none

def marked? (mark : Char) : List Char → Option (List Char × List Char)
  | first :: second :: rest =>
      if first = mark && second = ']' then some ([], rest)
      else (marked? mark (second :: rest)).map fun (inner, behind) => (first :: inner, behind)
  | _ => none

/-- The members of a set between brackets, from one of them on; `isFirst` tells that a bracket would
be one. -/
def members : Nat → Bool → (Char → Bool) → List Char → Except Fault ((Char → Bool) × List Char)
  -- The bound is on the length of the text.
  | 0, _, _, _ => .error .unmatchedBracket
  | _, _, _, [] => .error .unmatchedBracket
  | bound + 1, isFirst, accepts, c :: rest =>
      let add := fun (more : Char → Bool) (behind : List Char) =>
        members bound false (fun x => accepts x || more x) behind
      let single := fun (c : Char) (rest : List Char) =>
        match rest with
        | '-' :: last :: behind =>
            if last = ']' then add (· = c) rest
            else if last < c then Except.error Fault.invalidRange
            else add (fun x => c ≤ x && x ≤ last) behind
        | _ => add (· = c) rest
      if c = ']' && !isFirst then .ok (accepts, rest)
      else if c = '[' then
        match rest with
        | ':' :: inside =>
            match marked? ':' inside with
            | none => .error .unmatchedBracket
            | some (name, behind) =>
                match Pattern.classes.lookup (String.ofList name) with
                | some holds => add holds behind
                | none => .error .invalidClass
        | '=' :: inside =>
            match marked? '=' inside with
            | some ([x], behind) => add (· = x) behind
            | _ => .error .unmatchedBracket
        | '.' :: inside =>
            match marked? '.' inside with
            | some ([x], behind) => single x behind
            | _ => .error .unmatchedBracket
        | _ => single c rest
      else single c rest

def brackets : Read Regex := do
  let reading ← get
  let (isNegated, text) := match reading.rest with
    | '^' :: rest => (true, rest)
    | rest => (false, rest)
  let (accepts, behind) ← members (text.length + 1) true (fun _ => false) text
  set { reading with rest := behind }
  return .one fun c => accepts c != isNegated

def atRepetition : Read Bool := do
  let reading ← get
  if reading.spelling.isExtended then
    return reading.rest.head? = some '*' || (← atOperator '+') || (← atOperator '?') ||
      (← atBounds)
  else atOperator '\x7b'

mutual

def alternatives : Nat → Read Regex
  | 0 => throw .unmatchedOpening
  | bound + 1 => do
      let first ← concatenation bound true
      if ← acceptOperator '|' then return .choice first (← alternatives bound)
      else return first

/-- Expressions one behind the other; the first one may be anchored. -/
def concatenation : Nat → Bool → Read Regex
  | 0, _ => throw .unmatchedOpening
  | bound + 1, first => do
      let reading ← get
      let isInner := reading.closed.length < reading.groups
      let isClosing := (← atOperator ')') &&
        (isInner || !(reading.spelling.isExtended && reading.spelling.isLoose))
      if reading.rest.isEmpty || (← atOperator '|') || isClosing then return .empty
      else
        let head ← piece bound first
        let rest ← concatenation bound false
        return .sequence head rest

def piece : Nat → Bool → Read Regex
  | 0, _ => throw .unmatchedOpening
  | bound + 1, first => do
      let reading ← get
      let size := reading.rest.length + 1
      if ← acceptOperator '(' then
        let groups := (← get).groups + 1
        modify fun reading => { reading with groups }
        let inner ← alternatives bound
        unless ← acceptOperator ')' do throw .unmatchedOpening
        modify fun reading => { reading with closed := groups :: reading.closed }
        repetitions size (.group groups inner)
      else if first && (← atRepetition) then
        if reading.spelling.isExtended && reading.spelling.isLoose then repetitions size .empty
        else throw .nothingToRepeat
      else
        match reading.rest with
        | [] => return .empty
        | ['\\'] => throw .trailingBackslash
        | '\\' :: c :: _ => do
            drop 2
            if c.isDigit && c ≠ '0' then
              let group := c.toNat - '0'.toNat
              unless reading.closed.contains group do throw .invalidReference
              repetitions size (.again group)
            else
              match escapedPlace c with
              | some place => return place
              | none =>
                  let meant := if reading.spelling.isLoose then c else escapedChar c
                  repetitions size (.one ((escapedClass c).getD (· = meant)))
        | c :: behind => do
            drop 1
            let isEnd := behind.isEmpty || behind.take 2 = ['\\', ')'] ||
              behind.take 2 = ['\\', '|']
            if c = '[' then repetitions size (← brackets)
            else if c = '.' then repetitions size (.one fun _ => true)
            else if c = '^' && (first || reading.spelling.isExtended) then return .lineStart
            else if c = '$' && (isEnd || reading.spelling.isExtended) then return .lineEnd
            else repetitions size (.one (· = c))

end

/-- Operators of an expression in the extended spelling that have nothing to apply to, at whose
start it stands or not. -/
def lonelyOperators : Nat → Bool → List Char → List String
  -- The bound is on its length.
  | 0, _, _ => []
  | _, _, [] => []
  | bound + 1, atStart, c :: rest =>
      let here := fun (operator : String) => if atStart then [operator] else []
      match c with
      | '\\' =>
          let keeps := (rest.head?.bind escapedPlace).isSome
          lonelyOperators bound (atStart && keeps) (rest.drop 1)
      | '[' =>
          let inside := if rest.head? = some '^' then rest.drop 1 else rest
          match members (inside.length + 1) true (fun _ => false) inside with
          | .ok (_, behind) => lonelyOperators bound false behind
          | .error _ => []
      | '\x7b' =>
          if isBounds rest then
            here "\x7b...\x7d" ++
              lonelyOperators bound false ((rest.dropWhile (· ≠ '\x7d')).drop 1)
          else lonelyOperators bound false rest
      | _ =>
          if c = '*' || c = '+' || c = '?' then
            here (String.ofList [c]) ++ lonelyOperators bound atStart rest
          else
            let starts := c = '(' || c = '|' || (atStart && (c = '^' || c = '$'))
            lonelyOperators bound starts rest

def parse (spelling : Spelling) (text : ByteText) : Except Fault Regex := do
  let (regex, reading) ← (alternatives (3 * text.length + 3)).run { rest := text, spelling }
  if !reading.rest.isEmpty then throw .unmatchedClosing
  return regex

def groupCount : Regex → Nat
  | .group number inner => max number (groupCount inner)
  | .sequence first second => max (groupCount first) (groupCount second)
  | .choice first second => max (groupCount first) (groupCount second)
  | .repeated _ _ inner => groupCount inner
  | _ => 0

def ofText (text : ByteText) : Regex :=
  text.foldr (fun c rest => .sequence (.one (· = c)) rest) .empty

structure State where
  position : Nat
  groups : List (Nat × Nat × Nat) := []

structure Subject where
  text : Array Char
  ignoreCase : Bool := false

namespace Subject

def charAt (subject : Subject) (position : Nat) : Option Char := subject.text[position]?

def slice (subject : Subject) (first last : Nat) : ByteText :=
  (subject.text.extract first last).toList

def accepts (subject : Subject) (kind : Char → Bool) (c : Char) : Bool :=
  kind c || (subject.ignoreCase && (kind c.toLower || kind c.toUpper))

def isWordBefore (subject : Subject) (state : State) : Bool :=
  0 < state.position && (subject.charAt (state.position - 1)).any isWordChar

def isWordAt (subject : Subject) (state : State) : Bool :=
  (subject.charAt state.position).any isWordChar

end Subject

def hasReference : Regex → Bool
  | .again _ => true
  | .group _ inner => hasReference inner
  | .sequence first second => hasReference first || hasReference second
  | .choice first second => hasReference first || hasReference second
  | .repeated _ _ inner => hasReference inner
  | _ => false

def Subject.merge (subject : Subject) (countsGroups : Bool) (states : List State) : List State :=
  let step := fun (held : Array Bool × List State) (state : State) =>
    let (isSeen, kept) := held
    if isSeen.getD state.position false then held
    else (isSeen.setIfInBounds state.position true, state :: kept)
  match states with
  | [] => []
  | [state] => [state]
  | _ =>
      if countsGroups then states
      else (states.foldl step (Array.replicate (subject.text.size + 1) false, [])).2.reverse

def run (subject : Subject) (countsGroups : Bool) : Nat → Regex → State → List State
  | 0, _, _ => []
  | fuel + 1, regex, state =>
      match regex with
      | .empty => [state]
      | .one kind =>
          match subject.charAt state.position with
          | some c =>
              if subject.accepts kind c then [{ state with position := state.position + 1 }] else []
          | none => []
      | .lineStart => if state.position = 0 then [state] else []
      | .lineEnd => if state.position = subject.text.size then [state] else []
      | .wordEdge => if subject.isWordBefore state != subject.isWordAt state then [state] else []
      | .wordStart =>
          if !subject.isWordBefore state && subject.isWordAt state then [state] else []
      | .wordEnd => if subject.isWordBefore state && !subject.isWordAt state then [state] else []
      | .noEdge => if subject.isWordBefore state == subject.isWordAt state then [state] else []
      | .noWordBefore => if subject.isWordBefore state then [] else [state]
      | .noWordBehind => if subject.isWordAt state then [] else [state]
      | .group number inner =>
          (run subject countsGroups fuel inner state).map fun after =>
            { after with groups := (number, state.position, after.position) :: after.groups }
      | .again number =>
          match state.groups.lookup number with
          | none => []
          | some (first, last) =>
              let wanted := subject.slice first last
              let size := last - first
              if subject.slice state.position (state.position + size) = wanted then
                [{ state with position := state.position + size }]
              else []
      | .sequence first second =>
          subject.merge countsGroups
            ((run subject countsGroups fuel first state).flatMap
              (run subject countsGroups fuel second))
      | .choice first second =>
          subject.merge countsGroups
            (run subject countsGroups fuel first state ++ run subject countsGroups fuel second state)
      | .repeated least most inner =>
          let goOn := fun (after : State) =>
            if after.position = state.position && least = 0 then []
            else run subject countsGroups fuel (.repeated (least - 1) (most.map (· - 1)) inner) after
          let more :=
            if most = some 0 then []
            else
              match run subject countsGroups fuel inner state with
              | [after] => goOn after
              | several => subject.merge countsGroups (several.flatMap goOn)
          if least = 0 then more ++ [state] else more

structure Match where
  first : Nat
  last : Nat
  groups : List (Nat × Nat × Nat)

def matchAt (regex : Regex) (subject : Subject) (position : Nat) : Option Match :=
  let ends := run subject regex.hasReference (8 * (subject.text.size + 64)) regex { position }
  let best := ends.foldl (fun (best : Option State) state =>
    match best with
    | none => some state
    | some found => if found.position < state.position then some state else best) none
  best.map fun state => ⟨position, state.position, state.groups⟩

def find (regex : Regex) (subject : Subject) (start : Nat) : Option Match :=
  (List.range (subject.text.size + 1 - start)).findSome? fun step =>
    matchAt regex subject (start + step)

def isIn (regex : Regex) (ignoreCase : Bool) (line : ByteText) : Bool :=
  (regex.find { text := line.toArray, ignoreCase } 0).isSome

end Regex

end CallAtlas.Script
