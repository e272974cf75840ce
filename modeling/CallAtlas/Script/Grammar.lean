import CallAtlas.Script.Token

/-!
The grammar of shell scripts. A script is read one complete command at a time, so
that the commands before a fault can run. What nests is read by a grammar for one
level less.
-/

namespace CallAtlas.Script

inductive Context where
  | bare
  | quotes
  | braces (quoted : Bool)
  | document
  | ending (quoted : Bool)
  deriving DecidableEq

namespace Context

def isQuoted : Context → Bool
  | bare => false
  | quotes => true
  | braces quoted => quoted
  | document => true
  | ending quoted => quoted

def isBreak (c : Char) : Bool :=
  c = '\n' || c = ' ' || c = '\t' || c = ';' || c = '&' || c = '|' || c = '<' || c = '>' ||
    c = '(' || c = ')'

def isExpanding (c : Char) : Bool := c = '$' || c = '\x60'

def isSpecial (context : Context) (c : Char) : Bool :=
  c = '\\' || c = '\n' ||
    match context with
    | bare => isExpanding c || c = '\'' || c = '"' || isBreak c
    | quotes => isExpanding c || c = '"'
    | braces quoted => isExpanding c || c = '"' || c = '\x7d' || (c = '\'' && !quoted)
    | document => isExpanding c
    | ending false => c = '\'' || c = '"' || isBreak c
    | ending true => c = '"'

def isEnd (context : Context) (c : Char) : Bool :=
  match context with
  | bare => isBreak c
  | quotes => c = '"'
  | braces _ => c = '\x7d'
  | document => false
  | ending false => isBreak c
  | ending true => c = '"'

def inQuotes : Context → Context
  | ending _ => ending true
  | _ => quotes

def escapes (context : Context) (c : Char) : Bool :=
  match context with
  | bare => true
  | braces false => true
  | ending false => true
  | quotes | ending true => c = '\\' || c = '$' || c = '\x60' || c = '"'
  | braces true => c = '\\' || c = '$' || c = '\x60' || c = '"' || c = '\x7d'
  | document => c = '\\' || c = '$' || c = '\x60'

end Context

inductive Extent where
  | line
  | block
  | optionalBlock
  deriving DecidableEq

structure Grammar where
  commands : Extent → Scan Command
  parts : Context → Scan (List Part)

namespace Grammar

def isSpecialParameter (c : Char) : Bool :=
  c = '@' || c = '*' || c = '#' || c = '?' || c = '-' || c = '$' || c = '!'

def backquoted (quoted : Bool) : List Char → Option (List Char × List Char)
  | [] => none
  | '\x60' :: rest => some ([], rest)
  | '\\' :: '\n' :: rest => backquoted quoted rest
  | '\\' :: c :: rest =>
      (backquoted quoted rest).map fun (text, behind) =>
        if c = '\\' || c = '\x60' || c = '$' || (c = '"' && quoted) then (c :: text, behind)
        else ('\\' :: c :: text, behind)
  | c :: rest => (backquoted quoted rest).map fun (text, behind) => (c :: text, behind)

/-- A command between backquotes, behind the first of them. -/
def backquote (grammar : Grammar) (quoted : Bool) : Scan (List Part) := do
  -- Its lines are counted anew.
  let source ← get
  match backquoted quoted source.rest with
  | none =>
      throw ⟨source.line + source.rest.count '\n', "EOF in backquote substitution"⟩
  | some (text, rest) =>
      let inner := { Source.ofText text with aliases := source.aliases }
      match (grammar.commands .optionalBlock).run inner with
      | .error fault => throw fault
      | .ok (body, _) =>
          let line := source.line + source.rest.count '\n' - rest.count '\n'
          set { source with rest, line }
          return [.output body quoted]

def arithmetic (grammar : Grammar) (single : Scan (List Part)) :
    Nat → Nat → Scan (List Part)
  | 0, _ => Scan.fail "Missing '))'"
  | bound + 1, level => do
      match (← get).rest with
      | [] => Scan.fail "Missing '))'"
      | '(' :: _ => do
          Scan.advance
          return .literal ['('] true :: (← arithmetic grammar single bound (level + 1))
      | ')' :: rest =>
          if 0 < level then
            Scan.advance
            return .literal [')'] true :: (← arithmetic grammar single bound (level - 1))
          else if rest.head? = some ')' then
            Scan.advance
            Scan.advance
            return []
          else
            Scan.advance
            return .literal [')'] true :: (← arithmetic grammar single bound 0)
      | _ =>
          let first ← single
          return first ++ (← arithmetic grammar single bound level)

def unclosed {α : Type} (quoted : Bool) : Scan α := do
  -- In a here-document, quotes are only in braces.
  let isOutside := (← get).document?.isNone
  Scan.fail (if quoted && isOutside then "Unterminated quoted string" else "Missing '\x7d'")

def bracedWord (grammar : Grammar) (inQuotes quoted : Bool) : Scan (List Part) := do
  let parts ← grammar.parts (.braces quoted)
  if ← Scan.accept '\x7d' then return parts else unclosed inQuotes

def skipBraces (grammar : Grammar) (quoted : Bool) : Scan Unit := do
  discard (bracedWord grammar quoted quoted)

def parameterUse (grammar : Grammar) (quoted : Bool) : Scan Use := do
  let ifEmpty ← Scan.accept ':'
  match ← Scan.peek with
  | some '-' => do
      Scan.advance
      return .substitute .use ifEmpty (← bracedWord grammar quoted quoted)
  | some '=' => do
      Scan.advance
      return .substitute .assign ifEmpty (← bracedWord grammar quoted quoted)
  | some '?' => do
      Scan.advance
      return .substitute .complain ifEmpty (← bracedWord grammar quoted quoted)
  | some '+' => do
      Scan.advance
      return .substitute .alternative ifEmpty (← bracedWord grammar quoted quoted)
  | some c =>
      if c = '\x7d' && !ifEmpty then
        Scan.advance
        return .value
      else if (c = '%' || c = '#') && !ifEmpty then
        Scan.advance
        let longest ← Scan.accept c
        return .trim (c = '%') longest (← bracedWord grammar quoted false)
      else
        modify fun source => { source with rest := source.rest.tail }
        skipBraces grammar quoted
        return if c = '\x7d' then .value else .malformed
  | none => unclosed quoted

def bracedName : Scan (List Char) := do
  match ← Scan.peek with
  | some c =>
      if isNameStart c then Scan.takeName isNameChar (← Scan.room)
      else if c.isDigit then Scan.takeName Char.isDigit (← Scan.room)
      else if isSpecialParameter c then
        Scan.advance
        return [c]
      else return []
  | none => return []

def bracedParameter (grammar : Grammar) (quoted : Bool) : Scan (List Part) := do
  let source ← get
  let isLength := match source.rest with
    | '#' :: c :: behind =>
        isNameChar c || (isSpecialParameter c && behind.head? = some '\x7d')
    | _ => false
  if isLength then
    Scan.advance
    let name ← bracedName
    if ← Scan.accept '\x7d' then return [.parameter (String.ofList name) .length quoted]
    else
      skipBraces grammar quoted
      return [.parameter (String.ofList name) .malformed quoted]
  else
    let name ← bracedName
    let use ← parameterUse grammar quoted
    return [.parameter (String.ofList name) (if name.isEmpty then .malformed else use) quoted]

def dollar (grammar : Grammar) (quoted : Bool) (single : Scan (List Part)) :
    Scan (List Part) := do
  match ← Scan.peek with
  | some '(' => do
      Scan.advance
      if ← Scan.accept '(' then
        let bound := (← get).room + 1
        return [.arithmetic (← arithmetic grammar single bound 0) quoted]
      else
        let source ← get
        set { source with documents := 0, documentFault? := none, document? := none }
        let body ← grammar.commands .optionalBlock
        let after ← get
        match after.pushed with
        | some .rightParenthesis => do
            set { after with
              pushed := none
              documents := source.documents
              documentFault? := source.documentFault?
              document? := source.document? }
            return [.output body quoted]
        | some token => Scan.expecting token .rightParenthesis
        | none => Scan.fail "end of file unexpected"
  | some '\x7b' => do
      Scan.advance
      bracedParameter grammar quoted
  | some c =>
      if isNameStart c then
        let name ← Scan.takeName isNameChar (← Scan.room)
        return [.parameter (String.ofList name) .value quoted]
      else if c.isDigit || isSpecialParameter c then
        Scan.advance
        return [.parameter c.toString .value quoted]
      else return [.literal ['$'] quoted]
  | none => return [.literal ['$'] quoted]

def singleQuoted : Scan (List Part) := do
  let text ← Scan.takeWhile (· ≠ '\'')
  modify fun source => { source with line := source.line + text.count '\n' }
  if (← Scan.peekRaw).isNone then unclosed true
  Scan.advance
  return [.quotes, .literal text true]

/-- Parts between quotes, which make a field; alone, the list of all arguments makes none if there
are none. -/
def inQuotes : List Part → List Part
  | [.parameter "@" .value quoted] => [.parameter "@" .value quoted]
  | parts => .quotes :: parts ++ [.quotes]

def doubleQuoted (grammar : Grammar) (context : Context) : Scan (List Part) := do
  let parts ← grammar.parts context.inQuotes
  if (← Scan.peekRaw) = some '"' then
    Scan.advance
    return inQuotes parts
  else unclosed true

def escaped (context : Context) : Scan (List Part) := do
  match ← Scan.peekRaw with
  | none => return [.literal ['\\'] context.isQuoted]
  | some '\n' => do
      Scan.advance
      return []
  | some c =>
      if context.escapes c then
        Scan.advance
        return [.literal [c] true]
      else return [.literal ['\\'] true]

def next (grammar : Grammar) (context : Context) : Nat → Scan (Option (List Part))
  | 0 => return none
  | bound + 1 => do
      match ← Scan.peekRaw with
      | none => return none
      | some c =>
          if context.isEnd c then return none
          else if !context.isSpecial c then
            return some [.literal (← Scan.takeWhile (!context.isSpecial ·)) context.isQuoted]
          else
            Scan.advance
            if c = '\\' then return some (← escaped context)
            else if c = '$' then
              let single := do
                return (← next grammar .quotes bound).getD [.literal ['"'] true]
              return some (← dollar grammar context.isQuoted
                (do if (← Scan.peekRaw) = some '"' then
                      Scan.advance
                      return if (← get).document?.isSome then [.literal ['"'] true] else []
                    else arithmeticPart single))
            else if c = '\x60' then return some (← backquote grammar context.isQuoted)
            else if c = '\'' then return some (← singleQuoted)
            else if c = '"' then return some (← doubleQuoted grammar context)
            else
              Scan.beginLine
              return some [.literal [c] context.isQuoted]
where
  arithmeticPart (single : Scan (List Part)) : Scan (List Part) := do
    let isPlain := fun (c : Char) =>
      !Context.quotes.isSpecial c && c ≠ '(' && c ≠ ')'
    let text ← Scan.takeWhile isPlain
    if text.isEmpty then single else return [.literal text true]

def partsOf (grammar : Grammar) (context : Context) : Nat → Scan (List Part)
  | 0 => return []
  | bound + 1 => do
      match ← next grammar context (bound + 1) with
      | none => return []
      | some parts => return parts ++ (← partsOf grammar context bound)

def readParts (grammar : Grammar) (context : Context) : Scan (List Part) := do
  partsOf grammar context ((← get).room + 1)

def redirector (given : Option Nat) : Scan Token := do
  if ← Scan.accept '>' then
    let descriptor := given.getD 1
    if ← Scan.accept '>' then return .redirection descriptor (.openFile .append)
    else if ← Scan.accept '|' then return .redirection descriptor (.openFile .replace)
    else if ← Scan.accept '&' then return .redirection descriptor .duplicate
    else return .redirection descriptor (.openFile .write)
  else
    Scan.advance
    let descriptor := given.getD 0
    if ← Scan.accept '<' then return .redirection descriptor (.document (← Scan.accept '-'))
    else if ← Scan.accept '&' then return .redirection descriptor .duplicate
    else if ← Scan.accept '>' then return .redirection descriptor (.openFile .readWrite)
    else return .redirection descriptor (.openFile .read)

def tokenIn (context : Context) (grammar : Grammar) : Scan Token := do
  match (← get).pushed with
  | some pushed => do
      modify fun source => { source with pushed := none }
      return pushed
  | none =>
      Scan.skipBlanks
      match (← get).rest with
      | [] => return .endOfFile
      | '\n' :: _ => do
          Scan.endLine
          return .newline
      | '&' :: _ => do
          Scan.advance
          return if ← Scan.accept '&' then .both else .background
      | '|' :: _ => do
          Scan.advance
          return if ← Scan.accept '|' then .either else .pipe
      | ';' :: _ => do
          Scan.advance
          return if ← Scan.accept ';' then .endCase else .semicolon
      | '(' :: _ => do
          Scan.advance
          return .leftParenthesis
      | ')' :: _ => do
          Scan.advance
          return .rightParenthesis
      | '<' :: _ => redirector none
      | '>' :: _ => redirector none
      | c :: d :: _ =>
          if c.isDigit && (d = '<' || d = '>') then
            Scan.advance
            redirector (some (c.toNat - '0'.toNat))
          else return .word (← readParts grammar context)
      | _ => return .word (← readParts grammar context)

def token (grammar : Grammar) : Scan Token := tokenIn .bare grammar

def skipLine (grammar : Grammar) : Nat → Scan Unit
  | 0 => return
  | bound + 1 => do
      match ← token grammar with
      | .newline | .endOfFile => return
      | _ => skipLine grammar bound

def document (grammar : Grammar) (form : DocumentForm) (isQuoted : Bool) : Scan (List Part) := do
  -- What is wrong with that line is left for later.
  let source ← get
  match (skipLine grammar (source.room + 1)).run source with
  | .error _ => return []
  | .ok (_, start) =>
      if isQuoted then
        let (body, behind) := form.split (ByteText.split '\n' start.rest)
        let left := ByteText.join ['\n'] behind
        set { source with documents := source.documents + (start.rest.length - left.length) }
        return [.literal body true]
      else
        let read := do
          Scan.beginLine
          grammar.parts .document
        match read.run { start with document? := some form } with
        | .error fault => do
            set { source with documentFault? := some fault }
            return []
        | .ok (parts, last) => do
            let size := start.rest.length - last.behind.length
            set { source with documents := source.documents + size }
            return parts

def tokenAcrossLines (grammar : Grammar) : Nat → Scan Token
  | 0 => return .endOfFile
  | bound + 1 => do
      match ← token grammar with
      | .newline => tokenAcrossLines grammar bound
      | other => return other

def keywordOrWord (grammar : Grammar) : Scan Token := do
  return (← tokenAcrossLines grammar (← Scan.room)).asKeyword

def withAliases (read : Scan Token) : Nat → Scan Token
  | 0 => read
  | bound + 1 => do
      let token ← read
      if ← Scan.replaceAlias token then withAliases read bound else return token

def opening (grammar : Grammar) : Scan Token := do
  withAliases (keywordOrWord grammar) (← Scan.room)

def start (grammar : Grammar) : Scan Token := do
  withAliases (Token.asKeyword <$> token grammar) (← Scan.room)

def redirection (grammar : Grammar) (descriptor : Nat) (operator : Redirector) :
    Scan Redirection := do
  let context := match operator with
    | .document _ => .ending false
    | _ => .bare
  match ← tokenIn context grammar with
  | .word target =>
      match operator with
      | .openFile mode => return .openFile descriptor mode target
      | .duplicate => return .duplicate descriptor target
      | .document stripTabs => do
          let form := { stripTabs, ending := target.unquoted }
          return .document descriptor (← document grammar form target.isQuoted)
  | other => Scan.unexpected other

def redirections (grammar : Grammar) : Nat → Scan (List Redirection)
  | 0 => return []
  | bound + 1 => do
      match ← token grammar with
      | .redirection descriptor operator => do
          let first ← redirection grammar descriptor operator
          return first :: (← redirections grammar bound)
      | other => do
          Scan.push other.asKeyword
          return []

structure Elements where
  assignments : List (String × Word) := []
  words : List Word := []
  redirections : List Redirection := []

def specialBuiltins : List String :=
  [".", ":", "break", "continue", "eval", "exec", "exit", "export", "local", "readonly", "return",
    "set", "shift", "times", "trap", "unset"]

def functionBody (grammar : Grammar) (command : Token → Scan Command) (name : Word) :
    Scan Command := do
  match ← token grammar with
  | .rightParenthesis =>
      match name.plain? with
      | some text =>
          if !isName text || specialBuiltins.contains (String.ofList text) then
            Scan.fail "Bad function name"
          else return .function (String.ofList text) (← command (← opening grammar))
      | none => Scan.fail "Bad function name"
  | other => Scan.expecting other .rightParenthesis

def simple (grammar : Grammar) (command : Token → Scan Command) (line : Nat) :
    Nat → Elements → Scan Command
  | 0, _ => Scan.fail "command too long"
  | bound + 1, elements => do
      let next ← if elements.words.isEmpty then withAliases (token grammar) (← Scan.room)
        else token grammar
      match next with
      | .word word =>
          match if elements.words.isEmpty then word.assignment? else none with
          | some assignment =>
              simple grammar command line bound
                { elements with assignments := assignment :: elements.assignments }
          | none =>
              simple grammar command line bound { elements with words := word :: elements.words }
      | .redirection descriptor operator => do
          let next ← redirection grammar descriptor operator
          simple grammar command line bound
            { elements with redirections := next :: elements.redirections }
      | other =>
          match other, elements with
          | .leftParenthesis, { assignments := [], words := [name], redirections := [] } =>
              functionBody grammar command name
          | _, _ => do
              Scan.push other
              return .simple line elements.assignments.reverse elements.words.reverse
                elements.redirections.reverse

def expectKeyword (grammar : Grammar) (name : String) : Scan Unit := do
  let found ← opening grammar
  unless found.isKeyword name do Scan.expecting found (.keyword name)

def branches (grammar : Grammar) : Nat → Scan Command
  | 0 => Scan.fail "command too long"
  | bound + 1 => do
      let condition ← grammar.commands .block
      expectKeyword grammar "then"
      let consequence ← grammar.commands .block
      match ← opening grammar with
      | .keyword "elif" => do
          return .conditional condition consequence (← branches grammar bound)
      | .keyword "else" => do
          let alternative ← grammar.commands .block
          expectKeyword grammar "fi"
          return .conditional condition consequence alternative
      | .keyword "fi" => return .conditional condition consequence .nothing
      | other => Scan.expecting other (.keyword "fi")

/-- A word that must stand here; keywords are words too. -/
def anyWord (token : Token) : Scan Word :=
  match token with
  | .word word => return word
  | .keyword name => return [.literal name.toList false]
  | other => Scan.expecting other .rightParenthesis

def patterns (grammar : Grammar) : Nat → Token → Scan (List Word)
  | 0, _ => return []
  | bound + 1, first => do
      let word ← anyWord first
      match ← token grammar with
      | .pipe => return word :: (← patterns grammar bound (← token grammar))
      | .rightParenthesis => return [word]
      | other => Scan.expecting other .rightParenthesis

def cases (grammar : Grammar) : Nat → Scan (List (List Word × Command))
  | 0 => Scan.fail "command too long"
  | bound + 1 => do
      match ← keywordOrWord grammar with
      | .keyword "esac" => return []
      | first => do
          let first ← match first with
            | .leftParenthesis => token grammar
            | other => pure other
          let patterns ← patterns grammar (← Scan.room) first
          let body ← grammar.commands .optionalBlock
          match ← opening grammar with
          | .keyword "esac" => return [(patterns, body)]
          | .endCase => return (patterns, body) :: (← cases grammar bound)
          | other => Scan.expecting other .endCase

def loopWords (grammar : Grammar) : Nat → Scan (List Word)
  | 0 => return []
  | bound + 1 => do
      match ← token grammar with
      | .word word => return word :: (← loopWords grammar bound)
      | .newline => return []
      | .semicolon => return []
      | other => Scan.unexpected other

def loopBody (grammar : Grammar) : Scan Command := do
  expectKeyword grammar "do"
  let body ← grammar.commands .block
  expectKeyword grammar "done"
  return body

def forLoop (grammar : Grammar) (line : Nat) : Scan Command := do
  match ← token grammar with
  | .word word =>
      match word.plain? with
      | some text => do
          unless isName text do Scan.fail "Bad for loop variable"
          let bound ← Scan.room
          let words ← match ← opening grammar with
            | .keyword "in" => some <$> loopWords grammar bound
            | .semicolon => pure none
            | other => do
                Scan.push other
                pure none
          return .forEach line (String.ofList text) words (← loopBody grammar)
      | none => Scan.fail "Bad for loop variable"
  | _ => Scan.fail "Bad for loop variable"

def choice (grammar : Grammar) (line : Nat) : Scan Command := do
  match ← token grammar with
  | .word subject => do
      expectKeyword grammar "in"
      return .choice line subject (← cases grammar (← Scan.room))
  | other => Scan.expecting other (.word [])

def compound? (grammar : Grammar) (line : Nat) : Token → Option (Scan Command)
  | .keyword "if" => some (do branches grammar (← Scan.room))
  | .keyword "while" => some do
      let condition ← grammar.commands .block
      return .loop false condition (← loopBody grammar)
  | .keyword "until" => some do
      let condition ← grammar.commands .block
      return .loop true condition (← loopBody grammar)
  | .keyword "for" => some (forLoop grammar line)
  | .keyword "case" => some (choice grammar line)
  | .keyword "\x7b" => some do
      let body ← grammar.commands .block
      expectKeyword grammar "\x7d"
      return body
  | .leftParenthesis => some do
      let body ← grammar.commands .block
      match ← opening grammar with
      | .rightParenthesis => return .subshell line body []
      | other => Scan.expecting other .rightParenthesis
  | _ => none

def withRedirections (line : Nat) (body : Command) : List Redirection → Command
  | [] => body
  | given =>
      match body with
      | .subshell line body _ => .subshell line body given
      | other => .redirected line other given

def command (grammar : Grammar) : Nat → Token → Scan Command
  -- Functions nest so deep at most.
  | 0, _ => Scan.fail "command too long"
  | bound + 1, first => do
      let line := (← get).line
      match compound? grammar line first with
      | some read => do
          let body ← read
          return withRedirections line body
            (← redirections grammar (← Scan.room))
      | none =>
          match first with
          | .word _ => do
              Scan.push first
              simple grammar (command grammar bound) line (← Scan.room) {}
          | .redirection .. => do
              Scan.push first
              simple grammar (command grammar bound) line (← Scan.room) {}
          | other => Scan.unexpected other

def stages (grammar : Grammar) : Nat → Scan (List Command)
  | 0 => return []
  | bound + 1 => do
      match ← token grammar with
      | .pipe => do
          let next ← command grammar (← Scan.room) (← opening grammar)
          return next :: (← stages grammar bound)
      | other => do
          Scan.push other
          return []

def pipeline (grammar : Grammar) (first : Token) : Scan Command := do
  let negated := first.isKeyword "!"
  let first ← if negated then start grammar else pure first
  let head ← command grammar (← Scan.room) first
  let rest ← stages grammar (← Scan.room)
  let body := if rest.isEmpty then head else .pipeline (head :: rest)
  return if negated then .negation body else body

def andOr (grammar : Grammar) : Nat → Command → Scan Command
  | 0, first => return first
  | bound + 1, first => do
      match ← token grammar with
      | .both => do
          andOr grammar bound (.both first (← pipeline grammar (← opening grammar)))
      | .either => do
          andOr grammar bound (.either first (← pipeline grammar (← opening grammar)))
      | other => do
          Scan.push other
          return first

def listFrom (grammar : Grammar) (extent : Extent) : Nat → Bool → Command → Scan Command
  -- The token that ends it is left, except the end of a line.
  | 0, _, before => return before
  | bound + 1, mayEnd, before => do
      let first ← if extent = .line then start grammar else opening grammar
      match first with
      | .newline => return before
      | .endOfFile => do
          Scan.push first
          return before
      | _ =>
          if mayEnd && first.endsList then
            Scan.push first
            return before
          else
            let head ← pipeline grammar first
            let item ← andOr grammar (← Scan.room) head
            let separator ← token grammar
            let item := match separator with
              | .background => .background item
              | _ => item
            let sofar := before.andThen item
            let mayEnd := extent ≠ .line
            match separator with
            | .endOfFile => do
                Scan.push separator
                return sofar
            | .newline =>
                if extent = .line then return sofar
                else listFrom grammar extent bound mayEnd sofar
            | .background => listFrom grammar extent bound mayEnd sofar
            | .semicolon => listFrom grammar extent bound mayEnd sofar
            | other =>
                if extent = .line then Scan.unexpected other
                else do
                  Scan.push other
                  return sofar

def readCommands (grammar : Grammar) (extent : Extent) : Scan Command := do
  listFrom grammar extent (← Scan.room) (extent = .optionalBlock) .nothing

def ofDepth : Nat → Grammar
  | 0 => { commands := fun _ => Scan.fail "nested too deep", parts := fun _ => return [] }
  | depth + 1 =>
      { commands := fun extent source => readCommands (ofDepth depth) extent source
        parts := fun context source => readParts (ofDepth depth) context source }

end Grammar

def maxDepth : Nat := 1000000

def nextCommand (source : Source) : Except Fault (Option (Command × Source)) := do
  let grammar := Grammar.ofDepth maxDepth
  match ← (Grammar.token grammar).run source with
  | (.endOfFile, _) => return none
  | (first, behind) =>
      let (body, rest) ← (grammar.commands .line).run { behind with pushed := some first }
      return some (body, { rest with pushed := none })

def readTemplate (text : ByteText) : Except Fault Word := do
  let (parts, _) ← ((Grammar.ofDepth maxDepth).parts .document).run (.ofText text)
  return parts

end CallAtlas.Script
