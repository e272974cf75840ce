import CallAtlas.Script.Program

/-!
The text of a script while it is read, and the tokens that it is made of.
-/

namespace CallAtlas.Script

inductive Redirector where
  | openFile (mode : OpenMode)
  | duplicate
  | document (stripTabs : Bool)

inductive Token where
  | endOfFile
  | newline
  | semicolon
  | background
  | both
  | either
  | pipe
  | leftParenthesis
  | rightParenthesis
  | endCase
  | redirection (descriptor : Nat) (operator : Redirector)
  | word (word : Word)
  | keyword (name : String)

def keywords : List String :=
  ["!", "case", "do", "done", "elif", "else", "esac", "fi", "for", "if", "in", "then", "until",
    "while", "\x7b", "\x7d"]

namespace Token

def description : Token → String
  | endOfFile => "end of file"
  | newline => "newline"
  | semicolon => "\";\""
  | background => "\"&\""
  | both => "\"&&\""
  | either => "\"||\""
  | pipe => "\"|\""
  | leftParenthesis => "\"(\""
  | rightParenthesis => "\")\""
  | endCase => "\";;\""
  | redirection .. => "redirection"
  | word _ => "word"
  | keyword name => "\"" ++ name ++ "\""

def endsList : Token → Bool
  | endOfFile => true
  | rightParenthesis => true
  | endCase => true
  | keyword name => ["do", "done", "elif", "else", "esac", "fi", "then", "\x7d"].contains name
  | _ => false

def asKeyword : Token → Token
  | word value =>
      match value.plain? with
      | some text =>
          if keywords.contains (String.ofList text) then keyword (String.ofList text)
          else word value
      | none => word value
  | other => other

def isKeyword (token : Token) (name : String) : Bool :=
  match token with
  | keyword given => given = name
  | _ => false

end Token

structure Fault where
  line : Nat
  message : String

structure DocumentForm where
  stripTabs : Bool
  ending : ByteText

structure Source where
  rest : List Char
  room : Nat
  line : Nat := 1
  documents : Nat := 0
  documentFault? : Option Fault := none
  document? : Option DocumentForm := none
  behind : List Char := []
  pushed : Option Token := none
  aliases : List (String × ByteText) := []
  replaced : List (String × Nat) := []

def Source.ofText (text : List Char) : Source := { rest := text, room := text.length }

abbrev Scan := StateT Source (Except Fault)

namespace Scan

def fail {α : Type} (message : String) : Scan α := do
  throw ⟨(← get).line, message⟩

def unexpected {α : Type} (token : Token) : Scan α :=
  fail s!"{token.description} unexpected"

def expecting {α : Type} (token wanted : Token) : Scan α :=
  fail s!"{token.description} unexpected (expecting {wanted.description})"

def joinLines : List Char → Nat → List Char × Nat
  | '\\' :: '\n' :: rest, line => joinLines rest (line + 1)
  | text, line => (text, line)

def peek : Scan (Option Char) := do
  let source ← get
  let (rest, line) := joinLines source.rest source.line
  set { source with rest, line }
  return rest.head?

def peekRaw : Scan (Option Char) := do
  return (← get).rest.head?

/-- Takes a character; a line end is counted. -/
def advance : Scan Unit :=
  modify fun source =>
    match source.rest with
    | [] => source
    | c :: rest => { source with rest, line := if c = '\n' then source.line + 1 else source.line }

def accept (c : Char) : Scan Bool := do
  if (← peek) = some c then
    advance
    return true
  else return false

def takeName (kind : Char → Bool) : Nat → Scan (List Char)
  | 0 => return []
  | bound + 1 => do
      match ← peek with
      | some c =>
          if kind c then
            advance
            return c :: (← takeName kind bound)
          else return []
      | none => return []

def takeWhile (kind : Char → Bool) : Scan (List Char) :=
  modifyGet fun source =>
    (source.rest.takeWhile kind, { source with rest := source.rest.dropWhile kind })

def endLine : Scan Unit := do
  let source ← get
  match source.documentFault? with
  | some fault => throw fault
  | none =>
      let behind := source.rest.drop 1
      let documents := behind.take source.documents
      set { source with
        rest := behind.drop source.documents
        line := source.line + 1 + documents.count '\n'
        documents := 0 }

def push (token : Token) : Scan Unit :=
  modify fun source => { source with pushed := some token }

def room : Scan Nat := do
  let source ← get
  return source.room + (source.aliases.map (·.2.length + 1)).foldr (· + ·) 0 + 2

/-- Puts the text in place that an unquoted word stands for, and tells whether there is one. -/
def replaceAlias (token : Token) : Scan Bool := do
  -- In its own text a name stands for itself.
  match token with
  | .word word =>
      let source ← get
      let name := word.plain?.map String.ofList
      match name, name.bind fun name => source.aliases.lookup name with
      | some name, some text =>
          let left := source.rest.length
          if source.replaced.any fun (other, behind) => other = name && behind ≤ left then
            return false
          else
            set { source with
                  rest := text ++ source.rest
                  room := source.room + text.length
                  replaced := (name, left) :: source.replaced }
            return true
      | _, _ => return false
  | _ => return false

def behindBlanks : List Char → Nat → List Char × Nat
  | ' ' :: rest, line => behindBlanks rest line
  | '\t' :: rest, line => behindBlanks rest line
  | '\\' :: '\n' :: rest, line => behindBlanks rest (line + 1)
  | '#' :: rest, line => (rest.dropWhile (· ≠ '\n'), line)
  | text, line => (text, line)

def skipBlanks : Scan Unit :=
  modify fun source =>
    let (rest, line) := behindBlanks source.rest source.line
    { source with rest, line }

end Scan

def Scan.beginLine : Scan Unit :=
  -- In a here-document the line that ends it is the end of the text.
  modify fun source =>
    match source.document? with
    | none => source
    | some form =>
        let (joined, line) := Scan.joinLines source.rest source.line
        let rest := if form.stripTabs then joined.dropWhile (· = '\t') else joined
        let first := rest.takeWhile (· ≠ '\n')
        if first = form.ending then
          { source with rest := [], behind := rest.drop (first.length + 1), line := line + 1 }
        else { source with rest, line }

def DocumentForm.split (form : DocumentForm) : List ByteText → ByteText × List ByteText
  | [] => ([], [])
  | first :: rest =>
      let line := if form.stripTabs then first.dropWhile (· = '\t') else first
      if line = form.ending then ([], rest)
      else
        let (body, behind) := form.split rest
        (if rest.isEmpty then line else line ++ '\n' :: body, behind)

end CallAtlas.Script
