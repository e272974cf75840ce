import CallAtlas.Script.ByteText

/-!
Shell programs: words with what is to be expanded in them, redirections and the
commands made of them.
-/

namespace CallAtlas.Script

inductive Substitute where
  | use
  | assign
  | complain
  | alternative
  deriving DecidableEq

inductive OpenMode where
  | read
  | write
  | replace
  | append
  | readWrite
  deriving DecidableEq

mutual

inductive Part where
  | literal (text : ByteText) (quoted : Bool)
  | quotes
  | parameter (name : String) (use : Use) (quoted : Bool)
  | output (body : Command) (quoted : Bool)
  | arithmetic (expression : List Part) (quoted : Bool)

inductive Use where
  | value
  | length
  | substitute (kind : Substitute) (ifEmpty : Bool) (word : List Part)
  | trim (atEnd longest : Bool) (pattern : List Part)
  | malformed

inductive Redirection where
  | openFile (descriptor : Nat) (mode : OpenMode) (target : List Part)
  | duplicate (descriptor : Nat) (target : List Part)
  | document (descriptor : Nat) (text : List Part)

inductive Command where
  | nothing
  | simple (line : Nat) (assignments : List (String × List Part)) (words : List (List Part))
      (redirections : List Redirection)
  | sequence (first second : Command)
  | both (first second : Command)
  | either (first second : Command)
  | negation (body : Command)
  | pipeline (stages : List Command)
  | background (body : Command)
  | subshell (line : Nat) (body : Command) (redirections : List Redirection)
  | redirected (line : Nat) (body : Command) (redirections : List Redirection)
  | conditional (condition consequence alternative : Command)
  | loop (negated : Bool) (condition body : Command)
  | forEach (line : Nat) (name : String) (words : Option (List (List Part))) (body : Command)
  | choice (line : Nat) (subject : List Part) (cases : List (List (List Part) × Command))
  | function (name : String) (body : Command)

end

abbrev Word := List Part

instance : Inhabited Part := ⟨.quotes⟩
instance : Inhabited Command := ⟨.nothing⟩

namespace Word

def plain? : Word → Option ByteText
  | [] => some []
  | .literal text false :: rest => (plain? rest).map (text ++ ·)
  | _ => none

def unquoted : Word → ByteText
  | [] => []
  | .literal text _ :: rest => text ++ unquoted rest
  | _ :: rest => unquoted rest

def isQuoted (word : Word) : Bool :=
  word.any fun
    | .literal _ quoted => quoted
    | .quotes => true
    | .parameter _ _ quoted => quoted
    | .output _ quoted => quoted
    | .arithmetic _ quoted => quoted

def assignment? : Word → Option (String × Word)
  | .literal text false :: rest =>
      let name := text.takeWhile isNameChar
      match text.dropWhile isNameChar with
      | '=' :: value =>
          if isName name then
            some (String.ofList name, if value.isEmpty then rest else .literal value false :: rest)
          else none
      | _ => none
  | _ => none

end Word

def Command.andThen : Command → Command → Command
  | .nothing, second => second
  | first, second => .sequence first second

end CallAtlas.Script
