import CallAtlas.Function.Catalog

/-!
The failures of the library. Each capability has its own causes of failure; this
type is what they have in common when files are processed in a batch: the wording,
the file concerned and whether the batch can go on.
-/

namespace CallAtlas

inductive Failure where
  | io (path detail : String)
  | parse (line column : Nat) (detail : String)
  | duplicateName (duplicate : DuplicateName)
  | config (path detail : String)
  | render (detail : String)
  | removal (detail : String)
  | invalidArgument (detail : String)
  | internal (detail : String)
  deriving DecidableEq, Repr

namespace Failure

def message : Failure → String
  | io path detail => s!"I/O error at {path}: {detail}"
  | parse line column detail => s!"Parse error at {line}:{column}: {detail}"
  | duplicateName ⟨name, first, second⟩ =>
      s!"Duplicate function name `{name}` (lines {first} and {second})"
  | config path detail => s!"Config error at {path}: {detail}"
  | render detail => s!"Render error: {detail}"
  | removal detail => s!"Rewrite error: {detail}"
  | invalidArgument detail => s!"Invalid argument: {detail}"
  | internal detail => s!"Internal error: {detail}"

/-- Whether the other files of a batch can still be used. -/
def isRecoverable : Failure → Bool
  | io .. | parse .. | duplicateName .. | render .. => true
  | _ => false

def path? : Failure → Option String
  | io path _ => some path
  | config path _ => some path
  | _ => none

def ofSyntaxError (error : SyntaxError) : Failure :=
  .parse error.line error.column error.fault.message

def ofParserFault (fault : ParserFault) : Failure :=
  .internal fault.message

end Failure

end CallAtlas
