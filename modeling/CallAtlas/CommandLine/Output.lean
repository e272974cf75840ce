import CallAtlas.Failure
import CallAtlas.Path.Basic

/-!
Where a run writes. The output directory must not lead up, in whatever way its
steps are spelled, and every artifact is a file right inside it.
-/

namespace CallAtlas

inductive OutputFault where
  | nulCharacter
  | stepUp (path : String)
  | disguisedStepUp (path : String)
  deriving DecidableEq, Repr

def OutputFault.message : OutputFault → String
  | nulCharacter => "Output path contains null bytes"
  | stepUp path => s!"Path traversal (..) not allowed in output paths: {path}"
  | disguisedStepUp path => s!"Path traversal attempt detected: {path}"

def OutputFault.toFailure (fault : OutputFault) : Failure :=
  .invalidArgument fault.message

namespace OutputDirectory

def occursIn (part : List Char) : List Char → Bool
  | [] => part.isEmpty
  | c :: rest => part.isPrefixOf (c :: rest) || occursIn part rest

def normalized (text : List Char) : List Char :=
  text.map fun c => if c = '\\' then '/' else c

/-- A step up between slashes, or at one end with a slash on its other side. -/
def hasStepUp (text : List Char) : Bool :=
  occursIn ['/', '.', '.', '/'] text || ['.', '.', '/'].isPrefixOf text ||
    ['/', '.', '.'].isSuffixOf text

def check (text : String) : Except OutputFault Path :=
  if text.toList.contains '\x00' then .error .nulCharacter
  else if (Path.components ⟨text⟩).contains .up then .error (.stepUp text)
  else if hasStepUp (normalized text.toList) then .error (.disguisedStepUp text)
  else .ok ⟨text⟩

end OutputDirectory

namespace Artifact

def path (directory input : Path) (suffix : String) : Path :=
  directory.join (input.stem?.getD "callmap" ++ suffix)

def diagramSuffix : String := ".dot"

def imageSuffix (format : String) : String :=
  "." ++ format

/-- The suffix of a pruned copy, which keeps the extension of its input. -/
def prunedSuffix (input : Path) : String :=
  match input.extension? with
  | some extension => ".pruned." ++ extension
  | none => ".pruned"

end Artifact

end CallAtlas
