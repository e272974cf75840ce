import CallAtlas.FileSystem.Basic
import CallAtlas.Failure
import CallAtlas.Graph.Analysis
import CallAtlas.Settings.Shape
import CallAtlas.Toml.Document

/-!
The settings file of a project: how sources are analysed, where output goes, how
diagrams are rendered and which functions are removed. Every part may be left out.
-/

namespace CallAtlas

structure AnalysisSection where
  duplicateNames : Option DuplicatePolicy := none
  deadCode : Option DeadCodePolicy := none
  /-- Replaces the built-in denylist. -/
  denylist : Option (List String) := none
  extraDenylist : Option (List String) := none
  /-- Names to take off the denylist, whatever put them there. -/
  allow : Option (List String) := none

structure OutputSection where
  dir : Option String := none
  format : Option String := none

structure RenderSection where
  enabled : Option Bool := none
  program : Option String := none
  format : Option String := none
  installCommand : Option (List String) := none

structure Settings where
  analysis : Option AnalysisSection := none
  output : Option OutputSection := none
  render : Option RenderSection := none
  remove : Option (List String) := none

namespace AnalysisSection

/-- The denylist of a section: its own or the built-in one, with the extra names, without
the allowed ones. -/
def effectiveDenylist (given : AnalysisSection) : Denylist :=
  let base := match given.denylist with
    | some names => NameSet.ofList names
    | none => Denylist.builtin
  (base.insertAll (given.extraDenylist.getD [])).without (given.allow.getD [])

def settings (given : AnalysisSection) : AnalysisSettings where
  denylist := given.effectiveDenylist
  duplicates := given.duplicateNames.getD .lastWriterWins
  deadCode := given.deadCode.getD .neverCalled

def duplicateWords : List (String × DuplicatePolicy) :=
  [("last-writer-wins", .lastWriterWins), ("reject", .reject)]

def deadCodeWords : List (String × DeadCodePolicy) :=
  [("never-called", .neverCalled), ("unreachable-from-roots", .unreachableFromRoots)]

def fields : List (String × Toml.Setter AnalysisSection) :=
  [("duplicate_names",
      Toml.setter (Toml.asVariant duplicateWords) ({ · with duplicateNames := · })),
    ("dead_code", Toml.setter (Toml.asVariant deadCodeWords) ({ · with deadCode := · })),
    ("denylist", Toml.setter Toml.asStrings ({ · with denylist := · })),
    ("extra_denylist", Toml.setter Toml.asStrings ({ · with extraDenylist := · })),
    ("allow", Toml.setter Toml.asStrings ({ · with allow := · }))]

def ofToml : Toml → Toml.Typed AnalysisSection :=
  Toml.asSection "struct AnalysisSection" fields {}

end AnalysisSection

namespace OutputSection

def fields : List (String × Toml.Setter OutputSection) :=
  [("dir", Toml.setter Toml.asString ({ · with dir := · })),
    ("format", Toml.setter Toml.asString ({ · with format := · }))]

def ofToml : Toml → Toml.Typed OutputSection :=
  Toml.asSection "struct OutputConfig" fields {}

end OutputSection

namespace RenderSection

def isEnabled (given : RenderSection) : Bool :=
  given.enabled.getD true

def programName (given : RenderSection) : String :=
  given.program.getD "dot"

def formatName (given : RenderSection) : String :=
  given.format.getD "png"

def fields : List (String × Toml.Setter RenderSection) :=
  [("enabled", Toml.setter Toml.asBool ({ · with enabled := · })),
    ("program", Toml.setter Toml.asString ({ · with program := · })),
    ("format", Toml.setter Toml.asString ({ · with format := · })),
    ("install_command", Toml.setter Toml.asStrings ({ · with installCommand := · }))]

def ofToml : Toml → Toml.Typed RenderSection :=
  Toml.asSection "struct RenderConfig" fields {}

end RenderSection

inductive SettingsFault where
  | unreadable (cause : FileError)
  | malformed
  | misshapen (cause : ShapeError)
  deriving DecidableEq, Repr

def SettingsFault.message : SettingsFault → String
  | unreadable cause => s!"unreadable: {cause.message}"
  | malformed => "invalid TOML document"
  | misshapen cause => cause.message

structure SettingsError where
  path : Path
  fault : SettingsFault

def SettingsError.toFailure (error : SettingsError) : Failure :=
  .config error.path.text error.fault.message

namespace Settings

def fields : List (String × Toml.Setter Settings) :=
  [("analysis", Toml.setter AnalysisSection.ofToml ({ · with analysis := · })),
    ("output", Toml.setter OutputSection.ofToml ({ · with output := · })),
    ("render", Toml.setter RenderSection.ofToml ({ · with render := · })),
    ("remove", Toml.setter Toml.asStrings ({ · with remove := · }))]

def parse (text : String) : Except SettingsFault Settings :=
  match Toml.parse text with
  | none => .error .malformed
  | some members => (Toml.setByName fields members {}).mapError .misshapen

def analysisSettings (settings : Settings) : AnalysisSettings :=
  match settings.analysis with
  | some given => given.settings
  | none => {}

def renderSection (settings : Settings) : RenderSection :=
  settings.render.getD {}

def fileName : String := "callmap.toml"

def loadFile (files : FileSystem) (path : Path) : Except SettingsError Settings :=
  match files.readText path with
  | .error cause => .error ⟨path, .unreadable cause⟩
  | .ok text => (parse text).mapError (⟨path, ·⟩)

def load (files : FileSystem) (dir : Path) : Except SettingsError (Option Settings) :=
  let path := dir.join fileName
  if files.pathExists path then some <$> loadFile files path else .ok none

end Settings

end CallAtlas
