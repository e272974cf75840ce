import CallAtlas.CommandLine.Run
import CallAtlas.Proofs.FileSystem.Directories

/-!
What a run does before it prints anything. It loads the settings, accepts the output
directory, makes it and lists and analyses the sources, in this order; the first of
these stages that fails stops it. Analysing is such a stage only as far as the parser
goes: a source that it gives no answer to stops the run, any other failure does not.
Up to then at most the output directory and directories above it were made.
-/

namespace CallAtlas

/-- A source that is read and that the parser gives no answer to. -/
def Spoils (parser : Parser) (files : FileSystem) (path : Path) (fault : ParserFault) : Prop :=
  ∃ text, files.readText path = .ok text ∧ parser text.toList = .error fault

theorem first_spoils (parser : Parser) (files : FileSystem) (paths : List Path) :
    (∀ path ∈ paths, ∀ fault, ¬ Spoils parser files path fault) ∨
      ∃ earlier file later fault, paths = earlier ++ file :: later ∧
        (∀ path ∈ earlier, ∀ fault, ¬ Spoils parser files path fault) ∧
        Spoils parser files file fault := by
  induction paths with
  | nil => exact .inl fun path member => by cases member
  | cons first rest ih =>
      by_cases own : ∃ fault, Spoils parser files first fault
      · obtain ⟨fault, spoils⟩ := own
        exact .inr ⟨[], first, rest, fault, rfl, by simp, spoils⟩
      · have fine : ∀ fault, ¬ Spoils parser files first fault := not_exists.mp own
        obtain all | ⟨earlier, file, later, fault, rfl, before, spoils⟩ := ih
        · exact .inl (List.forall_mem_cons.mpr ⟨fine, all⟩)
        · exact .inr ⟨first :: earlier, file, later, fault, rfl,
            List.forall_mem_cons.mpr ⟨fine, before⟩, spoils⟩

namespace Arguments

def survey (arguments : Arguments) (settings : Settings) : Survey where
  inputs := arguments.paths
  settings := arguments.analysisSettings settings

def plan (arguments : Arguments) (settings : Settings) (directory : Path) : Plan where
  json := arguments.wantsJson settings
  printDot := arguments.dot
  remove := arguments.namesToRemove settings
  render := arguments.renderSection settings
  directory
  survey := arguments.survey settings

structure Lists (arguments : Arguments) (tools : Toolkit) (files : FileSystem) (settings : Settings)
    (directory : Path) (below : FileSystem) (paths : List Path) : Prop where
  loaded : arguments.loadSettings files = .ok settings
  accepted : OutputDirectory.check (arguments.outputText settings) = .ok directory
  made : files.createAll directory = (below, none)
  listed : (arguments.survey settings).files tools.schedule below = .ok paths

structure Ready (arguments : Arguments) (tools : Toolkit) (files : FileSystem) (settings : Settings)
    (directory : Path) (below : FileSystem) (paths : List Path) : Prop
    extends Lists arguments tools files settings directory below paths where
  answered : ∀ path ∈ paths, ∀ fault, ¬ Spoils tools.parser below path fault

/-- The stage at which a run stops, and the files as they are then. -/
inductive Stops (arguments : Arguments) (tools : Toolkit) (files : FileSystem) :
    RunError → FileSystem → Prop where
  | settings {cause : SettingsError} (failed : arguments.loadSettings files = .error cause) :
      Stops arguments tools files (.settings cause) files
  | outputPath {settings : Settings} {fault : OutputFault}
      (loaded : arguments.loadSettings files = .ok settings)
      (refused : OutputDirectory.check (arguments.outputText settings) = .error fault) :
      Stops arguments tools files (.outputPath fault) files
  | outputDirectory {settings : Settings} {directory : Path} {below : FileSystem} {cause : FileError}
      (loaded : arguments.loadSettings files = .ok settings)
      (accepted : OutputDirectory.check (arguments.outputText settings) = .ok directory)
      (blocked : files.createAll directory = (below, some cause)) :
      Stops arguments tools files (.outputDirectory directory cause) below
  | scan {settings : Settings} {directory : Path} {below : FileSystem} {cause : ScanError}
      (loaded : arguments.loadSettings files = .ok settings)
      (accepted : OutputDirectory.check (arguments.outputText settings) = .ok directory)
      (made : files.createAll directory = (below, none))
      (unlisted : (arguments.survey settings).files tools.schedule below = .error cause) :
      Stops arguments tools files (.scan cause) below
  | aborted {settings : Settings} {directory : Path} {below : FileSystem}
      {earlier later : List Path} {file : Path} {fault : ParserFault}
      (lists : Lists arguments tools files settings directory below (earlier ++ file :: later))
      (before : ∀ path ∈ earlier, ∀ fault, ¬ Spoils tools.parser below path fault)
      (spoils : Spoils tools.parser below file fault) :
      Stops arguments tools files (.aborted file (.internal fault.message)) below

def results (arguments : Arguments) (tools : Toolkit) (settings : Settings) (files : FileSystem)
    (paths : List Path) : SurveyRun :=
  ⟨paths.map fun path =>
    ⟨path, analyzeFile tools.parser (arguments.analysisSettings settings) files path⟩⟩

variable {tools : Toolkit} {arguments : Arguments} {files below : FileSystem} {settings : Settings}
  {directory : Path} {paths : List Path} {error : RunError}

theorem prepare_of_accepted (loaded : arguments.loadSettings files = .ok settings)
    (accepted : OutputDirectory.check (arguments.outputText settings) = .ok directory) :
    Plan.prepare tools arguments files =
      match files.createAll directory with
      | (below, some cause) => .error (.outputDirectory directory cause, below)
      | (below, none) =>
          match (arguments.survey settings).files tools.schedule below with
          | .error cause => .error (.scan cause, below)
          | .ok paths =>
              .ok
                { plan := arguments.plan settings directory, files := below
                  results := arguments.results tools settings below paths } := by
  unfold Plan.prepare
  rw [loaded]
  dsimp only [Except.mapError, bind, Except.bind]
  rw [accepted]
  dsimp only
  cases files.createAll directory with
  | mk below obstacle =>
      cases obstacle with
      | some cause => rfl
      | none =>
          dsimp only
          have asked : { inputs := arguments.paths
                         settings := arguments.analysisSettings settings : Survey } =
              arguments.survey settings := rfl
          rw [asked, Survey.run]
          cases (arguments.survey settings).files tools.schedule below <;> rfl

theorem prepare_of_lists (lists : arguments.Lists tools files settings directory below paths) :
    Plan.prepare tools arguments files = .ok
      { plan := arguments.plan settings directory, files := below
        results := arguments.results tools settings below paths } := by
  rw [prepare_of_accepted lists.loaded lists.accepted, lists.made]
  dsimp only
  rw [lists.listed]

theorem prepare_of_stops (stops : arguments.Stops tools files error below)
    (early : ∀ file failure, error ≠ .aborted file failure) :
    Plan.prepare tools arguments files = .error (error, below) := by
  cases stops with
  | settings failed =>
      unfold Plan.prepare
      rw [failed]
      rfl
  | outputPath loaded refused =>
      unfold Plan.prepare
      rw [loaded]
      dsimp only [Except.mapError, bind, Except.bind]
      rw [refused]
  | outputDirectory loaded accepted blocked => rw [prepare_of_accepted loaded accepted, blocked]
  | scan loaded accepted made unlisted =>
      rw [prepare_of_accepted loaded accepted, made]
      dsimp only
      rw [unlisted]
  | aborted lists before spoils => exact absurd rfl (early _ _)

theorem stops_or_lists (arguments : Arguments) (tools : Toolkit) (files : FileSystem) :
    (∃ error below, arguments.Stops tools files error below ∧
      ∀ file failure, error ≠ .aborted file failure) ∨
      ∃ settings directory below paths,
        arguments.Lists tools files settings directory below paths := by
  cases loaded : arguments.loadSettings files with
  | error cause => exact .inl ⟨_, _, .settings loaded, by simp⟩
  | ok settings =>
      cases accepted : OutputDirectory.check (arguments.outputText settings) with
      | error fault => exact .inl ⟨_, _, .outputPath loaded accepted, by simp⟩
      | ok directory =>
          cases made : files.createAll directory with
          | mk below obstacle =>
              cases obstacle with
              | some cause => exact .inl ⟨_, _, .outputDirectory loaded accepted made, by simp⟩
              | none =>
                  cases listed : (arguments.survey settings).files tools.schedule below with
                  | error cause => exact .inl ⟨_, _, .scan loaded accepted made listed, by simp⟩
                  | ok paths => exact .inr ⟨_, _, _, paths, loaded, accepted, made, listed⟩

theorem stops_or_ready (arguments : Arguments) (tools : Toolkit) (files : FileSystem) :
    (∃ error below, arguments.Stops tools files error below) ∨
      ∃ settings directory below paths,
        arguments.Ready tools files settings directory below paths := by
  obtain ⟨error, below, stops, -⟩ | ⟨settings, directory, below, paths, lists⟩ :=
    arguments.stops_or_lists tools files
  · exact .inl ⟨error, below, stops⟩
  · obtain answered | ⟨earlier, file, later, fault, rfl, before, spoils⟩ :=
      first_spoils tools.parser below paths
    · exact .inr ⟨settings, directory, below, paths, lists, answered⟩
    · exact .inl ⟨_, below, .aborted lists before spoils⟩

theorem Stops.onlyMakes (stops : arguments.Stops tools files error below) :
    below = files ∨ ∃ settings directory, arguments.loadSettings files = .ok settings ∧
      OutputDirectory.check (arguments.outputText settings) = .ok directory ∧
      FileSystem.OnlyMakes directory files below := by
  have making : ∀ {directory below obstacle}, files.createAll directory = (below, obstacle) →
      FileSystem.OnlyMakes directory files below := by
    intro directory below obstacle made
    have makes := FileSystem.onlyMakes_createAll files directory
    rw [made] at makes
    exact makes
  cases stops with
  | settings failed => exact .inl rfl
  | outputPath loaded refused => exact .inl rfl
  | outputDirectory loaded accepted blocked => exact .inr ⟨_, _, loaded, accepted, making blocked⟩
  | scan loaded accepted made unlisted => exact .inr ⟨_, _, loaded, accepted, making made⟩
  | aborted lists before spoils =>
      exact .inr ⟨_, _, lists.loaded, lists.accepted, making lists.made⟩

end Arguments

end CallAtlas
