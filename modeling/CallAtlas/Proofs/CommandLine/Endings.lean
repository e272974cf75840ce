import CallAtlas.Proofs.CommandLine.Artifacts
import CallAtlas.Proofs.CommandLine.Printing
import CallAtlas.Proofs.Function.Duplicates

/-!
How runs end. A run stops before its reports, with nothing printed on the stream for
results and no more than directories made, or it prints the reports and gives every
analysed file its turn. In a turn each artifact is written, or a message says why it
is not. The exit code of a run that was not stopped tells whether a source failed to
be read, parsed or accepted, as it was before the first artifact; neither writing
nor the programs that render can change it.
-/

namespace CallAtlas

open Session (Noted)

inductive FileFails (parser : Parser) (settings : AnalysisSettings) (files : FileSystem)
    (path : Path) : Prop where
  | unreadable {cause : FileError} (unread : files.readText path = .error cause)
  | malformed {text : String} {parse : Parse} {error : SyntaxError}
      (read : files.readText path = .ok text) (answered : parser text.toList = .ok parse)
      (refused : SyntaxTree.check text.toList parse = .error error)
  | repeating {text : String} {parse : Parse} {tree : SyntaxTree}
      (read : files.readText path = .ok text) (answered : parser text.toList = .ok parse)
      (checked : SyntaxTree.check text.toList parse = .ok tree)
      (policy : settings.duplicates = .reject) (repeats : ¬ tree.NamedApart tree.functions)

/-- All that can come of a source file. -/
inductive FileEnds (parser : Parser) (settings : AnalysisSettings) (files : FileSystem)
    (path : Path) : Except Failure Analysis → Prop where
  | unreadable {cause : FileError} (unread : files.readText path = .error cause) :
      FileEnds parser settings files path (.error (.io path.text cause.message))
  | spoiled {fault : ParserFault} (spoils : Spoils parser files path fault) :
      FileEnds parser settings files path (.error (.internal fault.message))
  | malformed {text : String} {parse : Parse} {error : SyntaxError}
      (read : files.readText path = .ok text) (answered : parser text.toList = .ok parse)
      (refused : SyntaxTree.check text.toList parse = .error error) :
      FileEnds parser settings files path (.error (.ofSyntaxError error))
  | repeating {text : String} {parse : Parse} {tree : SyntaxTree} {duplicate : DuplicateName}
      (read : files.readText path = .ok text) (answered : parser text.toList = .ok parse)
      (checked : SyntaxTree.check text.toList parse = .ok tree)
      (refused : Analysis.ofTree settings tree = .error duplicate) :
      FileEnds parser settings files path (.error (.duplicateName duplicate))
  | analysed {text : String} {parse : Parse} {tree : SyntaxTree} {analysis : Analysis}
      (read : files.readText path = .ok text) (answered : parser text.toList = .ok parse)
      (checked : SyntaxTree.check text.toList parse = .ok tree)
      (done : Analysis.ofTree settings tree = .ok analysis) :
      FileEnds parser settings files path (.ok analysis)

section Failing

variable {parser : Parser} {settings : AnalysisSettings} {files : FileSystem} {path : Path}

theorem ofTree_eq_error_iff {tree : SyntaxTree} :
    (∃ duplicate, Analysis.ofTree settings tree = .error duplicate) ↔
      settings.duplicates = .reject ∧ ¬ tree.NamedApart tree.functions := by
  have refuses : (∃ duplicate, Analysis.ofTree settings tree = .error duplicate) ↔
      ∃ duplicate, Catalog.build settings.duplicates tree = .error duplicate := by
    unfold Analysis.ofTree
    cases Catalog.build settings.duplicates tree with
    | error duplicate => exact ⟨fun _ => ⟨duplicate, rfl⟩, fun _ => ⟨duplicate, rfl⟩⟩
    | ok catalog =>
        constructor
        · rintro ⟨duplicate, refused⟩
          cases refused
        · rintro ⟨duplicate, refused⟩
          cases refused
  rw [refuses, ← Catalog.build_reject_iff]
  cases policy : settings.duplicates with
  | lastWriterWins =>
      obtain ⟨catalog, built⟩ : ∃ catalog, Catalog.build .lastWriterWins tree = .ok catalog :=
        Catalog.foldlM_lastWriterWins (Catalog.candidates tree) ∅
      simp [built]
  | reject => cases Catalog.build .reject tree <;> simp

theorem analyzeFile_ends (parser : Parser) (settings : AnalysisSettings) (files : FileSystem)
    (path : Path) :
    FileEnds parser settings files path (analyzeFile parser settings files path) := by
  unfold analyzeFile readSource
  cases read : files.readText path with
  | error cause => exact .unreadable read
  | ok text =>
      dsimp only [bind, Except.bind, analyzeSource, parseSource]
      cases answered : parser text.toList with
      | error fault => exact .spoiled ⟨text, read, answered⟩
      | ok parse =>
          dsimp only [Except.mapError]
          cases checked : SyntaxTree.check text.toList parse with
          | error error => exact .malformed read answered checked
          | ok tree =>
              dsimp only
              cases done : Analysis.ofTree settings tree with
              | error duplicate => exact .repeating read answered checked done
              | ok analysis => exact .analysed read answered checked done

/-- A failure either leaves the other files usable or comes of the parser. -/
theorem fails_or_spoils {failure : Failure}
    (failed : analyzeFile parser settings files path = .error failure) :
    FileFails parser settings files path ∧ failure.isRecoverable = true ∨
      ∃ fault, Spoils parser files path fault := by
  have ends := analyzeFile_ends parser settings files path
  rw [failed] at ends
  cases ends with
  | unreadable unread => exact .inl ⟨.unreadable unread, rfl⟩
  | spoiled spoils => exact .inr ⟨_, spoils⟩
  | malformed read answered refused => exact .inl ⟨.malformed read answered refused, rfl⟩
  | repeating read answered checked refused =>
      obtain ⟨policy, repeats⟩ := ofTree_eq_error_iff.mp ⟨_, refused⟩
      exact .inl ⟨.repeating read answered checked policy repeats, rfl⟩

theorem analyzeFile_of_spoils {fault : ParserFault} (spoils : Spoils parser files path fault) :
    analyzeFile parser settings files path = .error (.internal fault.message) := by
  obtain ⟨text, read, unanswered⟩ := spoils
  unfold analyzeFile readSource
  rw [read]
  dsimp only [bind, Except.bind, analyzeSource, parseSource]
  rw [unanswered]
  rfl

theorem not_fileFails_of_ok {analysis : Analysis}
    (analysed : analyzeFile parser settings files path = .ok analysis) :
    ¬ FileFails parser settings files path := by
  have ends := analyzeFile_ends parser settings files path
  rw [analysed] at ends
  obtain - | - | - | - | ⟨read, answered, checked, done⟩ := ends
  rintro (unread | ⟨read', answered', refused⟩ | ⟨read', answered', checked', policy, repeats⟩)
  · cases read.symm.trans unread
  · obtain rfl := Except.ok.inj (read.symm.trans read')
    obtain rfl := Except.ok.inj (answered.symm.trans answered')
    cases checked.symm.trans refused
  · obtain rfl := Except.ok.inj (read.symm.trans read')
    obtain rfl := Except.ok.inj (answered.symm.trans answered')
    obtain rfl := Except.ok.inj (checked.symm.trans checked')
    obtain ⟨duplicate, refused⟩ := ofTree_eq_error_iff.mpr ⟨policy, repeats⟩
    cases done.symm.trans refused

end Failing

namespace Arguments

variable {tools : Toolkit} {arguments : Arguments} {settings : Settings} {files : FileSystem}
  {paths : List Path}

theorem mem_failed_iff {path : Path} {failure : Failure} :
    (path, failure) ∈ (arguments.results tools settings files paths).failed ↔
      path ∈ paths ∧ analyzeFile tools.parser (arguments.analysisSettings settings) files path =
        .error failure := by
  unfold SurveyRun.failed results
  rw [List.mem_filterMap]
  constructor
  · rintro ⟨file, listed, made⟩
    obtain ⟨own, among, rfl⟩ := List.mem_map.mp listed
    dsimp only at made
    split at made
    · cases made
    · next failed =>
        obtain ⟨rfl, rfl⟩ := Prod.mk.inj (Option.some.inj made)
        exact ⟨among, failed⟩
  · rintro ⟨among, failed⟩
    exact ⟨_, List.mem_map_of_mem among, by rw [failed]⟩

theorem hasFailures_iff
    (answered : ∀ path ∈ paths, ∀ fault, ¬ Spoils tools.parser files path fault) :
    (arguments.results tools settings files paths).hasFailures = true ↔
      ∃ path ∈ paths, FileFails tools.parser (arguments.analysisSettings settings) files path := by
  rw [SurveyRun.hasFailures, Bool.not_eq_true', List.isEmpty_eq_false_iff_exists_mem]
  constructor
  · rintro ⟨⟨path, failure⟩, member⟩
    obtain ⟨among, failed⟩ := mem_failed_iff.mp member
    obtain ⟨fails, -⟩ | ⟨fault, spoils⟩ := fails_or_spoils failed
    · exact ⟨path, among, fails⟩
    · exact absurd spoils (answered path among fault)
  · rintro ⟨path, among, fails⟩
    cases done : analyzeFile tools.parser (arguments.analysisSettings settings) files path with
    | error failure => exact ⟨(path, failure), mem_failed_iff.mpr ⟨among, done⟩⟩
    | ok analysis => exact absurd fails (not_fileFails_of_ok done)

theorem isRecoverable_of_answered {path : Path} {failure : Failure}
    (answered : ∀ path ∈ paths, ∀ fault, ¬ Spoils tools.parser files path fault)
    (member : (path, failure) ∈ (arguments.results tools settings files paths).failed) :
    failure.isRecoverable = true := by
  obtain ⟨among, failed⟩ := mem_failed_iff.mp member
  obtain ⟨-, recoverable⟩ | ⟨fault, spoils⟩ := fails_or_spoils failed
  · exact recoverable
  · exact absurd spoils (answered path among fault)

theorem fatal?_of_answered
    (answered : ∀ path ∈ paths, ∀ fault, ¬ Spoils tools.parser files path fault) :
    (arguments.results tools settings files paths).fatal? = none := by
  rw [SurveyRun.fatal?, List.find?_eq_none]
  rintro ⟨path, failure⟩ member
  simp [isRecoverable_of_answered answered member]

theorem fatal?_of_spoils {earlier later : List Path} {file : Path} {fault : ParserFault}
    (before : ∀ path ∈ earlier, ∀ fault, ¬ Spoils tools.parser files path fault)
    (spoils : Spoils tools.parser files file fault) :
    (arguments.results tools settings files (earlier ++ file :: later)).fatal? =
      some (file, .internal fault.message) := by
  rw [SurveyRun.fatal?, List.find?_eq_some_iff_append]
  refine ⟨rfl, (arguments.results tools settings files earlier).failed,
    (arguments.results tools settings files later).failed, ?_, ?_⟩
  · simp [SurveyRun.failed, results, analyzeFile_of_spoils spoils]
  · rintro ⟨path, failure⟩ member
    simp [isRecoverable_of_answered before member]

end Arguments

/-- What a run is when it has ended that was not stopped: the reports are what was printed first,
all analysed files have had their turns, and the others have their messages. -/
structure Completes (tools : Toolkit) (plan : Plan) (files : FileSystem) (paths : List Path)
    (result : RunResult) : Prop where
  turns : ∃ start last, start.files = files ∧
    plan.Prints paths (plan.analysed tools files paths) start.output ∧
    plan.Turns tools (plan.analysed tools files paths) start last ∧
    result.session.files = last.files ∧ result.session.output = last.output
  reported : ∀ text, plan.Prints paths (plan.analysed tools files paths) text →
    text.toList <+: result.session.output.toList
  messages : ∀ path ∈ paths, ∀ failure,
    analyzeFile tools.parser plan.survey.settings files path = .error failure →
    Noted result.session s!"[ERROR] {path.text}: {failure.message}"
  failing : (∃ path ∈ paths, FileFails tools.parser plan.survey.settings files path) →
    result.exitCode = 1
  faultless : (∀ path ∈ paths, ¬ FileFails tools.parser plan.survey.settings files path) →
    result.exitCode = 0

namespace Arguments

variable {tools : Toolkit} {arguments : Arguments} {files below : FileSystem}
  {settings : Settings} {directory : Path} {paths : List Path} {error : RunError}

theorem run_of_spoils {earlier later : List Path} {file : Path} {fault : ParserFault}
    (lists : arguments.Lists tools files settings directory below (earlier ++ file :: later))
    (before : ∀ path ∈ earlier, ∀ fault, ¬ Spoils tools.parser below path fault)
    (spoils : Spoils tools.parser below file fault) :
    arguments.run tools files =
      { session :=
          { files := below, errors := (RunError.aborted file (.internal fault.message)).report }
        exitCode := 1 } := by
  -- At least one source is listed, so there is no message about none.
  have some : (arguments.results tools settings below (earlier ++ file :: later)).files.isEmpty =
      false := by
    simp [results]
  unfold run
  rw [prepare_of_lists lists]
  dsimp only
  rw [fatal?_of_spoils before spoils, some, if_neg Bool.false_ne_true]
  dsimp only
  rw [String.empty_append]

theorem run_of_stops (stops : arguments.Stops tools files error below) :
    arguments.run tools files =
      { session := { files := below, errors := error.report }, exitCode := 1 } := by
  by_cases early : ∀ file failure, error ≠ .aborted file failure
  · unfold run
    rw [prepare_of_stops stops early]
  · cases stops with
    | aborted lists before spoils => exact run_of_spoils lists before spoils
    | settings _ => exact absurd (by simp) early
    | outputPath _ _ => exact absurd (by simp) early
    | outputDirectory _ _ _ => exact absurd (by simp) early
    | scan _ _ _ _ => exact absurd (by simp) early

theorem run_of_ready (ready : arguments.Ready tools files settings directory below paths) :
    Completes tools (arguments.plan settings directory) below paths (arguments.run tools files) := by
  generalize final : arguments.run tools files = result
  unfold run at final
  rw [prepare_of_lists ready.toLists] at final
  dsimp only at final
  rw [fatal?_of_answered ready.answered] at final
  dsimp only [Plan.carryOut] at final
  generalize started : Session.print _ _ = start at final
  have begun : start.files = below ∧
      start.output = (arguments.plan settings directory).reports
        (arguments.results tools settings below paths) := by
    subst started
    split
    · exact ⟨rfl, String.empty_append⟩
    · exact ⟨rfl, String.empty_append⟩
  have printed : (arguments.plan settings directory).Prints paths
      ((arguments.plan settings directory).analysed tools below paths) start.output := by
    rw [begun.2, ← succeeded_results]
    exact Plan.prints_reports _ (by simp [results, Function.comp_def])
  obtain ⟨turns, grows⟩ := Plan.writeArtifacts_turns (arguments.plan settings directory) tools
    (arguments.results tools settings below paths).succeeded start
  generalize List.foldl (Plan.writeArtifacts _ tools) start _ = last at final turns grows
  obtain ⟨files', output, -, noted⟩ := Plan.noted_fold
    (arguments.results tools settings below paths).failed
    (fun file => s!"[ERROR] {file.1.text}: {file.2.message}") last
  subst final
  constructor
  case turns =>
    rw [succeeded_results _ _ _ directory] at turns
    exact ⟨start, last, begun.1, printed, turns, files', output⟩
  case reported =>
    intro text prints
    rw [prints.unique printed]
    exact output ▸ grows.output
  case messages =>
    intro path listed failure failed
    exact noted (path, failure) (mem_failed_iff.mpr ⟨listed, failed⟩)
  case failing => exact fun failing => if_pos ((hasFailures_iff ready.answered).mpr failing)
  case faultless =>
    intro faultless
    refine if_neg fun failing => ?_
    obtain ⟨path, listed, fails⟩ := (hasFailures_iff ready.answered).mp failing
    exact faultless path listed fails

/-- The two ways in which a run ends, whatever the files are and whatever programs do. -/
theorem ofCommand_ends {command : List String} {arguments : Arguments}
    (parsed : parse command = some (.run arguments)) (tools : Toolkit) (files : FileSystem) :
    ∃ result, CommandResult.ofCommand tools command files = .finished result ∧
      ((∃ error below, arguments.Stops tools files error below ∧ result.exitCode = 1 ∧
          result.session.output = "" ∧ result.session.errors = error.report ∧
          result.session.files = below ∧
          (below = files ∨ ∃ settings directory, arguments.loadSettings files = .ok settings ∧
            OutputDirectory.check (arguments.outputText settings) = .ok directory ∧
            FileSystem.OnlyMakes directory files below)) ∨
        ∃ settings directory below paths,
          arguments.Ready tools files settings directory below paths ∧
          Completes tools (arguments.plan settings directory) below paths result) := by
  refine ⟨arguments.run tools files, ?_, ?_⟩
  · rw [CommandResult.ofCommand, parsed]
  · obtain ⟨error, below, stops⟩ | ⟨settings, directory, below, paths, ready⟩ :=
      arguments.stops_or_ready tools files
    · rw [run_of_stops stops]
      exact .inl ⟨error, below, stops, rfl, rfl, rfl, rfl, stops.onlyMakes⟩
    · exact .inr ⟨settings, directory, below, paths, ready, run_of_ready ready⟩

open Prepared (sources toolkit)

def misdirected : Arguments := { paths := [⟨"no.js"⟩], outDir := some "out/deep" }

theorem misdirected_stops : misdirected.Stops toolkit sources (.scan (.missing ⟨"no.js"⟩))
    (sources.createAll ⟨"out/deep"⟩).1 :=
  .scan (by rfl : misdirected.loadSettings sources = .ok {}) (by rfl) (by rfl) (by rfl)

def single : Arguments := { paths := [⟨"a.js"⟩] }

theorem single_lists (tools : Toolkit) :
    single.Lists tools sources {} ⟨"."⟩ sources [⟨"a.js"⟩] where
  loaded := by rfl
  accepted := by rfl
  made := by rfl
  listed := by
    change Except.ok (Path.dedup (Path.sort [⟨"a.js"⟩])) = _
    rw [Path.sort, List.mergeSort_singleton]
    rfl

/-- A parser that has no answer to any text. -/
def broken : Toolkit := { toolkit with parser := fun _ => .error .noTree }

theorem single_ready : single.Ready toolkit sources {} ⟨"."⟩ sources [⟨"a.js"⟩] where
  toLists := single_lists toolkit
  answered := by
    rintro path - fault ⟨text, -, unanswered⟩
    cases unanswered

theorem single_aborted : single.Stops broken sources
    (.aborted ⟨"a.js"⟩ (.internal "tree-sitter returned no tree")) sources :=
  @Stops.aborted _ _ _ _ _ _ [] [] ⟨"a.js"⟩ .noTree (single_lists broken) (by simp)
    ⟨"function f() \x7b\x7d", by rfl, rfl⟩

theorem single_faultless : ∀ path ∈ [(⟨"a.js"⟩ : Path)],
    ¬ FileFails toolkit.parser (single.plan {} ⟨"."⟩).survey.settings sources path := by
  intro path member
  rw [List.mem_singleton.mp member]
  exact not_fileFails_of_ok (by rfl)

/-- Three runs: one that a source that is not there stops when the output directory has been made,
one that its parser stops, and one that ends well. -/
theorem stopped_and_served :
    (∃ result, CommandResult.ofCommand toolkit ["no.js", "--out-dir", "out/deep"] sources =
        .finished result ∧ result.exitCode = 1 ∧ result.session.output = "" ∧
      result.session.files.isDirectoryAt ⟨"out/deep"⟩ = true) ∧
    (∃ result, CommandResult.ofCommand broken ["a.js"] sources = .finished result ∧
      result.exitCode = 1 ∧ result.session.output = "" ∧ result.session.files = sources ∧
      result.session.errors = "Error: Analysis aborted: a.js: " ++
        "Internal error: tree-sitter returned no tree\n") ∧
    ∃ result, CommandResult.ofCommand toolkit ["a.js"] sources = .finished result ∧
      Completes toolkit (single.plan {} ⟨"."⟩) sources [⟨"a.js"⟩] result ∧
      result.exitCode = 0 := by
  have missing : parse ["no.js", "--out-dir", "out/deep"] = some (.run misdirected) := by rfl
  have present : parse ["a.js"] = some (.run single) := by rfl
  have runs : ∀ {tools command arguments result}, parse command = some (.run arguments) →
      CommandResult.ofCommand tools command sources = .finished result →
      result = arguments.run tools sources := by
    intro tools command arguments result parsed ended
    rw [CommandResult.ofCommand, parsed] at ended
    exact (CommandResult.finished.inj ended).symm
  refine ⟨?_, ?_, ?_⟩
  · obtain ⟨result, ended, -⟩ := ofCommand_ends missing toolkit sources
    obtain rfl := (runs missing ended).trans (run_of_stops misdirected_stops)
    exact ⟨_, ended, rfl, rfl, by decide +kernel⟩
  · obtain ⟨result, ended, -⟩ := ofCommand_ends present broken sources
    obtain rfl := (runs present ended).trans (run_of_stops single_aborted)
    exact ⟨_, ended, rfl, rfl, rfl, by decide +kernel⟩
  · obtain ⟨result, ended, ⟨_, _, stops, -⟩ | ⟨_, _, below, paths, ready, completes⟩⟩ :=
      ofCommand_ends present toolkit sources
    · have code := (run_of_ready single_ready).faultless single_faultless
      rw [run_of_stops stops] at code
      cases code
    · obtain rfl := Except.ok.inj (ready.loaded.symm.trans single_ready.loaded)
      obtain rfl := Except.ok.inj (ready.accepted.symm.trans single_ready.accepted)
      obtain ⟨rfl, -⟩ := Prod.mk.inj (ready.made.symm.trans single_ready.made)
      obtain rfl := Except.ok.inj (ready.listed.symm.trans single_ready.listed)
      exact ⟨result, ended, completes, completes.faultless single_faultless⟩

end Arguments

end CallAtlas
