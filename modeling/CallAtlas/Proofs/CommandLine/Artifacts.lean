import CallAtlas.Proofs.CommandLine.ArtifactNames
import CallAtlas.Proofs.CommandLine.Preparation
import CallAtlas.Proofs.CommandLine.Stages
import CallAtlas.Proofs.Tree.Sketch

/-!
What a run writes. The artifacts of the inputs have different paths exactly if their
names are apart. If they have, and lead to different files of which none is an
input or an image, and if the renderer leaves all but its image alone, then every
input is after the run what it was before, and every analysed input has its diagram
and its pruned copy, or a message says why it has not (`artifacts_exact`).
-/

namespace CallAtlas

open FileSystem (Kept Spares Unshared OutputsSeparate WritesAtMost)
open Session (Stage)

namespace RenderSection

/-- A renderer that, told to make an image of a diagram, writes the image at most. -/
def OnlyDraws (render : RenderSection) (host : Host) (dot image : Path) : Prop :=
  ∀ files program execution,
    host.start files program ["-T" ++ render.formatName, dot.text, "-o", image.text] =
      .ok execution →
    execution.files = files ∨ ∃ content, files.write image content = .ok execution.files

theorem OnlyDraws.writesAtMost {given : RenderSection} {host : Host} {dot image : Path}
    (draws : given.OnlyDraws host dot image) (none : given.installCommand = none) :
    WritesAtMost image fun files => (given.render host dot image files).2.files := by
  intro files
  have skipped : given.install host files = (.skipped, { files }) := by
    rw [install, none]
  dsimp only
  unfold render
  split
  · exact .inl rfl
  · split
    · unfold runRenderer
      dsimp only
      split
      · exact .inl rfl
      · next execution started => exact draws files _ execution started
    · rw [skipped]
      exact .inl rfl

end RenderSection

namespace Prepared

def inputs (prepared : Prepared) : List Path :=
  prepared.results.files.map (·.path)

def analysed (prepared : Prepared) : List Path :=
  prepared.results.succeeded.map (·.1)

def removing (prepared : Prepared) : Bool :=
  !prepared.plan.remove.isEmpty

def names (prepared : Prepared) : List String :=
  prepared.analysed.flatMap (Artifact.names prepared.removing)

def outputs (prepared : Prepared) : List Path :=
  Artifact.outputs prepared.plan.directory prepared.removing prepared.analysed

def imageNames (prepared : Prepared) : List String :=
  if prepared.plan.render.isEnabled then
    prepared.analysed.map fun input =>
      Artifact.stem input ++ Artifact.imageSuffix prepared.plan.render.formatName
  else []

def images (prepared : Prepared) : List Path :=
  prepared.imageNames.map prepared.plan.directory.join

def rendering (prepared : Prepared) (tools : Toolkit) (input : Path) : FileSystem → FileSystem :=
  prepared.plan.rendering tools (prepared.plan.diagramTarget input)
    (prepared.plan.imageTarget input)

variable {tools : Toolkit} {arguments : Arguments} {files : FileSystem} {prepared : Prepared}

theorem outputs_eq_targets (prepared : Prepared) :
    prepared.outputs =
      prepared.results.succeeded.flatMap fun file => prepared.plan.targets file.1 := by
  have own : ∀ input, (Artifact.names prepared.removing input).map prepared.plan.directory.join =
      prepared.plan.targets input := by
    intro input
    rw [Artifact.names, removing, Plan.targets]
    cases prepared.plan.remove.isEmpty <;> rfl
  rw [outputs, Artifact.outputs, analysed, List.flatMap_map, List.map_flatMap]
  exact congrArg (prepared.results.succeeded.flatMap) (funext fun file => own file.1)

theorem prepared_exact (ready : Plan.prepare tools arguments files = .ok prepared) :
    prepared.files = (files.createAll prepared.plan.directory).1 ∧
      prepared.plan.survey.run tools.schedule tools.parser prepared.files =
        .ok prepared.results := by
  obtain ⟨error, below, stops, early⟩ | ⟨settings, directory, below, paths, lists⟩ :=
    arguments.stops_or_lists tools files
  · rw [Arguments.prepare_of_stops stops early] at ready
    cases ready
  · rw [Arguments.prepare_of_lists lists] at ready
    obtain rfl := Except.ok.inj ready
    refine ⟨by rw [Arguments.plan, lists.made], ?_⟩
    unfold Survey.run
    rw [Arguments.plan, lists.listed]
    rfl

theorem look_of_readSource {path : Path} {source : List Char}
    (read : readSource files path = .ok source) :
    ∃ object, object.isDirectory = false ∧ files.look path = some object := by
  unfold readSource at read
  split at read
  · next text got =>
      obtain ⟨content, got, -⟩ := exists_of_bind got
      exact FileSystem.look_of_read got
  · cases read

theorem seen_of_analysed (run : prepared.plan.survey.run tools.schedule tools.parser
    prepared.files = .ok prepared.results) {file : Path × Analysis}
    (member : file ∈ prepared.results.succeeded) :
    file.1 ∈ prepared.inputs ∧
      ∃ object, object.isDirectory = false ∧ prepared.files.look file.1 = some object := by
  obtain ⟨paths, -, run⟩ := exists_of_bind run
  obtain ⟨result, listed, made⟩ := List.mem_filterMap.mp member
  have inside : result.path ∈ prepared.inputs := List.mem_map.mpr ⟨result, listed, rfl⟩
  rw [← Except.ok.inj run] at listed
  obtain ⟨path, -, rfl⟩ := List.mem_map.mp listed
  split at made
  · next analysis analysed =>
      obtain rfl := Option.some.inj made
      obtain ⟨source, read, -⟩ := exists_of_bind analysed
      exact ⟨inside, look_of_readSource read⟩
  · cases made

theorem run_exact (ready : Plan.prepare tools arguments files = .ok prepared)
    (reached : prepared.results.fatal? = none) :
    ∃ start : Session, start.files = prepared.files ∧
      (arguments.run tools files).session = prepared.results.failed.foldl
        (fun session file => session.note s!"[ERROR] {file.1.text}: {file.2.message}")
        (prepared.results.succeeded.foldl (prepared.plan.writeArtifacts tools) start) := by
  unfold Arguments.run
  rw [ready]
  dsimp only
  rw [reached]
  -- The reports and the warning about no sources are printed before; they leave the files alone.
  refine ⟨_, ?_, rfl⟩
  dsimp only [Session.print]
  split <;> rfl

theorem look_prepared (standing : files.Standing)
    (ready : Plan.prepare tools arguments files = .ok prepared) {path : Path} {object : FileTree}
    (plain : object.isDirectory = false) (seen : files.look path = some object) :
    prepared.files.look path = some object := by
  rw [(prepared_exact ready).1]
  exact FileSystem.look_of_changed (FileSystem.onlyMakes_createAll files _).old standing plain
    (fun location _ there => there) seen

theorem imageTarget_mem (on : prepared.plan.render.isEnabled = true) {file : Path × Analysis}
    (member : file ∈ prepared.results.succeeded) :
    prepared.plan.imageTarget file.1 ∈ prepared.images := by
  have analysed : file.1 ∈ prepared.analysed := List.mem_map_of_mem member
  rw [images, imageNames, if_pos on, List.map_map]
  exact List.mem_map_of_mem analysed

theorem spares_of_writesAtMost {file : Path × Analysis}
    (member : file ∈ prepared.results.succeeded)
    (writes : WritesAtMost (prepared.plan.imageTarget file.1) (prepared.rendering tools file.1)) :
    Spares prepared.inputs prepared.outputs prepared.images
      (prepared.rendering tools file.1) := by
  cases on : prepared.plan.render.isEnabled with
  | true => exact writes.spares (imageTarget_mem on member)
  | false => exact Plan.spares_of_disabled on _ _

theorem run_serves (ready : Plan.prepare tools arguments files = .ok prepared)
    (reached : prepared.results.fatal? = none) (distinct : prepared.outputs.Nodup)
    (separate : OutputsSeparate prepared.inputs prepared.outputs prepared.images prepared.files)
    (spares : ∀ file ∈ prepared.results.succeeded, Spares prepared.inputs prepared.outputs
      prepared.images (prepared.rendering tools file.1)) :
    Kept (· ∈ prepared.inputs) prepared.files (arguments.run tools files).session.files ∧
      ∀ file ∈ prepared.results.succeeded,
        prepared.plan.Served tools prepared.files file (arguments.run tools files).session := by
  obtain ⟨start, same, final⟩ := run_exact ready reached
  rw [outputs_eq_targets] at distinct separate spares
  obtain ⟨stage, served⟩ := Plan.artifacts_stage spares (same ▸ separate) distinct
    (fun target member => member)
    (fun file member => seen_of_analysed (prepared_exact ready).2 member) (same ▸ .refl _ _)
  rw [final]
  generalize prepared.results.succeeded.foldl (prepared.plan.writeArtifacts tools) start =
    written at stage served
  -- The messages about files that failed are all that is left.
  obtain ⟨files', -, grows, -⟩ := Plan.noted_fold prepared.results.failed
    (fun file => s!"[ERROR] {file.1.text}: {file.2.message}") written
  have told : Stage prepared.inputs _ prepared.images [] written _ :=
    .of_files stage.separate files' grows.errors
  constructor
  · rw [files', ← same]
    exact stage.kept.mono fun input member => .inl member
  · intro file member
    refine (served file member).stage told fun target mine => ?_
    exact ⟨List.mem_flatMap.mpr ⟨file, member, mine⟩, List.not_mem_nil⟩

/-- The outputs of a run have different paths if and only if the names of its inputs are apart. If
the entries of the output directory that belong to outputs and images are nothing else, then the
outputs are different files and neither inputs nor images. Under both conditions, and if rendering
spares inputs and outputs, as it does if it writes its image at most, no input is changed and every
analysed input is served. -/
theorem artifacts_exact (standing : files.Standing)
    (ready : Plan.prepare tools arguments files = .ok prepared)
    (reached : prepared.results.fatal? = none) :
    (prepared.outputs.Nodup ↔ Artifact.NamesApart prepared.removing prepared.analysed) ∧
    ((∀ name ∈ prepared.imageNames, Path.IsName name ∧ name ∉ prepared.names) →
      Unshared prepared.inputs prepared.plan.directory (prepared.names ++ prepared.imageNames)
        prepared.files →
      OutputsSeparate prepared.inputs prepared.outputs prepared.images prepared.files) ∧
    (∀ file ∈ prepared.results.succeeded,
      WritesAtMost (prepared.plan.imageTarget file.1) (prepared.rendering tools file.1) →
      Spares prepared.inputs prepared.outputs prepared.images
        (prepared.rendering tools file.1)) ∧
    (Artifact.NamesApart prepared.removing prepared.analysed →
      OutputsSeparate prepared.inputs prepared.outputs prepared.images prepared.files →
      (∀ file ∈ prepared.results.succeeded, Spares prepared.inputs prepared.outputs
        prepared.images (prepared.rendering tools file.1)) →
      (∀ input ∈ prepared.inputs, ∀ object, object.isDirectory = false →
        files.look input = some object ∨ prepared.files.look input = some object →
        (arguments.run tools files).session.files.look input = some object) ∧
      ∀ file ∈ prepared.results.succeeded,
        prepared.plan.Served tools prepared.files file (arguments.run tools files).session) := by
  have different := Artifact.outputs_nodup_iff prepared.plan.directory prepared.removing
    prepared.analysed
  refine ⟨different, fun plain unshared => unshared.separate ?_ fun name member =>
    (plain name member).2, fun file member => spares_of_writesAtMost member,
    fun apart separate spares => ?_⟩
  · intro name member
    obtain output | image := List.mem_append.mp member
    · obtain ⟨input, -, named⟩ := List.mem_flatMap.mp output
      exact Artifact.isName_of_mem named
    · exact (plain name image).1
  · obtain ⟨kept, served⟩ := run_serves ready reached (different.mpr apart) separate spares
    refine ⟨fun input member object plain seen => kept input object member plain ?_, served⟩
    exact seen.elim (look_prepared standing ready plain) id

def draw (files : FileSystem) (image : Path) : Except FileError Execution :=
  (files.write image .empty).map fun files =>
    { files, status := .exited 0, output := .empty, errors := .empty }

/-- `function f() {}` for every source, and a renderer that writes the file it is told to. -/
def toolkit : Toolkit where
  parser := fun _ => .ok
    { root := Sketch.rule "program" 0 15 [Sketch.function "function_declaration" 0 15 []]
      flawed := false }
  host :=
    { programs := ⟨"/bin"⟩
      launch := fun files _ arguments =>
        match arguments with
        | [_, _, _, image] => draw files ⟨image⟩
        | _ => .error .notFound }
  schedule := .inOrder

def source : FileTree := .plainFile "function f() \x7b\x7d".toUTF8

def programs : FileTree := .plainDirectory [("dot", .file .empty { mode := 0o755 })]

def sources : FileSystem where
  root := .plainDirectory
    [("a.js", source), ("a.ts", source), ("b.js", source), ("bin", programs)]
  workingDirectory := []

def request (second : Path) : Arguments :=
  { paths := [⟨"a.js"⟩, second], remove := ["f"] }

def planned (second : Path) : Prepared where
  plan :=
    { json := false, printDot := false, remove := ["f"], render := {}
      directory := ⟨"."⟩, survey := { inputs := [⟨"a.js"⟩, second] } }
  files := sources
  results :=
    ⟨[⟨"a.js"⟩, second].map fun path => ⟨path, analyzeFile toolkit.parser {} sources path⟩⟩

structure Second (path : Path) : Prop where
  found : SourceFiles.ofInput .inOrder sources [] path = .ok [path]
  later : Path.le ⟨"a.js"⟩ path = true
  other : Path.same ⟨"a.js"⟩ path = false

theorem Second.collect {second : Path} (isSecond : Second second) :
    SourceFiles.collect .inOrder sources [] [⟨"a.js"⟩, second] = .ok [⟨"a.js"⟩, second] := by
  have first : SourceFiles.ofInput .inOrder sources [] ⟨"a.js"⟩ = .ok [⟨"a.js"⟩] := rfl
  have sorted : Path.sort [⟨"a.js"⟩, second] = [⟨"a.js"⟩, second] :=
    List.mergeSort_of_pairwise (by simp [isSecond.later])
  unfold SourceFiles.collect
  rw [List.mapM_cons, first, List.mapM_cons, isSecond.found]
  change Except.ok (Path.dedup (Path.sort [⟨"a.js"⟩, second])) = _
  rw [sorted, Path.dedup, Path.dedupFrom, isSecond.other]
  rfl

theorem prepare_request {second : Path} (isSecond : Second second) :
    Plan.prepare toolkit (request second) sources = .ok (planned second) := by
  have settings : (request second).loadSettings sources = .ok {} := by
    have beside : (request second).settingsDirectory sources = ⟨"."⟩ := rfl
    have none : Settings.load sources ⟨"."⟩ = .ok none := rfl
    change (Settings.load sources ((request second).settingsDirectory sources) >>= _) = _
    rw [beside, none]
    rfl
  have checked : OutputDirectory.check ((request second).outputText {}) = .ok ⟨"."⟩ := by
    have text : (request second).outputText {} = "." := rfl
    rw [text]
    rfl
  exact @Arguments.prepare_of_lists toolkit _ _ _ _ _ _ ⟨settings, checked, rfl, isSecond.collect⟩

def Unnumbered (tree : FileTree) : Prop :=
  ∀ location object, tree.at? location = some object → object.identity? = none

theorem unnumbered_directory {entries : List (String × FileTree)} {attributes : Attributes}
    (own : attributes.identity = none) (each : ∀ entry ∈ entries, Unnumbered entry.2) :
    Unnumbered (.directory entries attributes) := by
  intro location object found
  cases location with
  | nil => exact Option.some.inj found ▸ own
  | cons name rest =>
      obtain ⟨entry, listed, below⟩ := Option.bind_eq_some_iff.mp found
      obtain ⟨before, after, split, -⟩ := List.lookup_eq_some_iff.mp listed
      change entries = _ at split
      exact each (name, entry) (by simp [split]) rest object below

theorem unnumbered_file {content : ByteArray} {attributes : Attributes}
    (own : attributes.identity = none) : Unnumbered (.file content attributes) := by
  intro location object found
  obtain ⟨-, rfl⟩ := FileTree.at?_of_not_directory rfl found
  exact own

theorem unnumbered_sources : Unnumbered sources.root := by
  have text : Unnumbered source := unnumbered_file rfl
  have dot : Unnumbered programs := unnumbered_directory rfl (by simpa using unnumbered_file rfl)
  exact unnumbered_directory rfl (by simpa using ⟨text, dot⟩)

def written : List String :=
  ["a.dot", "a.pruned.js", "b.dot", "b.pruned.js", "a.png", "b.png"]

theorem names_planned :
    (planned ⟨"b.js"⟩).names ++ (planned ⟨"b.js"⟩).imageNames = written := by
  decide +kernel

theorem unshared_planned : Unshared (planned ⟨"b.js"⟩).inputs ⟨"."⟩
    ((planned ⟨"b.js"⟩).names ++ (planned ⟨"b.js"⟩).imageNames) sources where
  standing := rfl
  sound first second object other identity found _ _ number := by
    rw [unnumbered_sources first object found] at number
    cases number
  entries := by
    refine ⟨[], sources.root, rfl, rfl, ?_⟩
    have absent : ∀ name ∈ written, sources.root.at? ([] ++ [name]) = none := by
      intro name member
      simp only [written, List.mem_cons, List.not_mem_nil, or_false] at member
      obtain rfl | rfl | rfl | rfl | rfl | rfl := member <;> rfl
    rw [names_planned]
    intro name member
    refine ⟨?_, ?_, ?_⟩
    · intro target
      rw [absent name member]
      simp
    · rw [absent name member]
      rfl
    · rintro input isInput ⟨found, there, here⟩
      have placed : ∃ own ∈ ["a.js", "b.js"],
          sources.find input true = .ok (.present [own] source) := by
        obtain rfl | rfl : input = ⟨"a.js"⟩ ∨ input = ⟨"b.js"⟩ := by
          simpa [inputs, planned] using isInput
        · exact ⟨"a.js", by simp, rfl⟩
        · exact ⟨"b.js", by simp, rfl⟩
      obtain ⟨own, isOwn, leads⟩ := placed
      obtain rfl := Except.ok.inj (there.symm.trans leads)
      obtain rfl : own = name := (List.cons.inj here).1
      have unlike : ∀ own ∈ ["a.js", "b.js"], own ∉ written := by
        decide
      exact unlike own isOwn member

theorem launch_toolkit (files : FileSystem) (program : Path) (format dot flag image : String) :
    toolkit.host.launch files program [format, dot, flag, image] = draw files ⟨image⟩ :=
  rfl

theorem write_of_draw {image : Path} {execution : Execution}
    (drawn : draw files image = .ok execution) :
    files.write image .empty = .ok execution.files := by
  rw [draw] at drawn
  cases done : files.write image .empty with
  | error cause =>
      rw [done] at drawn
      cases drawn
  | ok new =>
      rw [done] at drawn
      obtain rfl := Except.ok.inj drawn
      rfl

theorem rendering_writes (second input : Path) :
    WritesAtMost ((planned second).plan.imageTarget input)
      ((planned second).rendering toolkit input) := by
  refine RenderSection.OnlyDraws.writesAtMost ?_ rfl
  intro files program execution started
  unfold Host.start at started
  split at started
  · cases started
  · rw [launch_toolkit] at started
    exact .inr ⟨.empty, write_of_draw started⟩

theorem pair_served :
    (∀ input ∈ (planned ⟨"b.js"⟩).inputs,
      ((request ⟨"b.js"⟩).run toolkit sources).session.files.look input = some source) ∧
    (∀ file ∈ (planned ⟨"b.js"⟩).results.succeeded,
      (planned ⟨"b.js"⟩).plan.Served toolkit sources file
        ((request ⟨"b.js"⟩).run toolkit sources).session) ∧
    (planned ⟨"b.js"⟩).analysed = [⟨"a.js"⟩, ⟨"b.js"⟩] ∧
    ((request ⟨"b.js"⟩).run toolkit sources).session.files.isFileAt ⟨"./a.png"⟩ = true ∧
    ¬ (planned ⟨"a.ts"⟩).outputs.Nodup := by
  have standing : sources.Standing := rfl
  have ready : Plan.prepare toolkit (request ⟨"b.js"⟩) sources = .ok (planned ⟨"b.js"⟩) :=
    prepare_request ⟨rfl, by decide, by decide⟩
  obtain ⟨-, separate, spares, kept⟩ := artifacts_exact standing ready rfl
  obtain ⟨clashing, -⟩ := artifacts_exact standing
    (@prepare_request ⟨"a.ts"⟩ ⟨rfl, by decide, by decide⟩) rfl
  obtain ⟨unchanged, served⟩ := kept (by decide +kernel)
    (separate (by decide +kernel) unshared_planned) (fun file member => spares file member (rendering_writes _ file.1))
  refine ⟨?_, served, by decide +kernel, ?_, ?_⟩
  · intro input isInput
    refine unchanged input isInput source rfl (.inl ?_)
    obtain rfl | rfl : input = ⟨"a.js"⟩ ∨ input = ⟨"b.js"⟩ := by
      simpa [inputs, planned] using isInput
    · rfl
    · rfl
  · unfold Arguments.run
    rw [ready]
    decide +kernel
  · rw [clashing]
    decide +kernel

end Prepared

end CallAtlas
