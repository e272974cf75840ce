import CallAtlas.Proofs.CommandLine.Turns
import CallAtlas.Proofs.FileSystem.Separation

/-!
The parts of a run that write. Each of them leaves the inputs and the outputs of the
others alone and only adds to the messages; what it was to write is there afterwards,
or a message says why it is not. Programs that render a diagram may do anything to
the files: the statements assume that, told to make the image of a diagram of this
run, they spare the inputs and what the run wrote.
-/

namespace CallAtlas

open FileSystem (Kept Shows Spares OutputsSeparate)

namespace Session

/-- A file of a run shows a text, or the run says why it could not be written. -/
def Delivered (session : Session) (target : Path) (text : String) (complaint : FileError → String) :
    Prop :=
  Shows session.files target text ∨ ∃ cause, Noted session (complaint cause)

structure Stage (inputs outputs images written : List Path) (old new : Session) : Prop where
  separate : OutputsSeparate inputs outputs images new.files
  kept : Kept (fun path => path ∈ inputs ∨ path ∈ outputs ∧ path ∉ written) old.files new.files
  grown : old.errors.toList <+: new.errors.toList

section Sessions

variable {inputs outputs images written written' : List Path} {old middle new session : Session}

theorem Stage.of_files (separate : OutputsSeparate inputs outputs images old.files)
    (same : new.files = old.files) (grown : old.errors.toList <+: new.errors.toList) :
    Stage inputs outputs images written old new := by
  refine ⟨same ▸ separate, ?_, grown⟩
  rw [same]
  exact .refl _ _

theorem Stage.trans (first : Stage inputs outputs images written old middle)
    (second : Stage inputs outputs images written' middle new) :
    Stage inputs outputs images (written ++ written') old new where
  separate := second.separate
  kept := by
    refine (first.kept.mono ?_).trans (second.kept.mono ?_)
    · rintro path (input | ⟨output, unwritten⟩)
      · exact .inl input
      · exact .inr ⟨output, fun early => unwritten (List.mem_append_left _ early)⟩
    · rintro path (input | ⟨output, unwritten⟩)
      · exact .inl input
      · exact .inr ⟨output, fun late => unwritten (List.mem_append_right _ late)⟩
  grown := first.grown.trans second.grown

/-- A part of a run that writes one output and then spares what it wrote. -/
theorem Stage.of_write {target : Path} {text : String} {files : FileSystem}
    (separate : OutputsSeparate inputs outputs images old.files) (member : target ∈ outputs)
    (done : old.files.writeText target text = .ok files)
    (spared : OutputsSeparate inputs outputs images files →
      OutputsSeparate inputs outputs images new.files ∧
      Kept (fun path => path ∈ inputs ∨ path ∈ outputs) files new.files)
    (grown : old.errors.toList <+: new.errors.toList) :
    Stage inputs outputs images [target] old new ∧ Shows new.files target text := by
  obtain ⟨separate', kept, shows⟩ := separate.write member done
  obtain ⟨separate'', kept'⟩ := spared separate'
  refine ⟨⟨separate'', (kept.mono ?_).trans (kept'.mono ?_), grown⟩, shows.kept kept' (.inr member)⟩
  · intro path wanted
    exact wanted.imp_right fun ⟨output, other⟩ => ⟨output, by simpa using other⟩
  · intro path wanted
    exact wanted.imp_right (·.1)

theorem Delivered.stage {target : Path} {text : String} {complaint : FileError → String}
    (delivered : Delivered old target text complaint)
    (stage : Stage inputs outputs images written old new)
    (output : target ∈ outputs) (unwritten : target ∉ written) :
    Delivered new target text complaint := by
  obtain shows | ⟨cause, noted⟩ := delivered
  · exact .inl (shows.kept stage.kept (.inr ⟨output, unwritten⟩))
  · exact .inr ⟨cause, noted.grown stage.grown⟩

end Sessions

end Session

open Session (Delivered Noted Stage)

namespace Plan

section Stages

variable {inputs outputs images : List Path} {plan : Plan} {tools : Toolkit} {session : Session}
  {input : Path} {analysis : Analysis}

def DiagramDelivered (plan : Plan) (input : Path) (analysis : Analysis) (session : Session) : Prop :=
  Delivered session (plan.diagramTarget input) (Dot.render (Diagram.ofAnalysis analysis))
    fun cause => s!"[WARN] DOT write failed to {(plan.diagramTarget input).text}: {cause.message}"

theorem spares_of_disabled (off : plan.render.isEnabled = false) (dot image : Path) :
    Spares inputs outputs images (plan.rendering tools dot image) := by
  intro files separate
  have same : plan.rendering tools dot image files = files := by
    rw [rendering, RenderSection.render, off]
    rfl
  rw [same]
  exact ⟨separate, .refl _ files⟩

theorem writeDiagram_stage (separate : OutputsSeparate inputs outputs images session.files)
    (spares : Spares inputs outputs images
      (plan.rendering tools (plan.diagramTarget input) (plan.imageTarget input)))
    (member : plan.diagramTarget input ∈ outputs) :
    Stage inputs outputs images [plan.diagramTarget input] session
        (plan.writeDiagram tools input analysis session) ∧
      plan.DiagramDelivered input analysis (plan.writeDiagram tools input analysis session) := by
  obtain ⟨draws, -, grows⟩ := writeDiagram_draws plan tools input analysis session
  cases draws with
  | drawn wrote rendered told =>
      obtain ⟨stage, shows⟩ := Stage.of_write separate member wrote
        (fun separate' => rendered ▸ spares _ separate') grows.errors
      exact ⟨stage, .inl shows⟩
  | @refused cause unwritten same told =>
      exact ⟨.of_files separate same grows.errors, .inr ⟨cause, told⟩⟩

/-- The pruned copy of an input, made of what some files show, is there, or the run says why not. -/
def PrunedDelivered (plan : Plan) (tools : Toolkit) (files : FileSystem) (input : Path)
    (session : Session) : Prop :=
  match plan.survey.prune tools.parser files input plan.remove with
  | .error failure =>
      Noted session s!"[ERROR] Failed to rewrite {input.text}: {fullMessage failure}"
  | .ok pruned =>
      Delivered session (plan.prunedTarget input) (String.ofList pruned.source)
        fun cause => s!"[ERROR] Failed to write {(plan.prunedTarget input).text}: {cause.message}"

theorem writePruned_stage (separate : OutputsSeparate inputs outputs images session.files)
    (member : plan.prunedTarget input ∈ outputs) :
    Stage inputs outputs images [plan.prunedTarget input] session
        (plan.writePruned tools input session) ∧
      plan.PrunedDelivered tools session.files input (plan.writePruned tools input session) := by
  obtain ⟨prunes, grows⟩ := writePruned_prunes plan tools input session
  unfold PrunedDelivered
  cases prunes with
  | pruned done wrote same told =>
      rw [done]
      refine And.imp_right Or.inl (Stage.of_write separate member wrote ?_ grows.errors)
      rw [same]
      exact fun separate' => ⟨separate', .refl _ _⟩
  | @refused pruned cause done unwritten same told =>
      rw [done]
      exact ⟨.of_files separate same grows.errors, .inr ⟨cause, told⟩⟩
  | failed undone same told =>
      rw [undone]
      exact ⟨.of_files separate same grows.errors, told⟩

def targets (plan : Plan) (input : Path) : List Path :=
  plan.diagramTarget input :: if plan.remove.isEmpty then [] else [plan.prunedTarget input]

/-- The artifacts of an analysed file are there, or the run says why not. -/
structure Served (plan : Plan) (tools : Toolkit) (files : FileSystem) (file : Path × Analysis)
    (session : Session) : Prop where
  diagram : plan.DiagramDelivered file.1 file.2 session
  pruned : plan.remove.isEmpty = false → plan.PrunedDelivered tools files file.1 session

theorem prune_of_look {files : FileSystem} {object : FileTree}
    (seen : files.look input = some object) (seen' : session.files.look input = some object) :
    plan.survey.prune tools.parser session.files input plan.remove =
      plan.survey.prune tools.parser files input plan.remove := by
  have same : session.files.read input = files.read input := FileSystem.read_of_look seen seen'
  unfold Survey.prune readSource FileSystem.readText
  rw [same]

theorem PrunedDelivered.stage {files : FileSystem} {written : List Path} {new : Session}
    (delivered : plan.PrunedDelivered tools files input session)
    (stage : Stage inputs outputs images written session new)
    (output : plan.prunedTarget input ∈ outputs)
    (unwritten : plan.prunedTarget input ∉ written) :
    plan.PrunedDelivered tools files input new := by
  unfold PrunedDelivered at delivered ⊢
  cases pruning : plan.survey.prune tools.parser files input plan.remove with
  | error failure =>
      rw [pruning] at delivered
      exact Noted.grown delivered stage.grown
  | ok pruned =>
      rw [pruning] at delivered
      exact Delivered.stage delivered stage output unwritten

theorem Served.stage {files : FileSystem} {file : Path × Analysis} {written : List Path}
    {new : Session} (served : plan.Served tools files file session)
    (stage : Stage inputs outputs images written session new)
    (free : ∀ target ∈ plan.targets file.1, target ∈ outputs ∧ target ∉ written) :
    plan.Served tools files file new where
  diagram := by
    obtain ⟨output, unwritten⟩ := free _ List.mem_cons_self
    exact Delivered.stage served.diagram stage output unwritten
  pruned removing := by
    obtain ⟨output, unwritten⟩ := free (plan.prunedTarget file.1) (by simp [targets, removing])
    exact PrunedDelivered.stage (served.pruned removing) stage output unwritten

theorem writeArtifacts_stage {files : FileSystem} {file : Path × Analysis} {object : FileTree}
    (separate : OutputsSeparate inputs outputs images session.files)
    (spares : Spares inputs outputs images
      (plan.rendering tools (plan.diagramTarget file.1) (plan.imageTarget file.1)))
    (apart : (plan.targets file.1).Nodup) (members : plan.targets file.1 ⊆ outputs)
    (input : file.1 ∈ inputs) (plain : object.isDirectory = false)
    (seen : files.look file.1 = some object) (kept : Kept (· ∈ inputs) files session.files) :
    Stage inputs outputs images (plan.targets file.1) session
        (plan.writeArtifacts tools session file) ∧
      plan.Served tools files file (plan.writeArtifacts tools session file) := by
  obtain ⟨stage, diagram⟩ : Stage inputs outputs images [plan.diagramTarget file.1] session
      (plan.writeDiagram tools file.1 file.2 session) ∧ _ :=
    writeDiagram_stage separate spares (members List.mem_cons_self)
  unfold writeArtifacts
  dsimp only
  generalize plan.writeDiagram tools file.1 file.2 session = drawn at stage diagram ⊢
  cases empty : plan.remove.isEmpty with
  | true =>
      rw [targets, if_pos empty, if_pos rfl]
      exact ⟨stage, diagram, fun removing => by simp [empty] at removing⟩
  | false =>
      have spelled : plan.targets file.1 =
          [plan.diagramTarget file.1] ++ [plan.prunedTarget file.1] := by
        simp [targets, empty]
      rw [spelled] at apart members ⊢
      rw [if_neg (by simp)]
      obtain ⟨stage', pruned⟩ : Stage inputs outputs images [plan.prunedTarget file.1] drawn
          (plan.writePruned tools file.1 drawn) ∧ _ :=
        writePruned_stage stage.separate (members (by simp))
      refine ⟨stage.trans stage', ?_, fun _ => ?_⟩
      · refine Delivered.stage diagram stage' (members List.mem_cons_self) fun twice => ?_
        exact (List.nodup_cons.mp apart).1 twice
      · -- The copy is made of the input as it is after the diagram was written, which is as it was.
        have seen' := stage.kept file.1 object (.inl input) plain
          (kept file.1 object input plain seen)
        unfold PrunedDelivered at pruned ⊢
        rw [prune_of_look seen seen'] at pruned
        exact pruned

theorem artifacts_stage {files : FileSystem} {left : List (Path × Analysis)}
    (spares : ∀ file ∈ left, Spares inputs outputs images
      (plan.rendering tools (plan.diagramTarget file.1) (plan.imageTarget file.1)))
    (separate : OutputsSeparate inputs outputs images session.files)
    (apart : (left.flatMap fun file => plan.targets file.1).Nodup)
    (members : (left.flatMap fun file => plan.targets file.1) ⊆ outputs)
    (seen : ∀ file ∈ left, file.1 ∈ inputs ∧
      ∃ object, object.isDirectory = false ∧ files.look file.1 = some object)
    (kept : Kept (· ∈ inputs) files session.files) :
    Stage inputs outputs images (left.flatMap fun file => plan.targets file.1) session
        (left.foldl (plan.writeArtifacts tools) session) ∧
      ∀ file ∈ left,
        plan.Served tools files file (left.foldl (plan.writeArtifacts tools) session) := by
  -- The induction is on what is left to write; later artifacts spare the earlier ones.
  induction left generalizing session with
  | nil => exact ⟨.of_files separate rfl List.prefix_rfl, fun file member => by cases member⟩
  | cons file rest ih =>
      rw [List.flatMap_cons] at apart members ⊢
      rw [List.foldl_cons]
      obtain ⟨own, later, unlike⟩ := List.nodup_append.mp apart
      obtain ⟨input, object, plain, look⟩ := seen file List.mem_cons_self
      obtain ⟨stage, served⟩ := writeArtifacts_stage separate (spares file List.mem_cons_self) own
        (fun target member => members (List.mem_append_left _ member)) input plain look kept
      obtain ⟨stage', served'⟩ := ih
        (fun file member => spares file (List.mem_cons_of_mem _ member)) stage.separate later
        (fun target member => members (List.mem_append_right _ member))
        (fun file member => seen file (List.mem_cons_of_mem _ member))
        (kept.trans (stage.kept.mono fun path input => .inl input))
      refine ⟨stage.trans stage', fun other member => ?_⟩
      obtain rfl | member := List.mem_cons.mp member
      · refine served.stage stage' fun target mine => ⟨members (List.mem_append_left _ mine), ?_⟩
        intro theirs
        exact unlike target mine target theirs rfl
      · exact served' other member

end Stages

end Plan

end CallAtlas
