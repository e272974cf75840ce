import CallAtlas.CommandLine.Run

/-!
What a run does for one analysed file after another. In its turn a file gets its
diagram, which is then rendered, and its pruned copy; where something cannot be
written or rendered, a message says so and the run goes on. What has been printed
stays printed.
-/

namespace CallAtlas

namespace Session

def Noted (session : Session) (line : String) : Prop :=
  (line ++ "\n").toList <:+: session.errors.toList

structure Grows (old new : Session) : Prop where
  output : old.output.toList <+: new.output.toList
  errors : old.errors.toList <+: new.errors.toList

section Sessions

variable {old middle new : Session}

theorem Grows.refl (session : Session) : Grows session session :=
  ⟨List.prefix_rfl, List.prefix_rfl⟩

theorem Grows.trans (first : Grows old middle) (second : Grows middle new) : Grows old new :=
  ⟨first.output.trans second.output, first.errors.trans second.errors⟩

theorem errors_note (session : Session) (line : String) :
    (session.note line).errors.toList = session.errors.toList ++ (line ++ "\n").toList := by
  rw [Session.note, String.append_assoc, String.toList_append]

theorem grown_note (session : Session) (line : String) :
    session.errors.toList <+: (session.note line).errors.toList := by
  rw [errors_note]
  exact List.prefix_append _ _

theorem noted_note (session : Session) (line : String) : Noted (session.note line) line := by
  rw [Noted, errors_note]
  exact (List.suffix_append _ _).isInfix

theorem grown_absorb (session : Session) (effects : Effects) :
    session.errors.toList <+: (session.absorb effects).errors.toList := by
  rw [Session.absorb, String.toList_append]
  exact List.prefix_append _ _

theorem Noted.grown {line : String} (noted : Noted old line)
    (grown : old.errors.toList <+: new.errors.toList) : Noted new line :=
  noted.trans grown.isInfix

theorem grows_note (session : Session) (line : String) : Grows session (session.note line) :=
  ⟨List.prefix_rfl, grown_note session line⟩

theorem grows_print (session : Session) (text : String) : Grows session (session.print text) := by
  refine ⟨?_, List.prefix_rfl⟩
  rw [Session.print, String.toList_append]
  exact List.prefix_append _ _

theorem grows_absorb (session : Session) (effects : Effects) :
    Grows session (session.absorb effects) := by
  refine ⟨?_, grown_absorb session effects⟩
  rw [Session.absorb, String.toList_append]
  exact List.prefix_append _ _

end Sessions

end Session

open Session (Grows Noted grown_note grows_absorb grows_note grows_print noted_note)

namespace Plan

def diagramTarget (plan : Plan) (input : Path) : Path :=
  Artifact.path plan.directory input Artifact.diagramSuffix

def prunedTarget (plan : Plan) (input : Path) : Path :=
  Artifact.path plan.directory input (Artifact.prunedSuffix input)

def rendering (plan : Plan) (tools : Toolkit) (dot image : Path) (files : FileSystem) : FileSystem :=
  (plan.render.render tools.host dot image files).2.files

def imageTarget (plan : Plan) (input : Path) : Path :=
  Artifact.path plan.directory input (Artifact.imageSuffix plan.render.formatName)

def renderLine (dot : Path) : RenderOutcome → Option String
  | .rendered output _ => some s!"Graph rendered to: {output.text}"
  | other => other.failure?.map fun failure => s!"[WARN] {failure.message} (DOT kept at {dot.text})"

def prunedLine (target : Path) (pruned : Pruned) : String :=
  s!"Removed {pruned.removed.length} function(s), pruned copy at: {target.text}"

/-- What writing a diagram comes to. -/
inductive Draws (plan : Plan) (tools : Toolkit) (input : Path) (analysis : Analysis)
    (old new : Session) : Prop where
  | drawn {files : FileSystem}
      (wrote : old.files.writeText (plan.diagramTarget input)
        (Dot.render (Diagram.ofAnalysis analysis)) = .ok files)
      (rendered : new.files =
        plan.rendering tools (plan.diagramTarget input) (plan.imageTarget input) files)
      (told : ∀ line, renderLine (plan.diagramTarget input) (plan.render.render tools.host
        (plan.diagramTarget input) (plan.imageTarget input) files).1 = some line → Noted new line)
  | refused {cause : FileError}
      (unwritten : old.files.writeText (plan.diagramTarget input)
        (Dot.render (Diagram.ofAnalysis analysis)) = .error cause)
      (same : new.files = old.files)
      (told : Noted new
        s!"[WARN] DOT write failed to {(plan.diagramTarget input).text}: {cause.message}")

/-- What writing a pruned copy comes to. -/
inductive Prunes (plan : Plan) (tools : Toolkit) (input : Path) (old new : Session) : Prop where
  | pruned {pruned : Pruned} {files : FileSystem}
      (done : plan.survey.prune tools.parser old.files input plan.remove = .ok pruned)
      (wrote : old.files.writeText (plan.prunedTarget input) (String.ofList pruned.source) =
        .ok files)
      (same : new.files = files)
      (told : Noted new (prunedLine (plan.prunedTarget input) pruned))
  | refused {pruned : Pruned} {cause : FileError}
      (done : plan.survey.prune tools.parser old.files input plan.remove = .ok pruned)
      (unwritten : old.files.writeText (plan.prunedTarget input) (String.ofList pruned.source) =
        .error cause)
      (same : new.files = old.files)
      (told : Noted new
        s!"[ERROR] Failed to write {(plan.prunedTarget input).text}: {cause.message}")
  | failed {failure : Failure}
      (undone : plan.survey.prune tools.parser old.files input plan.remove = .error failure)
      (same : new.files = old.files)
      (told : Noted new s!"[ERROR] Failed to rewrite {input.text}: {fullMessage failure}")

def Shown (plan : Plan) (analysis : Analysis) (old new : Session) : Prop :=
  plan.printDot = true →
    (old.output ++ (Dot.render (Diagram.ofAnalysis analysis) ++ "\n")).toList <+: new.output.toList

inductive Turns (plan : Plan) (tools : Toolkit) : List (Path × Analysis) → Session → Session → Prop
  | done (session : Session) : Turns plan tools [] session session
  | next {file : Path × Analysis} {rest : List (Path × Analysis)} {old drawn served last : Session}
      (diagram : plan.Draws tools file.1 file.2 old drawn) (shown : plan.Shown file.2 old drawn)
      (copy : if plan.remove.isEmpty then served = drawn else plan.Prunes tools file.1 drawn served)
      (later : Turns plan tools rest served last) : Turns plan tools (file :: rest) old last

section Steps

theorem Shown.grows {plan : Plan} {analysis : Analysis} {old middle new : Session}
    (shown : plan.Shown analysis old middle) (grows : Grows middle new) :
    plan.Shown analysis old new :=
  fun asked => (shown asked).trans grows.output

theorem noted_fold {α : Type} (items : List α) (line : α → String) (session : Session) :
    (items.foldl (fun session item => session.note (line item)) session).files = session.files ∧
      (items.foldl (fun session item => session.note (line item)) session).output =
        session.output ∧
      Grows session (items.foldl (fun session item => session.note (line item)) session) ∧
      ∀ item ∈ items,
        Noted (items.foldl (fun session item => session.note (line item)) session) (line item) := by
  induction items generalizing session with
  | nil => exact ⟨rfl, rfl, .refl session, fun item member => by cases member⟩
  | cons item rest ih =>
      obtain ⟨files, output, grows, noted⟩ := ih (session.note (line item))
      refine ⟨files, output, (grows_note session _).trans grows, fun other member => ?_⟩
      obtain rfl | later := List.mem_cons.mp member
      · exact (noted_note session _).grown grows.errors
      · exact noted other later

theorem writeDiagram_draws (plan : Plan) (tools : Toolkit) (input : Path) (analysis : Analysis)
    (session : Session) :
    plan.Draws tools input analysis session (plan.writeDiagram tools input analysis session) ∧
      plan.Shown analysis session (plan.writeDiagram tools input analysis session) ∧
      Grows session (plan.writeDiagram tools input analysis session) := by
  generalize final : plan.writeDiagram tools input analysis session = last
  unfold writeDiagram at final
  extract_lets dot shown dotPath at final
  have files' : shown.files = session.files := by
    simp only [shown]
    split <;> rfl
  have grows : Grows session shown := by
    simp only [shown]
    split
    · exact grows_print session _
    · exact .refl session
  have printed : plan.Shown analysis session shown := by
    intro asked
    have output : shown.output = session.output ++ (dot ++ "\n") := by
      simp only [shown, asked, if_true]
      rfl
    exact output ▸ List.prefix_rfl
  rw [files'] at final
  split at final
  · next cause unwritten =>
      subst final
      have noted := grows_note shown s!"[WARN] DOT write failed to {dotPath.text}: {cause.message}"
      exact ⟨.refused unwritten files' (noted_note shown _), printed.grows noted, grows.trans noted⟩
  · next files wrote =>
      split at final
      next outcome effects rendered =>
      -- At most one message is behind what the programs printed.
      have told : last.files = effects.files ∧ Grows shown last ∧
          ∀ line, renderLine dotPath outcome = some line → Noted last line := by
        have absorbed := grows_absorb shown effects
        dsimp only at final
        split at final
        · subst final
          refine ⟨rfl, absorbed.trans (grows_note _ _), fun line said => ?_⟩
          obtain rfl := Option.some.inj said
          exact noted_note _ _
        · next unrendered =>
            have said : renderLine dotPath outcome = outcome.failure?.map fun failure =>
                s!"[WARN] {failure.message} (DOT kept at {dotPath.text})" := by
              cases outcome with
              | rendered output install => exact absurd rfl (unrendered output install)
              | _ => rfl
            split at final
            · next failure failed =>
                subst final
                refine ⟨rfl, absorbed.trans (grows_note _ _), fun line about => ?_⟩
                rw [said, failed] at about
                obtain rfl := Option.some.inj about
                exact noted_note _ _
            · next failed =>
                subst final
                refine ⟨rfl, absorbed, fun line about => ?_⟩
                rw [said, failed] at about
                cases about
      obtain ⟨files'', grown, lines⟩ := told
      refine ⟨.drawn wrote ?_ ?_, printed.grows grown, grows.trans grown⟩
      · rw [files'', rendering]
        exact congrArg (·.2.files) rendered.symm
      · intro line about
        refine lines line ?_
        rw [← about]
        exact congrArg (fun result => renderLine dotPath result.1) rendered.symm

theorem writePruned_prunes (plan : Plan) (tools : Toolkit) (input : Path) (session : Session) :
    plan.Prunes tools input session (plan.writePruned tools input session) ∧
      Grows session (plan.writePruned tools input session) := by
  generalize final : plan.writePruned tools input session = last
  unfold writePruned at final
  cases pruning : plan.survey.prune tools.parser session.files input plan.remove with
  | error failure =>
      rw [pruning] at final
      dsimp only at final
      subst final
      exact ⟨.failed pruning rfl (noted_note _ _), grows_note _ _⟩
  | ok pruned =>
      rw [pruning] at final
      dsimp only at final
      obtain ⟨files', -, grows, -⟩ := noted_fold pruned.notFound
        (fun name => s!"[WARN] {input.text}: no function named `{name}`") session
      generalize pruned.notFound.foldl _ session = warned at final files' grows
      rw [files'] at final
      split at final
      · next cause unwritten =>
          subst final
          exact ⟨.refused pruning unwritten files' (noted_note _ _), grows.trans (grows_note _ _)⟩
      · next files wrote =>
          subst final
          exact ⟨.pruned pruning wrote rfl (noted_note _ _),
            grows.trans ⟨List.prefix_rfl, grown_note _ _⟩⟩

theorem writeArtifacts_turns (plan : Plan) (tools : Toolkit) (files : List (Path × Analysis))
    (session : Session) :
    plan.Turns tools files session (files.foldl (plan.writeArtifacts tools) session) ∧
      Grows session (files.foldl (plan.writeArtifacts tools) session) := by
  -- On the files that are left, with the session as the turns before have left it.
  induction files generalizing session with
  | nil => exact ⟨.done session, .refl session⟩
  | cons file rest ih =>
      rw [List.foldl_cons]
      obtain ⟨turns, grows⟩ := ih (plan.writeArtifacts tools session file)
      obtain ⟨draws, shown, grows'⟩ := writeDiagram_draws plan tools file.1 file.2 session
      by_cases keeps : plan.remove.isEmpty = true
      · have served : plan.writeArtifacts tools session file =
            plan.writeDiagram tools file.1 file.2 session := by
          rw [writeArtifacts, if_pos keeps]
        rw [served] at turns grows ⊢
        exact ⟨.next draws shown (by rw [if_pos keeps]) turns, grows'.trans grows⟩
      · have served : plan.writeArtifacts tools session file =
            plan.writePruned tools file.1 (plan.writeDiagram tools file.1 file.2 session) := by
          rw [writeArtifacts, if_neg keeps]
        rw [served] at turns grows ⊢
        obtain ⟨prunes, grows''⟩ := writePruned_prunes plan tools file.1
          (plan.writeDiagram tools file.1 file.2 session)
        refine ⟨.next draws shown ?_ turns, (grows'.trans grows'').trans grows⟩
        rw [if_neg keeps]
        exact prunes

end Steps

end Plan

end CallAtlas
