import CallAtlas.CommandLine.Plan
import CallAtlas.Proofs.CommandLine.ArtifactNames

/-!
Where artifacts end up. A diagram and a pruned copy are always one name behind the
output directory. The image is named with a format, and a format from the settings
can hold slashes: then the image may be further down, or up and out of the
directory. The formats that the command line offers keep it where the others are.
-/

namespace CallAtlas

namespace Path

/-- A path that consists of a directory and one more name. -/
def RightInside (directory path : Path) : Prop :=
  ∃ name, path.components = directory.components ++ [.name name]

theorem rightInside_join (directory : Path) {name : String} (isName : IsName name) :
    RightInside directory (directory.join name) := by
  have busy : isIdle name = false := by simp [isIdle, isName.not_empty, isName.not_here]
  refine ⟨name, ?_⟩
  rw [components_join directory (pieces_of_isName isName) busy]
  simp [step?_of_isName isName]

end Path

namespace OutputDirectory

theorem up_not_mem_of_check {text : String} {directory : Path} (accepted : check text = .ok directory) :
    Component.up ∉ directory.components := by
  unfold check at accepted
  split at accepted
  · cases accepted
  · split at accepted
    · cases accepted
    · next level =>
        split at accepted
        · cases accepted
        · obtain rfl := Except.ok.inj accepted
          simpa using level

end OutputDirectory

namespace Arguments

/-- Arguments with a format have one of those that are offered. -/
def FormatOffered (arguments : Arguments) : Prop :=
  ∀ format, arguments.format = some format → format ∈ formats

section Reading

variable {arguments next : Arguments} {pending pending' : Pending}

theorem setFlag_format {which : Flag} (set : arguments.setFlag which = some next) :
    next.format = arguments.format := by
  cases which <;> simp only [setFlag] at set <;> split at set <;> cases set <;> rfl

theorem setValues_offered {which : Valued} {values : List String}
    (set : arguments.setValues which values = some next) (offered : arguments.FormatOffered) :
    next.FormatOffered := by
  unfold setValues at set
  split at set
  · split at set
    · cases set
    · obtain rfl := Option.some.inj set
      exact offered
  · next value =>
      split at set
      · cases set
      · next allowed =>
          obtain rfl := Option.some.inj set
          intro format given
          obtain rfl : value = format := Option.some.inj given
          simp only [Bool.or_eq_true, Bool.not_eq_true', not_or, Bool.not_eq_false] at allowed
          exact List.contains_iff_mem.mp allowed.2
  · obtain rfl := Option.some.inj set
    exact offered
  · obtain ⟨path, -, set⟩ := Option.bind_eq_some_iff.mp set
    split at set
    · cases set
    · obtain rfl := Option.some.inj set
      exact offered
  · obtain ⟨policy, -, set⟩ := Option.bind_eq_some_iff.mp set
    split at set
    · cases set
    · obtain rfl := Option.some.inj set
      exact offered
  · cases set

theorem settle_offered (settled : arguments.settle pending = some next)
    (offered : arguments.FormatOffered) : next.FormatOffered := by
  cases pending with
  | nothing =>
      obtain rfl := Option.some.inj settled
      exact offered
  | option which values => exact setValues_offered settled offered
  | paths values =>
      obtain ⟨paths, -, settled⟩ := Option.bind_eq_some_iff.mp settled
      obtain rfl := Option.some.inj settled
      exact offered

theorem readValue_offered {value : String}
    (taken : arguments.readValue pending value = some (next, pending'))
    (offered : arguments.FormatOffered) : next.FormatOffered := by
  unfold readValue at taken
  split at taken
  · split at taken
    · obtain ⟨rfl, -⟩ := Prod.mk.inj (Option.some.inj taken)
      exact offered
    · obtain ⟨settled, found, taken⟩ := Option.bind_eq_some_iff.mp taken
      obtain ⟨rfl, -⟩ := Prod.mk.inj (Option.some.inj taken)
      exact settle_offered found offered
  · obtain ⟨rfl, -⟩ := Prod.mk.inj (Option.some.inj taken)
    exact offered
  · obtain ⟨rfl, -⟩ := Prod.mk.inj (Option.some.inj taken)
    exact offered

theorem withDefaults_offered (offered : arguments.FormatOffered) :
    arguments.withDefaults.FormatOffered := by
  unfold withDefaults
  split <;> exact offered

theorem read_offered {command : List String} {asked : Arguments}
    (accepted : arguments.read pending command = some (.run asked))
    (offered : arguments.FormatOffered) : asked.FormatOffered := by
  -- On the arguments still to be read; what is open does not count before it is settled.
  induction command generalizing arguments pending with
  | nil =>
      obtain ⟨settled, found, accepted⟩ := Option.bind_eq_some_iff.mp accepted
      obtain rfl := Request.run.inj (Option.some.inj accepted)
      exact withDefaults_offered (settle_offered found offered)
  | cons argument rest ih =>
      unfold read at accepted
      split at accepted
      · obtain ⟨settled, found, accepted⟩ := Option.bind_eq_some_iff.mp accepted
        obtain ⟨settled', found', accepted⟩ := Option.bind_eq_some_iff.mp accepted
        obtain rfl := Request.run.inj (Option.some.inj accepted)
        exact withDefaults_offered (settle_offered found' (settle_offered found offered))
      · dsimp only at accepted
        split at accepted
        · obtain ⟨settled, found, accepted⟩ := Option.bind_eq_some_iff.mp accepted
          obtain ⟨set, flagged, accepted⟩ := Option.bind_eq_some_iff.mp accepted
          refine ih accepted fun format given => ?_
          rw [setFlag_format flagged] at given
          exact settle_offered found offered format given
        · obtain ⟨settled, found, accepted⟩ := Option.bind_eq_some_iff.mp accepted
          exact ih accepted (settle_offered found offered)
        · obtain ⟨settled, found, accepted⟩ := Option.bind_eq_some_iff.mp accepted
          obtain ⟨set, valued, accepted⟩ := Option.bind_eq_some_iff.mp accepted
          exact ih accepted (setValues_offered valued (settle_offered found offered))
        · obtain ⟨-, -, accepted⟩ := Option.bind_eq_some_iff.mp accepted
          cases accepted
        · obtain ⟨-, -, accepted⟩ := Option.bind_eq_some_iff.mp accepted
          cases accepted
        · cases accepted
      · obtain ⟨-, -, accepted⟩ := Option.bind_eq_some_iff.mp accepted
        split at accepted
        · cases accepted
        · split at accepted <;> cases accepted
      · obtain ⟨⟨taken, open'⟩, found, accepted⟩ := Option.bind_eq_some_iff.mp accepted
        exact ih accepted (readValue_offered found offered)

end Reading

theorem parse_offered {command : List String} {arguments : Arguments}
    (parsed : parse command = some (.run arguments)) : arguments.FormatOffered :=
  read_offered parsed fun _ given => nomatch given

end Arguments

namespace Artifact

/-- Formats with which the image of an input is named by one name. Parts behind a slash
must say nothing, and a stem that is a dot needs something before the first slash. -/
def Harmless (input : Path) (format : String) : Prop :=
  (∀ piece ∈ (Path.pieces ⟨format⟩).tail, Path.isIdle piece = true) ∧
    (stem input = "." → (Path.pieces ⟨format⟩).head? ≠ some "")

instance (input : Path) (format : String) : Decidable (Harmless input format) :=
  inferInstanceAs (Decidable (_ ∧ _))

section Image

variable {input : Path} {format first : String} {rest : List String}

theorem pieces_image (input : Path) (parts : Path.pieces ⟨format⟩ = first :: rest) :
    Path.pieces ⟨stem input ++ imageSuffix format⟩ = (stem input ++ "." ++ first) :: rest := by
  have free : '/' ∉ (stem input ++ ".").toList := by
    rw [String.toList_append, List.mem_append, not_or]
    exact ⟨(stem_free input).2, by decide⟩
  rw [imageSuffix, ← String.append_assoc]
  exact Path.pieces_free_append free parts

theorem length_image (input : Path) (first : String) :
    (stem input ++ "." ++ first).toList.length =
      (stem input).toList.length + 1 + first.toList.length := by
  rw [String.toList_append, String.toList_append, List.length_append, List.length_append]
  rfl

theorem busy_image (input : Path) (first : String) :
    Path.isIdle (stem input ++ "." ++ first) = false := by
  have long := length_image input first
  have filled := length_stem input
  rw [Path.isIdle, Bool.or_eq_false_iff]
  constructor <;>
  · rw [decide_eq_false_iff_not]
    intro same
    rw [same] at long
    simp at long
    omega

/-- The first part of an image's name goes up only behind a stem that is a dot. -/
theorem image_eq_up_iff : stem input ++ "." ++ first = ".." ↔ stem input = "." ∧ first = "" := by
  constructor
  · intro same
    have long := length_image input first
    have filled := length_stem input
    have short : (stem input ++ "." ++ first).toList.length = 2 := by
      rw [same]
      rfl
    obtain rfl : first = "" := by
      rw [← String.toList_eq_nil_iff, ← List.length_eq_zero_iff]
      omega
    refine ⟨?_, rfl⟩
    rw [String.append_empty] at same
    exact String.append_left_inj "." |>.mp same
  · rintro ⟨dot, rfl⟩
    rw [dot]
    rfl

theorem components_image (directory input : Path) (parts : Path.pieces ⟨format⟩ = first :: rest) :
    (path directory input (imageSuffix format)).components = directory.components ++
      ((stem input ++ "." ++ first) :: rest).filterMap Path.step? :=
  Path.components_join directory (pieces_image input parts) (busy_image input first)

theorem step?_image (input : Path) (first : String) :
    Path.step? (stem input ++ "." ++ first) =
      if stem input = "." ∧ first = "" then some .up
      else some (.name (stem input ++ "." ++ first)) := by
  rw [Path.step?, if_neg (by rw [busy_image]; decide)]
  simp only [image_eq_up_iff]

theorem rightInside_image_iff (directory input : Path) (format : String) :
    Path.RightInside directory (path directory input (imageSuffix format)) ↔
      Harmless input format := by
  obtain ⟨first, rest, parts⟩ := List.exists_cons_of_ne_nil (Path.pieces_ne_nil ⟨format⟩)
  have idle : rest.filterMap Path.step? = [] ↔ ∀ piece ∈ rest, Path.isIdle piece = true := by
    rw [List.filterMap_eq_nil_iff]
    exact forall₂_congr fun _ _ => Path.step?_eq_none_iff
  rw [Harmless, parts, List.tail_cons, List.head?_cons, ← idle, Path.RightInside,
    components_image directory input parts]
  simp only [List.append_cancel_left_eq]
  by_cases up : stem input = "." ∧ first = ""
  · -- The stem and the dot behind it are a step up.
    rw [List.filterMap_cons_some ((step?_image input first).trans (if_pos up))]
    simp [up]
  · rw [List.filterMap_cons_some ((step?_image input first).trans (if_neg up))]
    rw [not_and] at up
    constructor
    · rintro ⟨name, same⟩
      exact ⟨(List.cons.inj same).2, fun dot => mt Option.some.inj (up dot)⟩
    · rintro ⟨none, -⟩
      exact ⟨_, congrArg _ none⟩

theorem isName_of_offered (offered : format ∈ Arguments.formats) : Path.IsName format := by
  rw [Arguments.formats, List.mem_cons, List.mem_cons, List.mem_singleton] at offered
  obtain rfl | rfl | rfl := offered <;> exact ⟨by decide, by decide, by decide, by decide⟩

theorem harmless_of_offered (input : Path) (offered : format ∈ Arguments.formats) :
    Harmless input format := by
  have plain := isName_of_offered offered
  rw [Harmless, Path.pieces_of_isName plain]
  exact ⟨nofun, fun _ empty => plain.not_empty (Option.some.inj empty)⟩

theorem up_mem_image_iff {directory : Path} (level : Component.up ∉ directory.components)
    (input : Path) (format : String) :
    Component.up ∈ (path directory input (imageSuffix format)).components ↔
      ".." ∈ Path.pieces ⟨stem input ++ imageSuffix format⟩ := by
  obtain ⟨first, rest, parts⟩ := List.exists_cons_of_ne_nil (Path.pieces_ne_nil ⟨format⟩)
  rw [components_image directory input parts, pieces_image input parts, List.mem_append,
    List.mem_filterMap]
  constructor
  · rintro (up | ⟨piece, part, up⟩)
    · exact absurd up level
    · rwa [← Path.step?_eq_up_iff.mp up]
  · intro part
    exact .inr ⟨"..", part, rfl⟩

end Image

end Artifact

theorem Arguments.format_cases {command : List String} {arguments : Arguments}
    (parsed : parse command = some (.run arguments)) (settings : Settings) :
    (arguments.renderSection settings).formatName ∈ formats ∨
      arguments.format = none ∧
        settings.renderSection.format = some (arguments.renderSection settings).formatName := by
  have name : (arguments.renderSection settings).formatName =
      (arguments.format.orElse fun _ => settings.renderSection.format).getD "png" := rfl
  rw [name]
  cases given : arguments.format with
  | some format => exact .inl (parse_offered parsed format given)
  | none =>
      rw [Option.orElse_none]
      cases settings.renderSection.format with
      | some format => exact .inr ⟨rfl, rfl⟩
      | none => exact .inl List.mem_cons_self

namespace Artifact

open CallAtlas.Path (RightInside)

/-- Where the artifacts of an input are. The diagram and the pruned copy are right inside the
output directory. The image is there exactly if the format is harmless, as every format is that
is not from the settings. -/
theorem artifacts_rightInside_exact {text format : String} {directory : Path}
    {command : List String} {arguments : Arguments}
    (accepted : OutputDirectory.check text = .ok directory)
    (parsed : Arguments.parse command = some (.run arguments)) (settings : Settings)
    (chosen : (arguments.renderSection settings).formatName = format) (input : Path) :
    RightInside directory (path directory input diagramSuffix) ∧
    RightInside directory (path directory input (prunedSuffix input)) ∧
    (RightInside directory (path directory input (imageSuffix format)) ↔ Harmless input format) ∧
    (Harmless input format ∨
      arguments.format = none ∧ settings.renderSection.format = some format) ∧
    (Component.up ∈ (path directory input (imageSuffix format)).components ↔
      ".." ∈ Path.pieces ⟨stem input ++ imageSuffix format⟩) ∧
    ∀ artifact, RightInside directory artifact → Component.up ∉ artifact.components := by
  have level := OutputDirectory.up_not_mem_of_check accepted
  refine ⟨Path.rightInside_join directory (isName_diagram input),
    Path.rightInside_join directory (isName_pruned input),
    rightInside_image_iff directory input format, ?_, up_mem_image_iff level input format, ?_⟩
  · subst chosen
    exact (Arguments.format_cases parsed settings).imp_left (harmless_of_offered input)
  · rintro artifact ⟨name, inside⟩
    simp [inside, level]

/-- A format of the settings that leads the image out of the directory `out`, and the default,
which does not. -/
theorem image_leads_out :
    ¬ RightInside ⟨"out"⟩ (path ⟨"out"⟩ ⟨"a.js"⟩ (imageSuffix "/../../escaped")) ∧
    Component.up ∈ (path ⟨"out"⟩ ⟨"a.js"⟩ (imageSuffix "/../../escaped")).components ∧
    RightInside ⟨"out"⟩ (path ⟨"out"⟩ ⟨"a.js"⟩ (imageSuffix "png")) := by
  have accepted : OutputDirectory.check "out" = .ok ⟨"out"⟩ := by rfl
  have parsed : Arguments.parse ["a.js"] = some (.run { paths := [⟨"a.js"⟩] }) := by rfl
  have image (render : RenderSection) :=
    artifacts_rightInside_exact accepted parsed { render := some render } rfl ⟨"a.js"⟩
  obtain ⟨-, -, outside, -, up, -⟩ := image { format := some "/../../escaped" }
  obtain ⟨-, -, inside, -⟩ := image {}
  refine ⟨outside.not.mpr ?_, up.mpr ?_, inside.mpr ?_⟩ <;> decide +kernel

end Artifact

end CallAtlas
