import CallAtlas.Proofs.CommandLine.Preparation

/-!
What is printed about the analysed files. In plain text every file has its report in
turn; if more than one file was listed, whatever came of them, a report stands under
the path of its file and before a blank line. As JSON there is one value: the report
of the only analysed file, or an array that has the path and the report of each.
-/

namespace CallAtlas

namespace Plan

def analysed (plan : Plan) (tools : Toolkit) (files : FileSystem) (paths : List Path) :
    List (Path × Analysis) :=
  paths.filterMap fun path =>
    (analyzeFile tools.parser plan.survey.settings files path).toOption.map (path, ·)

inductive PrintsPlain (several : Prop) : List (Path × Analysis) → String → Prop where
  | nil : PrintsPlain several [] ""
  | bare {path : Path} {analysis : Analysis} {rest : List (Path × Analysis)} {later : String}
      (single : ¬ several) (more : PrintsPlain several rest later) :
      PrintsPlain several ((path, analysis) :: rest) (Report.plain analysis ++ later)
  | headed {path : Path} {analysis : Analysis} {rest : List (Path × Analysis)} {later : String}
      (many : several) (more : PrintsPlain several rest later) :
      PrintsPlain several ((path, analysis) :: rest)
        ("=== " ++ path.text ++ " ===\n" ++ Report.plain analysis ++ "\n" ++ later)

def located (file : Path × Analysis) : Json :=
  .object [("file", .string file.1.text), ("report", Report.json file.2)]

inductive PrintsJson : List (Path × Analysis) → Json → Prop where
  | single {path : Path} {analysis : Analysis} : PrintsJson [(path, analysis)] (Report.json analysis)
  | several {files : List (Path × Analysis)} (number : files.length ≠ 1) :
      PrintsJson files (.array (files.map located))

/-- The text of the reports of some analysed files, with the paths that were listed. -/
inductive Prints (plan : Plan) (paths : List Path) (files : List (Path × Analysis)) :
    String → Prop where
  | plain {text : String} (plain : plan.json = false)
      (printed : PrintsPlain (1 < paths.length) files text) : Prints plan paths files text
  | json {value : Json} (json : plan.json = true) (printed : PrintsJson files value) :
      Prints plan paths files (value.render ++ "\n")

section Texts

variable {plan : Plan} {several : Prop} {files : List (Path × Analysis)} {paths : List Path}
  {text text' : String}

theorem PrintsPlain.unique (first : PrintsPlain several files text)
    (second : PrintsPlain several files text') : text = text' := by
  induction first generalizing text' with
  | nil =>
      cases second
      rfl
  | bare single more ih =>
      cases second with
      | bare _ more' => rw [ih more']
      | headed many _ => exact absurd many single
  | headed many more ih =>
      cases second with
      | bare single _ => exact absurd many single
      | headed _ more' => rw [ih more']

theorem PrintsJson.unique {value value' : Json} (first : PrintsJson files value)
    (second : PrintsJson files value') : value = value' := by
  cases first with
  | single =>
      cases second with
      | single => rfl
      | several number => exact absurd rfl number
  | several number =>
      cases second with
      | single => exact absurd rfl number
      | several _ => rfl

/-- The files that were listed and those that were analysed leave no choice of the text. -/
theorem Prints.unique (first : plan.Prints paths files text)
    (second : plan.Prints paths files text') : text = text' := by
  cases first with
  | plain plain printed =>
      cases second with
      | plain _ printed' => exact printed.unique printed'
      | json json _ => cases plain.symm.trans json
  | json json printed =>
      cases second with
      | plain plain _ => cases plain.symm.trans json
      | json _ printed' => rw [printed.unique printed']

theorem printsPlain_headed (many : several) (files : List (Path × Analysis)) :
    PrintsPlain several files (String.join (files.map fun (path, analysis) =>
      s!"=== {path.text} ===\n" ++ Report.plain analysis ++ "\n")) := by
  induction files with
  | nil => exact .nil
  | cons file rest ih =>
      rw [List.map_cons, String.join_cons]
      exact .headed many ih

theorem printsPlain_bare (single : ¬ several) (files : List (Path × Analysis)) :
    PrintsPlain several files
      (String.join (files.map fun (_, analysis) => Report.plain analysis)) := by
  induction files with
  | nil => exact .nil
  | cons file rest ih =>
      rw [List.map_cons, String.join_cons]
      exact .bare single ih

theorem prints_reports (plan : Plan) {results : SurveyRun}
    (listed : results.files.map (·.path) = paths) :
    plan.Prints paths results.succeeded (plan.reports results) := by
  have number : paths.length = results.files.length := by
    rw [← listed, List.length_map]
  unfold reports
  cases wanted : plan.json with
  | true =>
      rw [if_pos rfl]
      dsimp only
      split
      · next only => exact only ▸ .json wanted .single
      · next several =>
          refine .json wanted (.several fun one => ?_)
          obtain ⟨⟨path, analysis⟩, only⟩ := List.length_eq_one_iff.mp one
          exact several path analysis only
  | false =>
      rw [if_neg Bool.false_ne_true]
      split
      · next many => exact .plain wanted (printsPlain_headed (by omega) _)
      · next single => exact .plain wanted (printsPlain_bare (by omega) _)

end Texts

end Plan

namespace Arguments

theorem succeeded_results (arguments : Arguments) (tools : Toolkit) (settings : Settings)
    (directory : Path) (files : FileSystem) (paths : List Path) :
    (arguments.results tools settings files paths).succeeded =
      (arguments.plan settings directory).analysed tools files paths := by
  unfold SurveyRun.succeeded results Plan.analysed
  rw [List.filterMap_map]
  refine List.filterMap_congr fun path _ => ?_
  change _ =
    (analyzeFile tools.parser (arguments.analysisSettings settings) files path).toOption.map (path, ·)
  dsimp only [Function.comp_apply]
  cases analyzeFile tools.parser (arguments.analysisSettings settings) files path <;> rfl

end Arguments

end CallAtlas
