import CallAtlas.Proofs.Function.Records
import CallAtlas.Proofs.Text.Lines
import CallAtlas.Proofs.Tree.Sketch

/-!
The lines of functions. A function with a visible character has a line that is not
blank, so the number in its record is the plain count and the least number of one
never shows. A region inside of another has its lines among those of the other, so
a function has no more lines than one around it.
-/

namespace CallAtlas

open Cursor (IsPlace Encloses)

structure Region.Within (inner outer : Region) : Prop where
  first : outer.firstLine ≤ inner.firstLine
  last : inner.lastLine ≤ outer.lastLine

theorem lineExtent_mono (source : List Char) {inner outer : Region} (within : inner.Within outer)
    (positive : 0 < outer.firstLine) : lineExtent source inner ≤ lineExtent source outer := by
  unfold lineExtent
  exact Text.nonBlankLines_mono source positive within.first within.last

theorem lineExtent_le_lineSpan (source : List Char) {region : Region}
    (positive : 0 < region.firstLine) (ordered : region.firstLine ≤ region.lastLine) :
    lineExtent source region ≤ region.lineSpan := by
  have most : lineExtent source region ≤ region.lastLine + 1 - region.firstLine :=
    Text.nonBlankLines_le source positive
  unfold Region.lineSpan
  omega

/-- What the lines of a source say about the record of a function. -/
structure FunctionRecord.Measured (source : List Char) (record : FunctionRecord) : Prop where
  ordered : record.region.firstLine ≤ record.region.lastLine
  least : 1 ≤ record.lineCount
  most : record.lineCount ≤ record.region.lineSpan
  uncorrected : record.lineCount = lineExtent source record.region
  counted : record.lineCount =
    ((Finset.Icc record.region.firstLine record.region.lastLine).filter
      (Text.lineShows source ·)).card

namespace SyntaxTree

variable {tree : SyntaxTree} {inner outer : Cursor}

theorem firstLine_pos (tree : SyntaxTree) (node : Node) : 0 < (tree.region node).firstLine :=
  Nat.succ_pos _

theorem region_within (wellFormed : tree.WellFormed) (isInner : IsPlace tree.root inner)
    (isOuter : IsPlace tree.root outer) (nonempty : inner.span.start < inner.span.stop)
    (lower : outer.span.start ≤ inner.span.start) (upper : inner.span.stop ≤ outer.span.stop) :
    (tree.region inner.node).Within (tree.region outer.node) := by
  obtain ⟨first, last⟩ := Text.lines_within (wellFormed.fits isInner) (wellFormed.fits isOuter)
    nonempty lower upper
  exact ⟨first, last⟩

end SyntaxTree

namespace Catalog

variable {tree : SyntaxTree} {catalog : Catalog} {policy : DuplicatePolicy} {name : String}
  {record : FunctionRecord} {function : Cursor}

theorem recordOf_measured (wellFormed : tree.WellFormed) (isPlace : IsPlace tree.root function)
    {c : Char} (member : c ∈ (tree.text function.node).toList) (seen : Text.isBlank c = false)
    (name : String) (kind : FunctionKind) :
    (recordOf tree function name kind).Measured tree.source := by
  have positive := tree.firstLine_pos function.node
  rw [SyntaxTree.text, String.toList_ofList] at member
  obtain ⟨number, lower, upper, shows⟩ :=
    Text.exists_line_of_visible (wellFormed.fits isPlace) member seen
  have least : 1 ≤ lineExtent tree.source (tree.region function.node) :=
    Text.nonBlankLines_pos lower upper positive shows
  have uncorrected : (recordOf tree function name kind).lineCount =
      lineExtent tree.source (tree.region function.node) := Nat.max_eq_left least
  have ordered : (tree.region function.node).firstLine ≤ (tree.region function.node).lastLine :=
    Nat.le_trans lower upper
  constructor
  case ordered => exact ordered
  case least => exact uncorrected ▸ least
  case most =>
    rw [uncorrected]
    exact lineExtent_le_lineSpan tree.source positive ordered
  case uncorrected => exact uncorrected
  case counted =>
    rw [uncorrected]
    exact Text.nonBlankLines_eq_card tree.source positive

/-- Every record in a catalog is that of a function, and counts the lines of the function that are
not blank if there is something to see of it. -/
theorem catalogued_measured (wellFormed : tree.WellFormed) (built : build policy tree = .ok catalog)
    (found : catalog.get? name = some record) :
    ∃ function, tree.LastRegistered name function ∧ record.region = tree.region function.node ∧
      ((∃ c ∈ (tree.text function.node).toList, Text.isBlank c = false) →
        record.Measured tree.source) := by
  obtain ⟨function, kind, last, -, rfl⟩ := (get?_build_iff built).mp found
  refine ⟨function, last, rfl, ?_⟩
  rintro ⟨c, member, seen⟩
  exact recordOf_measured wellFormed last.registers.isPlace member seen name kind

def wrapped : SyntaxTree :=
  Sketch.program "function a() \x7b\r\n\r\n function b() \x7b\x7d\r\n\x7d\r\n"
    [Sketch.function "function_declaration" 0 37
      [Sketch.function "function_declaration" 19 34 []]]

theorem wrapped_wellFormed : wrapped.WellFormed := by decide +kernel

theorem wrapped_measured : ∃ catalog record, build .reject wrapped = .ok catalog ∧
    catalog.get? "a" = some record ∧ record.region.firstLine = 1 ∧ record.region.lastLine = 4 ∧
    record.lineCount = 3 ∧ record.Measured wrapped.source := by
  refine ⟨_, _, rfl, rfl, by decide +kernel, by decide +kernel, by decide +kernel, ?_⟩
  obtain ⟨function, -, region, measured⟩ :=
    @catalogued_measured wrapped _ .reject "a" _ wrapped_wellFormed rfl rfl
  have span : function.node.span = ⟨0, 37⟩ := (congrArg Region.span region).symm
  apply measured
  refine ⟨'f', ?_, by decide⟩
  rw [SyntaxTree.text, String.toList_ofList, span]
  decide +kernel

/-- A node whose range is not empty and lies inside of another's has its lines among those of the
other, and no more lines that are not blank; so a function inside of another has no more lines by
their records. -/
theorem nested_lines (wellFormed : tree.WellFormed) :
    (∀ inner outer, IsPlace tree.root inner → IsPlace tree.root outer →
      inner.span.start < inner.span.stop →
      outer.span.start ≤ inner.span.start → inner.span.stop ≤ outer.span.stop →
      (tree.region inner.node).Within (tree.region outer.node) ∧
        lineExtent tree.source (tree.region inner.node) ≤
          lineExtent tree.source (tree.region outer.node)) ∧
    ∀ policy catalog, build policy tree = .ok catalog →
      ∀ name name' record record' inner outer,
        catalog.get? name = some record → tree.LastRegistered name inner →
        catalog.get? name' = some record' → tree.LastRegistered name' outer →
        inner.span.start < inner.span.stop → Encloses outer inner →
        record.lineCount ≤ record'.lineCount := by
  constructor
  · intro inner outer isInner isOuter nonempty lower upper
    have within := SyntaxTree.region_within wellFormed isInner isOuter nonempty lower upper
    exact ⟨within, lineExtent_mono _ within (tree.firstLine_pos outer.node)⟩
  · intro policy catalog built name name' record record' inner outer found last found' last'
      nonempty encloses
    obtain ⟨kind, rfl⟩ := record_of_lastRegistered built last found
    obtain ⟨kind', rfl⟩ := record_of_lastRegistered built last' found'
    have isOuter := last'.registers.isPlace
    obtain ⟨lower, upper⟩ := Cursor.span_inside wellFormed.nests isOuter encloses.to_reflTransGen
    have within := SyntaxTree.region_within wellFormed last.registers.isPlace isOuter nonempty
      lower upper
    have fewer := lineExtent_mono tree.source within (tree.firstLine_pos outer.node)
    exact max_le_max_right 1 fewer

theorem wrapped_fewer : ∃ catalog record record', build .reject wrapped = .ok catalog ∧
    catalog.get? "b" = some record ∧ catalog.get? "a" = some record' ∧
    record.lineCount = 1 ∧ record'.lineCount = 3 ∧ record.lineCount ≤ record'.lineCount ∧
    (wrapped.region wrapped.root).lastLine = 4 ∧
    (wrapped.region (Sketch.place wrapped [0]).node).Within (wrapped.region wrapped.root) := by
  obtain ⟨contained, reported⟩ := nested_lines wrapped_wellFormed
  have inner : wrapped.LastRegistered "b" (Sketch.place wrapped [0, 3, 1]) :=
    ⟨[Sketch.place wrapped [0]], [], rfl, ⟨.declaration, rfl⟩, by simp⟩
  have outer : wrapped.LastRegistered "a" (Sketch.place wrapped [0]) := by
    refine ⟨[], [Sketch.place wrapped [0, 3, 1]], rfl, ⟨.declaration, rfl⟩, ?_⟩
    intro other among kind registered
    obtain rfl := List.mem_singleton.mp among
    have named : wrapped.catalogName? (Sketch.place wrapped [0, 3, 1]) =
        some ("b", .declaration) := rfl
    simp [named] at registered
  have encloses : Encloses (Sketch.place wrapped [0]) (Sketch.place wrapped [0, 3, 1]) :=
    .tail (.single ⟨3, rfl⟩) ⟨1, rfl⟩
  refine ⟨_, _, _, rfl, rfl, rfl, by decide +kernel, by decide +kernel, ?_, by decide +kernel, ?_⟩
  · exact reported .reject _ rfl "b" "a" _ _ _ _ rfl inner rfl outer (by decide) encloses
  · exact (contained _ (Cursor.ofRoot wrapped.root) (Sketch.isPlace_place wrapped [0]) .refl
      (by decide) (by decide) (by decide)).1

end Catalog

end CallAtlas
