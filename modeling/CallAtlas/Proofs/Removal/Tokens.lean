import CallAtlas.Proofs.Removal.Outcome
import CallAtlas.Proofs.Text.Survival

/-!
What a removal does to the tokens of a source. It deletes the lines of its cuts and,
when a function was removed, what is inside of the blank runs that are left, and
nothing else; leaves that neither touches are found in the result as they were, in
their order (`tokens_survive`). Both deletions go by the text alone, so a token that
holds blank lines of its own may lose some of them (`template_not_kept`).
-/

namespace CallAtlas.Removal

open Cursor (IsPlace LeadsTo)
open Text (Span)

/-- The bytes that go with the cuts: the cuts, with their lines if nothing visible shares them. -/
def cutLines (source : List Char) (targets : List Target) : List Span :=
  (spans source targets).map (Span.widen source)

/-- A part of a source that a removal leaves as it is. -/
structure Kept (source : List Char) (lines : List Span) (collapsed : Prop) (part : Span) :
    Prop where
  uncut : part.Clear lines
  whole : collapsed → ∀ byte, (part.moved lines source).start ≤ byte →
    byte < (part.moved lines source).stop → ¬ Text.InsideRun (Text.remainder lines source) byte

section Tokens

variable {tree : SyntaxTree} {catalog : Catalog} {names : List String} {pruned : Pruned}
  {targets : List Target} {requested : NameSet}

theorem function_inside (wellFormed : tree.WellFormed) {span : Span}
    (cuts : Cuts tree.source targets span) :
    ∃ target ∈ targets, ∀ function, IsPlace tree.root function → Hits function target →
      span.start ≤ function.span.start ∧ function.span.stop ≤ span.stop := by
  cases cuts with
  | declared member =>
      refine ⟨_, member, ?_⟩
      rintro function isPlace ⟨-, rfl⟩
      exact inside_withExport wellFormed isPlace
  | whole isGroup all =>
      obtain ⟨declarator, member⟩ := isGroup.opened
      refine ⟨_, member, ?_⟩
      rintro function isPlace ⟨-, held, -, held'⟩
      have isDeclaration := (isPlace.of_child held).of_child held'
      have outer := inside_withExport wellFormed isDeclaration
      have inner := Cursor.span_inside wellFormed.nests isDeclaration
        ((Relation.ReflTransGen.single held').tail held)
      omega
  | single isGroup some dropped =>
      obtain ⟨declaration, member, -⟩ := isGroup.mem_dropped_iff.mp dropped
      refine ⟨_, member, ?_⟩
      rintro function isPlace ⟨-, held, -, held'⟩
      have isDeclarator := isPlace.of_child held
      have outer := inside_declaratorSpan wellFormed (isDeclarator.of_child held') held' (.inl rfl)
      have inner := Cursor.span_inside wellFormed.nests isDeclarator (.single held)
      omega

theorem cut_nonempty (wellFormed : tree.WellFormed)
    (wide : tree.root.span.start < tree.root.span.stop)
    (standing : Removal.targets tree catalog requested = .ok targets) {span : Span}
    (member : span ∈ spans tree.source targets) : span.start < span.stop := by
  obtain ⟨target, among, inside⟩ :=
    function_inside wellFormed (mem_spans_iff.mp member)
  obtain ⟨function, isPlace, hits, filled⟩ :=
    nonempty_of_targets wellFormed.nests wide standing among
  have := inside function isPlace hits
  omega

theorem cutSpans_eq_remainder (wellFormed : tree.WellFormed) (stand : Stand tree targets) :
    cutSpans tree.source (spans tree.source targets) =
      Text.remainder (cutLines tree.source targets) tree.source :=
  Text.cutAll_merge (widened_spans_fit wellFormed stand)

/-- The result is what the cuts with their lines and the insides of the runs leave. -/
theorem source_exact (wellFormed : tree.WellFormed)
    (standing : Removal.targets tree catalog (NameSet.ofList names) = .ok targets)
    (done : removeFunctions tree catalog names = .ok pruned) :
    ∃ inner, (∀ byte, Text.Covered inner byte ↔ pruned.removed ≠ [] ∧
        Text.InsideRun (Text.remainder (cutLines tree.source targets) tree.source) byte) ∧
      pruned.source =
        Text.remainder inner (Text.remainder (cutLines tree.source targets) tree.source) := by
  obtain ⟨targets', standing', -, -, source⟩ := removeFunctions_eq_ok_iff.mp done
  rw [standing] at standing'
  obtain rfl := Except.ok.inj standing'
  rw [cutSpans_eq_remainder wellFormed (stand_of_targets standing)] at source
  by_cases nothing : pruned.removed = []
  · refine ⟨[], by simp [nothing], ?_⟩
    rw [source, nothing]
    exact (Text.outside_nil 0 _).symm
  · refine ⟨Text.insides 0 (Text.remainder (cutLines tree.source targets) tree.source), ?_, ?_⟩
    · intro byte
      rw [Text.covered_insides_iff, and_iff_right nothing]
    · rw [source, if_neg (by simpa using nothing), Text.collapseBlankRuns_eq_remainder]

theorem kept_inOrder (wellFormed : tree.WellFormed)
    (standing : Removal.targets tree catalog (NameSet.ofList names) = .ok targets)
    (done : removeFunctions tree catalog names = .ok pruned) {leaves : List Cursor}
    (among : leaves.Sublist tree.leaves)
    (kept : ∀ leaf ∈ leaves,
      Kept tree.source (cutLines tree.source targets) (pruned.removed ≠ []) leaf.span) :
    Text.InOrder (leaves.map fun leaf => Text.slice tree.source leaf.span) pruned.source := by
  obtain ⟨inner, covered, source⟩ := source_exact wellFormed standing done
  have fits : ∀ leaf ∈ leaves, leaf.span.Fits tree.source := fun leaf member =>
    wellFormed.fits (SyntaxTree.mem_leaves_iff.mp (among.subset member)).1
  have ordered := wellFormed.leaves_ordered.sublist among
  have found := fun leaf member => Text.moved_clear (fits leaf member) (kept leaf member).uncut
  have pieces : (leaves.map fun leaf => Text.slice tree.source leaf.span) =
      (leaves.map fun leaf => leaf.span.moved (cutLines tree.source targets) tree.source).map
        (Text.slice (Text.remainder (cutLines tree.source targets) tree.source)) := by
    rw [List.map_map]
    exact List.map_congr_left fun leaf member => (found leaf member).2.symm
  rw [source, pieces]
  refine Text.inOrder_remainder ?_ ?_ ?_
  · intro span member
    obtain ⟨leaf, listed, rfl⟩ := List.mem_map.mp member
    exact (found leaf listed).1
  · rw [List.pairwise_map]
    refine ordered.imp_of_mem fun {first second} member member' before => ?_
    exact Text.moved_le _ (fits first member).stop (fits second member').start before
  · intro span member byte lower upper
    obtain ⟨leaf, listed, rfl⟩ := List.mem_map.mp member
    rw [covered]
    rintro ⟨collapsed, inside⟩
    exact (kept leaf listed).whole collapsed byte lower upper inside

theorem Kept.inside {source : List Char} {lines : List Span} {collapsed : Prop} {part inner : Span}
    (kept : Kept source lines collapsed part) (fits : part.Fits source) (fits' : inner.Fits source)
    (inside : part.start ≤ inner.start ∧ inner.stop ≤ part.stop) :
    Kept source lines collapsed inner := by
  constructor
  · intro byte lower upper
    exact kept.uncut byte (by omega) (by omega)
  · intro holds byte lower upper
    have starts := Text.moved_le lines fits.start fits'.start inside.1
    have stops := Text.moved_le lines fits'.stop fits.stop inside.2
    exact kept.whole holds byte (Nat.le_trans starts lower) (Nat.lt_of_lt_of_le upper stops)

theorem kept_of_solid (wellFormed : tree.WellFormed)
    (standing : Removal.targets tree catalog requested = .ok targets) {place : Cursor}
    (isPlace : IsPlace tree.root place) (clear : place.span.Clear (spans tree.source targets))
    (solid : Text.Solid (Text.slice tree.source place.span)) (collapsed : Prop) :
    Kept tree.source (cutLines tree.source targets) collapsed place.span := by
  have fits := wellFormed.fits isPlace
  have stand := stand_of_targets standing
  have uncut : place.span.Clear (cutLines tree.source targets) := by
    rintro byte lower upper ⟨_, member, covers⟩
    obtain ⟨span, cut, rfl⟩ := List.mem_map.mp member
    have wide := wellFormed.root_nonempty isPlace (by omega)
    obtain ⟨before, after, split, starts, stops⟩ := fits.slice
    refine solid.not_widened split (spans_fit wellFormed stand span cut)
      (cut_nonempty wellFormed wide standing cut) ?_ (by omega) (by omega) covers
    intro byte lower upper shares
    exact clear byte (by omega) (by omega) ⟨span, cut, shares⟩
  refine ⟨uncut, fun _ byte lower upper => ?_⟩
  obtain ⟨fits', same⟩ := Text.moved_clear fits uncut
  obtain ⟨before, after, split, starts, stops⟩ := fits'.slice
  rw [same] at split stops
  exact solid.not_insideRun split (by omega) (by omega)

/-- The leaves that neither the lines of the cuts nor the insides of blank runs touch stand in the
result as they stood in the source. -/
theorem tokens_survive (wellFormed : tree.WellFormed)
    (done : removeFunctions tree catalog names = .ok pruned) :
    ∃ targets, Removal.targets tree catalog (NameSet.ofList names) = .ok targets ∧
      (∃ inner, (∀ byte, Text.Covered inner byte ↔ pruned.removed ≠ [] ∧
          Text.InsideRun (Text.remainder (cutLines tree.source targets) tree.source) byte) ∧
        pruned.source =
          Text.remainder inner (Text.remainder (cutLines tree.source targets) tree.source)) ∧
      (∀ leaves : List Cursor, leaves.Sublist tree.leaves →
        (∀ leaf ∈ leaves,
          Kept tree.source (cutLines tree.source targets) (pruned.removed ≠ []) leaf.span) →
        Text.InOrder (leaves.map fun leaf => Text.slice tree.source leaf.span) pruned.source) ∧
      (∀ place leaf, IsPlace tree.root place → LeadsTo place leaf →
        place.span.Clear (spans tree.source targets) →
        Text.Solid (Text.slice tree.source place.span) →
        Kept tree.source (cutLines tree.source targets) (pruned.removed ≠ []) leaf.span) := by
  obtain ⟨targets, standing, -⟩ := removeFunctions_eq_ok_iff.mp done
  refine ⟨targets, standing, source_exact wellFormed standing done,
    fun leaves among kept => kept_inOrder wellFormed standing done among kept, ?_⟩
  intro place leaf isPlace leads clear solid
  have inside := Cursor.span_inside wellFormed.nests isPlace leads
  exact (kept_of_solid wellFormed standing isPlace clear solid _).inside (wellFormed.fits isPlace)
    (wellFormed.fits (isPlace.leadsTo leads)) inside

end Tokens

def spacedTemplate : SyntaxTree :=
  Sketch.program "function f() \x7b\x7d\n\n\n\n`a\n\nb`;"
    [Sketch.function "function_declaration" 0 15 [], Sketch.template 19 26]

def spacedTemplateCatalog : Catalog :=
  (Catalog.build .reject spacedTemplate).toOption.getD ∅

theorem spacedTemplate_tokens : spacedTemplate.WellFormed ∧ ∃ pruned,
    removeFunctions spacedTemplate spacedTemplateCatalog ["f"] = .ok pruned ∧
    pruned.source = "\n\n`a\n\nb`;".toList ∧
    Text.InOrder ["`".toList, "a\n\nb".toList, "`".toList, ";".toList] pruned.source := by
  have wellFormed : spacedTemplate.WellFormed := by decide +kernel
  obtain ⟨pruned, done, source⟩ : ∃ pruned,
      removeFunctions spacedTemplate spacedTemplateCatalog ["f"] = .ok pruned ∧
      pruned.source = "\n\n`a\n\nb`;".toList := ⟨_, rfl, by decide +kernel⟩
  obtain ⟨targets, standing, -, inOrder, kept⟩ := tokens_survive wellFormed done
  have cuts : spans spacedTemplate.source targets = [⟨0, 15⟩] := by
    rw [← Except.ok.inj standing]
    decide +kernel
  -- The first six leaves are those of the function.
  have solid : ∀ leaf ∈ spacedTemplate.leaves.drop 6, leaf.span.Clear [⟨0, 15⟩] ∧
      Text.Solid (Text.slice spacedTemplate.source leaf.span) := by decide +kernel
  have texts : (spacedTemplate.leaves.drop 6).map
      (fun leaf => Text.slice spacedTemplate.source leaf.span) =
      ["`".toList, "a\n\nb".toList, "`".toList, ";".toList] := by decide +kernel
  refine ⟨wellFormed, pruned, done, source, ?_⟩
  rw [← texts]
  refine inOrder _ (List.drop_sublist _ _) fun leaf member => ?_
  have isPlace := (SyntaxTree.mem_leaves_iff.mp (List.mem_of_mem_drop member)).1
  exact kept leaf leaf isPlace .refl (cuts ▸ (solid leaf member).1) (solid leaf member).2

def looseTemplate : SyntaxTree :=
  Sketch.program "function f() \x7b\x7d\n`a\n\n\nb`;"
    [Sketch.function "function_declaration" 0 15 [], Sketch.template 16 24]

def looseTemplateCatalog : Catalog :=
  (Catalog.build .reject looseTemplate).toOption.getD ∅

/-- The text of a template that no cut touches is changed. -/
theorem template_not_kept : looseTemplate.WellFormed ∧
    Catalog.build .reject looseTemplate = .ok looseTemplateCatalog ∧ ∃ targets pruned leaf,
      Removal.targets looseTemplate looseTemplateCatalog (NameSet.ofList ["f"]) = .ok targets ∧
      removeFunctions looseTemplate looseTemplateCatalog ["f"] = .ok pruned ∧
      leaf ∈ looseTemplate.leaves ∧ leaf.span.Clear (cutLines looseTemplate.source targets) ∧
      Text.slice looseTemplate.source leaf.span = "a\n\n\nb".toList ∧
      pruned.source = "`a\n\nb`;".toList ∧
      ¬ Text.slice looseTemplate.source leaf.span <:+: pruned.source :=
  ⟨by decide +kernel, rfl, _, _, Sketch.place looseTemplate [1, 0, 1], rfl, rfl,
    SyntaxTree.mem_leaves_iff.mpr ⟨Sketch.isPlace_place _ _, rfl⟩, by decide +kernel,
    by decide +kernel, by decide +kernel, by decide +kernel⟩

end CallAtlas.Removal
