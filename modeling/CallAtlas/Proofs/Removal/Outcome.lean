import CallAtlas.Proofs.Removal.Spans
import CallAtlas.Proofs.Tree.Sketch

/-!
What a removal gives. In a well-formed tree the visible characters of the result
are those of the source without the bytes of the cuts, whatever the order, the
nesting and the overlap of the cuts (`visible_pruned_exact`). With the catalog of
the tree itself no removal fails: every record is resolved to its own function,
and every text is taken apart between characters (`removeFunctions_succeeds`).
-/

namespace CallAtlas.Removal

open Text (Span IsBoundary)

section Source

variable {tree : SyntaxTree} {catalog : Catalog} {names : List String} {pruned : Pruned}
  {targets : List Target}

theorem spans_fit (wellFormed : tree.WellFormed) (stand : Stand tree targets) :
    ∀ span ∈ spans tree.source targets, span.Fits tree.source := by
  intro span member
  exact (mem_spans_iff.mp member).fits wellFormed stand

theorem widened_spans_fit (wellFormed : tree.WellFormed) (stand : Stand tree targets) :
    ∀ span ∈ (spans tree.source targets).map (Span.widen tree.source), span.Fits tree.source := by
  intro span member
  obtain ⟨inner, among, rfl⟩ := List.mem_map.mp member
  exact Text.widen_fits (spans_fit wellFormed stand inner among)

/-- The lines that go with the cuts hold nothing visible, nor do the runs that are collapsed. -/
theorem visible_source (wellFormed : tree.WellFormed)
    (standing : Removal.targets tree catalog (NameSet.ofList names) = .ok targets)
    (done : removeFunctions tree catalog names = .ok pruned) :
    Text.visible pruned.source =
      Text.visible (Text.remainder (spans tree.source targets) tree.source) := by
  obtain ⟨targets', standing', -, -, source⟩ := removeFunctions_eq_ok_iff.mp done
  rw [standing] at standing'
  obtain rfl := Except.ok.inj standing'
  have stand := stand_of_targets standing
  have cut : Text.visible (cutSpans tree.source (spans tree.source targets)) =
      Text.visible (Text.remainder (spans tree.source targets) tree.source) := by
    rw [cutSpans, Text.cutAll_merge (widened_spans_fit wellFormed stand)]
    exact Text.visible_remainder_widen (spans_fit wellFormed stand)
  rw [source]
  split
  · exact cut
  · rw [Text.visible_collapseBlankRuns]
    exact cut

/-- A removal that succeeds leaves what is visible outside of its cuts, and nothing else. -/
theorem visible_pruned_exact (wellFormed : tree.WellFormed)
    (done : removeFunctions tree catalog names = .ok pruned) :
    ∃ targets cuts kept, Removal.targets tree catalog (NameSet.ofList names) = .ok targets ∧
      (∀ target, target ∈ targets ↔ ∃ name ∈ names, ∃ record function,
        catalog.get? name = some record ∧ tree.resolve? record.region = some function ∧
          Hits function target) ∧
      (∀ span, span ∈ cuts ↔ Cuts tree.source targets span) ∧
      Text.utf8 kept = Text.uncoveredBytes cuts (Text.utf8 tree.source) ∧
      Text.visible pruned.source = Text.visible kept := by
  obtain ⟨targets, standing, -⟩ := removeFunctions_eq_ok_iff.mp done
  have fit := spans_fit wellFormed (stand_of_targets standing)
  refine ⟨targets, spans tree.source targets,
    Text.remainder (spans tree.source targets) tree.source, standing, ?_, ?_, ?_, ?_⟩
  · intro target
    simp only [mem_targets_iff standing, NameSet.mem_ofList, targetOf_eq_some_iff]
  · intro span
    exact mem_spans_iff
  · exact Text.utf8_remainder fun span member => ⟨(fit span member).start, (fit span member).stop⟩
  · exact visible_source wellFormed standing done

end Source

/-- `export function f() {}` and `let a = 1, g = () => 0;`, each on a line. -/
def exportAndPair : SyntaxTree :=
  Sketch.program "export function f() \x7b\x7d\nlet a = 1, g = () => 0;"
    [Sketch.exported 0 22 (Sketch.function "function_declaration" 7 22 []),
      Sketch.bindings 23 46
        [Sketch.binding 27 32 (Sketch.number 31), Sketch.token "," 32,
          Sketch.binding 34 45 (Sketch.arrow 38)]]

def exportAndPairCatalog : Catalog :=
  (Catalog.build .reject exportAndPair).toOption.getD ∅

theorem exportAndPair_visible :
    exportAndPair.WellFormed ∧ ∃ pruned targets cuts kept,
      removeFunctions exportAndPair exportAndPairCatalog ["g", "f"] = .ok pruned ∧
      Removal.targets exportAndPair exportAndPairCatalog (NameSet.ofList ["g", "f"]) = .ok targets ∧
      (∀ span, span ∈ cuts ↔ Cuts exportAndPair.source targets span) ∧
      Text.utf8 kept = Text.uncoveredBytes cuts (Text.utf8 exportAndPair.source) ∧
      Text.visible pruned.source = Text.visible kept ∧
      Text.visible pruned.source = "leta=1;".toList := by
  have wellFormed : exportAndPair.WellFormed := by decide +kernel
  obtain ⟨pruned, done⟩ : ∃ pruned,
      removeFunctions exportAndPair exportAndPairCatalog ["g", "f"] = .ok pruned := ⟨_, rfl⟩
  obtain ⟨targets, cuts, kept, standing, -, exactly, bytes, seen⟩ :=
    visible_pruned_exact wellFormed done
  refine ⟨wellFormed, pruned, targets, cuts, kept, done, standing, exactly, bytes, seen, ?_⟩
  rw [visible_source wellFormed standing done, ← Except.ok.inj standing]
  decide +kernel

section Success

variable {tree : SyntaxTree} {catalog : Catalog} {policy : DuplicatePolicy} {names : List String}
  {targets : List Target}

theorem exists_hits {function : Cursor} {name : String} (program : tree.root.kind = "program")
    (registers : tree.Registers function name) : ∃ target, Hits function target := by
  rcases registers.declaration_or_bound with declaration | ⟨notDeclaration, declarator, binds⟩
  · exact ⟨.declared function, declaration, rfl⟩
  · have isPlace := registers.isPlace.of_child binds.holds
    rcases isPlace.cases with rfl | ⟨declaration, -, held⟩
    · -- A program is no declarator.
      have same : tree.root.kind = "variable_declarator" := binds.isDeclarator
      rw [program] at same
      simp at same
    · exact ⟨.bound declaration declarator, notDeclaration, binds.holds,
        decide_eq_true binds.isDeclarator, held⟩

theorem resolve?_recordOf {function : Cursor} {name : String} (wellFormed : tree.WellFormed)
    (innermost : tree.FunctionsInnermost) (last : tree.LastRegistered name function)
    (kind : FunctionKind) :
    tree.resolve? (Catalog.recordOf tree function name kind).region = some function := by
  obtain ⟨nonempty, deepest⟩ := innermost name function last
  exact SyntaxTree.resolve?_eq_self wellFormed.nests last.registers.isPlace rfl nonempty deepest

theorem targets_succeed (wellFormed : tree.WellFormed) (program : tree.root.kind = "program")
    (innermost : tree.FunctionsInnermost) (built : Catalog.build policy tree = .ok catalog)
    (requested : NameSet) : ∃ targets, Removal.targets tree catalog requested = .ok targets := by
  refine ⟨_, targets_eq_ok_iff.mpr ⟨fun name _ record found => ?_, rfl⟩⟩
  obtain ⟨function, kind, last, -, rfl⟩ := (Catalog.get?_build_iff built).mp found
  obtain ⟨target, hits⟩ := exists_hits program last.registers
  exact ⟨target, target_eq_ok_iff.mpr
    ⟨function, resolve?_recordOf wellFormed innermost last kind, hits⟩⟩

/-- Each text that a removal takes apart is taken apart between characters: behind the comma of a
declarator, at the ends of a cut and of its lines, and, the last cut first, in what later cuts left
of the source. -/
structure KeepsCharacters (source : List Char) (targets : List Target) : Prop where
  commas : ∀ declaration declarator comma, .bound declaration declarator ∈ targets →
    Takes declaration declarator comma → IsBoundary source comma.span.stop
  cuts : ∀ span ∈ spans source targets, span.Fits source
  lines : ∀ span ∈ spans source targets, (span.widen source).Fits source
  deletions : ∀ earlier span later,
    Span.merge ((spans source targets).map (Span.widen source)) = earlier ++ span :: later →
      span.Fits (Text.cutAll later source)

theorem keepsCharacters (wellFormed : tree.WellFormed) (stand : Stand tree targets) :
    KeepsCharacters tree.source targets := by
  have fit := widened_spans_fit wellFormed stand
  refine ⟨?_, spans_fit wellFormed stand, ?_, ?_⟩
  · intro declaration declarator comma member takes
    exact (wellFormed.fits ((stand.bound member).1.of_holds takes.holds)).stop
  · intro span member
    exact fit _ (List.mem_map_of_mem member)
  · intro earlier span later split
    have ordered := Span.merge_apart fun span member => (fit span member).ordered
    have fit' := Span.merge_fits fit
    rw [split] at ordered fit'
    exact Text.fits_cutAll fit' ordered.1

theorem source_of_nothing
    (standing : Removal.targets tree catalog (NameSet.ofList names) = .ok targets)
    (nothing : (NameSet.ofList names).toList.filter catalog.contains = []) :
    cutSpans tree.source (spans tree.source targets) = tree.source := by
  have none : targets = [] := by
    refine List.eq_nil_iff_forall_not_mem.mpr fun target member => ?_
    obtain ⟨name, among, found⟩ := (mem_targets_iff standing).mp member
    obtain ⟨record, -, found, -⟩ := targetOf_eq_some_iff.mp found
    refine List.filter_eq_nil_iff.mp nothing name among ?_
    simp [NameMap.contains, found]
  rw [none]
  simp [cutSpans, spans, groups, Span.merge, Span.join, Text.cutAll]

/-- A removal by the catalog of the tree succeeds, whatever the names. -/
theorem removeFunctions_succeeds (wellFormed : tree.WellFormed)
    (program : tree.root.kind = "program") (innermost : tree.FunctionsInnermost)
    (built : Catalog.build policy tree = .ok catalog) (names : List String) :
    ∃ targets pruned, Removal.targets tree catalog (NameSet.ofList names) = .ok targets ∧
      removeFunctions tree catalog names = .ok pruned ∧
      (∀ name record, catalog.get? name = some record → ∃ function kind,
        tree.LastRegistered name function ∧ tree.catalogName? function = some (name, kind) ∧
          record = Catalog.recordOf tree function name kind ∧
          tree.resolve? record.region = some function) ∧
      KeepsCharacters tree.source targets ∧
      pruned.removed.Pairwise (· < ·) ∧ pruned.notFound.Pairwise (· < ·) ∧
      (∀ name, name ∈ pruned.removed ↔ name ∈ names ∧ catalog.contains name = true) ∧
      (∀ name, name ∈ pruned.notFound ↔ name ∈ names ∧ catalog.contains name = false) ∧
      (∀ names' : List String, (∀ name, name ∈ names' ↔ name ∈ names) →
        removeFunctions tree catalog names' = .ok pruned) ∧
      (pruned.removed = [] → pruned.source = tree.source) := by
  obtain ⟨targets, standing⟩ :=
    targets_succeed wellFormed program innermost built (NameSet.ofList names)
  obtain ⟨pruned, done⟩ : ∃ pruned, removeFunctions tree catalog names = .ok pruned := by
    simp [removeFunctions, standing, bind, Except.bind, pure, Except.pure]
  obtain ⟨targets', standing', removed, notFound, source⟩ := removeFunctions_eq_ok_iff.mp done
  rw [standing] at standing'
  obtain rfl := Except.ok.inj standing'
  have sorted := (NameSet.ofList names).sorted
  refine ⟨targets, pruned, standing, done, ?_,
    keepsCharacters wellFormed (stand_of_targets standing), ?_, ?_, ?_, ?_, ?_, ?_⟩
  · intro name record found
    obtain ⟨function, kind, last, registered, rfl⟩ := (Catalog.get?_build_iff built).mp found
    exact ⟨function, kind, last, registered, rfl, resolve?_recordOf wellFormed innermost last kind⟩
  · rw [removed]
    exact sorted.filter _
  · rw [notFound]
    exact sorted.filter _
  · intro name
    rw [removed, List.mem_filter, ← NameSet.mem_def, NameSet.mem_ofList]
  · intro name
    rw [notFound, List.mem_filter, ← NameSet.mem_def, NameSet.mem_ofList, Bool.not_eq_true']
  · intro names' alike
    have same : NameSet.ofList names' = NameSet.ofList names := NameSet.ext (by simpa using alike)
    rw [← done, removeFunctions, removeFunctions, same]
  · intro nothing
    rw [source, nothing]
    exact source_of_nothing standing (removed ▸ nothing)

theorem exportAndPair_succeeds : exportAndPair.WellFormed ∧ exportAndPair.root.kind = "program" ∧
    exportAndPair.FunctionsInnermost ∧ ∃ pruned,
      removeFunctions exportAndPair exportAndPairCatalog ["h", "g", "f", "g"] = .ok pruned ∧
      removeFunctions exportAndPair exportAndPairCatalog ["f", "g", "h"] = .ok pruned ∧
      pruned.removed = ["f", "g"] ∧ pruned.notFound = ["h"] := by
  have wellFormed : exportAndPair.WellFormed := by decide +kernel
  have innermost : exportAndPair.FunctionsInnermost :=
    SyntaxTree.functionsInnermost_of_children wellFormed (by decide +kernel)
  have built : Catalog.build .reject exportAndPair = .ok exportAndPairCatalog := rfl
  obtain ⟨targets, pruned, -, done, -, -, -, -, -, -, alike, -⟩ :=
    removeFunctions_succeeds wellFormed rfl innermost built ["h", "g", "f", "g"]
  obtain ⟨-, -, removed, notFound, -⟩ := removeFunctions_eq_ok_iff.mp done
  refine ⟨wellFormed, rfl, innermost, pruned, done, alike ["f", "g", "h"] (by grind), ?_, ?_⟩
  · rw [removed]
    decide +kernel
  · rw [notFound]
    decide +kernel

end Success

end CallAtlas.Removal
