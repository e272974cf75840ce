import CallAtlas.Proofs.Removal.Tokens
import CallAtlas.Proofs.Text.LeftLines

/-!
Blank lines that a removal leaves. Each cut goes by the source alone when it takes
its lines along, and does not look at what the other cuts take from them. A blank
line of the text that the cuts leave is a line of the source unless a cut had a row
in common with it, and then every such cut lost all that was visible beside it to
other cuts (`blankLines_exact`). Two functions on one line that are removed together
leave a line with the blank between them (`neighbours_leave_blank`).
-/

namespace CallAtlas.Removal

open Text (IsLine KeptLine allBlank)

variable {tree : SyntaxTree} {catalog : Catalog} {names : List String} {pruned : Pruned}

/-- A blank line that the cuts leave was a line of the source if and only if no cut had a row in
common with it, and a cut that had one is deserted; so if no cut is deserted, all of the blank lines
were lines of the source. -/
theorem blankLines_exact (wellFormed : tree.WellFormed)
    (done : removeFunctions tree catalog names = .ok pruned) :
    ∃ targets left, Removal.targets tree catalog (NameSet.ofList names) = .ok targets ∧
      left = cutSpans tree.source (spans tree.source targets) ∧
      pruned.source = (if pruned.removed.isEmpty then left else Text.collapseBlankRuns left) ∧
      (∀ before line after, IsLine left before line after → allBlank line = true →
        (KeptLine (cutLines tree.source targets) tree.source before line ↔
          ∀ cut ∈ spans tree.source targets,
            ¬ cut.Meets (cutLines tree.source targets) tree.source before line) ∧
        ∀ cut ∈ spans tree.source targets,
          cut.Meets (cutLines tree.source targets) tree.source before line →
            cut.Deserted tree.source (spans tree.source targets)) ∧
      ((∀ cut ∈ spans tree.source targets,
          ¬ cut.Deserted tree.source (spans tree.source targets)) →
        ∀ before line after, IsLine left before line after → allBlank line = true →
          KeptLine (cutLines tree.source targets) tree.source before line) := by
  obtain ⟨targets, standing, -, -, source⟩ := removeFunctions_eq_ok_iff.mp done
  have stand := stand_of_targets standing
  have fits := spans_fit wellFormed stand
  have cut := cutSpans_eq_remainder wellFormed stand
  refine ⟨targets, _, standing, rfl, source, ?_, ?_⟩
  · intro before line after isLine blank
    rw [cut] at isLine
    exact ⟨Text.keptLine_iff fits isLine,
      fun _ among meets => Text.deserted_of_meets fits isLine blank among meets⟩
  · intro none before line after isLine blank
    rw [cut] at isLine
    apply (Text.keptLine_iff fits isLine).mpr
    intro cut among meets
    exact none cut among (Text.deserted_of_meets fits isLine blank among meets)

def neighbours : SyntaxTree :=
  Sketch.program "function a() \x7b\x7d function b() \x7b\x7d\n"
    [Sketch.function "function_declaration" 0 15 [], Sketch.function "function_declaration" 16 31 []]

def neighboursCatalog : Catalog :=
  (Catalog.build .reject neighbours).toOption.getD ∅

/-- The line held both functions and nothing else, and a blank line is left of it. -/
theorem neighbours_leave_blank : neighbours.WellFormed ∧
    Catalog.build .reject neighbours = .ok neighboursCatalog ∧ ∃ pruned targets,
      removeFunctions neighbours neighboursCatalog ["a", "b"] = .ok pruned ∧
      Removal.targets neighbours neighboursCatalog (NameSet.ofList ["a", "b"]) = .ok targets ∧
      pruned.source = " \n".toList ∧
      IsLine (cutSpans neighbours.source (spans neighbours.source targets)) [] [' '] [] ∧
      allBlank [' '] = true ∧
      ¬ KeptLine (cutLines neighbours.source targets) neighbours.source [] [' '] ∧
      (⟨0, 15⟩ : Text.Span).Deserted neighbours.source (spans neighbours.source targets) := by
  have wellFormed : neighbours.WellFormed := by decide +kernel
  obtain ⟨pruned, done, removed⟩ : ∃ pruned,
      removeFunctions neighbours neighboursCatalog ["a", "b"] = .ok pruned ∧
      pruned.removed.isEmpty = false := ⟨_, rfl, by decide +kernel⟩
  obtain ⟨targets, left, standing, rfl, result, exactly, -⟩ := blankLines_exact wellFormed done
  have cuts : spans neighbours.source targets = [⟨0, 15⟩, ⟨16, 31⟩] := by
    rw [← Except.ok.inj standing]
    decide +kernel
  have lines : cutLines neighbours.source targets = [⟨0, 15⟩, ⟨16, 31⟩] := by
    rw [cutLines, cuts]
    decide +kernel
  -- The sort in front of the merge does not evaluate, so the cuts are taken as a remainder.
  have left : cutSpans neighbours.source (spans neighbours.source targets) = [' ', '\n'] := by
    rw [cutSpans_eq_remainder wellFormed (stand_of_targets standing), lines]
    decide +kernel
  rw [removed, left] at result
  have isLine : IsLine (cutSpans neighbours.source (spans neighbours.source targets)) [] [' '] [] :=
    ⟨left, by decide, .inl rfl⟩
  have meets : (⟨0, 15⟩ : Text.Span).Meets (cutLines neighbours.source targets) neighbours.source
      [] [' '] := by
    rw [lines]
    exact ⟨"function a() \x7b\x7d".toList, ' ', "function b() \x7b\x7d\n".toList, 0,
      by decide +kernel, by decide +kernel, by decide +kernel, by decide +kernel, by decide,
      by decide +kernel⟩
  obtain ⟨kept, deserted⟩ := exactly [] [' '] [] isLine rfl
  have among : (⟨0, 15⟩ : Text.Span) ∈ spans neighbours.source targets := by simp [cuts]
  exact ⟨wellFormed, rfl, pruned, targets, done, standing, result, isLine, rfl,
    fun whole => kept.mp whole _ among meets, deserted _ among meets⟩

end CallAtlas.Removal
