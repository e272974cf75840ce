import CallAtlas.Failure
import CallAtlas.Proofs.Text.LeftLines
import CallAtlas.Proofs.Text.Parts
import CallAtlas.Proofs.Tree.Sketch
import CallAtlas.Proofs.Tree.Layout

/-!
Faults of a parse. A flawed parse gives an error that points at the first node in
document order that the parser repaired, or at the root if it marked none. The
places of a tree start in document order, so that the node is also the first one
in the text; and the offset at which it starts is got back from line and column
(`check_exact`).
-/

namespace CallAtlas

namespace Text

def lineStart (text : List Char) (number : Nat) : Nat :=
  byteLength (unlines ((text.splitOn '\n').take (number - 1)))

theorem byteLength_reverse (text : List Char) : byteLength text.reverse = byteLength text := by
  induction text with
  | nil => rfl
  | cons c rest ih => simp [ih, Nat.add_comm]

theorem length_splitOn (text : List Char) :
    (text.splitOn '\n').length = text.count '\n' + 1 := by
  induction text with
  | nil => rfl
  | cons c rest ih =>
      rw [List.splitOn_cons_eq_if_modifyHead]
      by_cases feed : c = '\n'
      · simp [feed, ih]
      · simp [feed, ih]

theorem unlines_splitOn (text : List Char) : unlines (text.splitOn '\n') = text ++ ['\n'] := by
  have joined : ∀ first pieces,
      unlines (first :: pieces) = ['\n'].intercalate (first :: pieces) ++ ['\n'] := by
    intro first pieces
    induction pieces generalizing first with
    | nil => simp [unlines]
    | cons second pieces ih =>
        rw [unlines, List.flatMap_cons, ← unlines, ih, List.intercalate_cons_cons]
        simp
  obtain ⟨first, pieces, all⟩ := List.exists_cons_of_ne_nil (List.splitOn_ne_nil '\n' text)
  rw [all, joined, ← all, List.intercalate_splitOn]

theorem byteLength_eq_lineStart_add (before after : List Char) :
    byteLength before =
      lineStart (before ++ after) (before.count '\n' + 1) + (endPosition before).column := by
  -- Whole lines, and the part of one more line that is in front of the offset.
  obtain ⟨front, line, rfl, plain, opens⟩ := lastLine_split before
  have column : (endPosition (front ++ line)).column = byteLength line := by
    have shown : ∀ c ∈ line.reverse, decide (c ≠ '\n') = true := by
      intro c member
      refine decide_eq_true ?_
      rintro rfl
      exact plain (List.mem_reverse.mp member)
    have ends : front.reverse.takeWhile (· ≠ '\n') = [] := by
      rcases opens with rfl | ⟨lead, rfl⟩
      · rfl
      · simp
    rw [endPosition, List.reverse_append, List.takeWhile_append_of_pos shown, ends, List.append_nil,
      byteLength_reverse]
  have start : lineStart (front ++ line ++ after) ((front ++ line).count '\n' + 1) =
      byteLength front := by
    rw [List.count_append, List.count_eq_zero.mpr plain, lineStart, Nat.add_sub_cancel,
      Nat.add_zero]
    rcases opens with rfl | ⟨lead, rfl⟩
    · rfl
    · have pieces : (lead ++ ['\n'] ++ line ++ after).splitOn '\n' =
          lead.splitOn '\n' ++ (line ++ after).splitOn '\n' := by
        rw [← List.splitOn_append_cons_self]
        simp
      rw [pieces, List.count_append, List.count_singleton_self, ← length_splitOn,
        List.take_left, unlines_splitOn]
  rw [start, column, byteLength_append]

end Text

namespace Cursor

/-- A repaired place with no other one before it in document order. -/
structure FirstRepaired (root : Node) (first : Cursor) : Prop where
  repaired : first.isRepaired = true
  earliest : ∃ earlier later, preorder root = earlier ++ first :: later ∧
    ∀ place ∈ earlier, place.isRepaired = false

theorem firstRepaired?_eq_some_iff {root : Node} {first : Cursor} :
    firstRepaired? root = some first ↔ first.FirstRepaired root := by
  rw [firstRepaired?, walk_eq_preorder, List.find?_eq_some_iff_append]
  simp only [Bool.not_eq_true']
  exact ⟨fun ⟨repaired, earliest⟩ => ⟨repaired, earliest⟩,
    fun ⟨repaired, earliest⟩ => ⟨repaired, earliest⟩⟩

theorem firstRepaired?_eq_none_iff {root : Node} :
    firstRepaired? root = none ↔ ∀ place, IsPlace root place → place.isRepaired = false := by
  simp only [firstRepaired?, List.find?_eq_none, mem_walk_iff, Bool.not_eq_true]

theorem FirstRepaired.isPlace {root : Node} {first : Cursor} (isFirst : first.FirstRepaired root) :
    IsPlace root first := by
  obtain ⟨-, earlier, later, split, -⟩ := isFirst
  refine (mem_preorderAt_iff root [] first).mp ?_
  rw [← preorder, split]
  simp

theorem starts_ordered {root : Node} (nests : ∀ place, IsPlace root place → place.node.Nests) :
    (preorder root).Pairwise fun first second => first.span.start ≤ second.span.start := by
  have among : ∀ place ∈ preorder root, IsPlace root place :=
    fun place member => (mem_preorderAt_iff root [] place).mp member
  refine (preorderAt_precedes nests root [] .refl).imp_of_mem ?_
  rintro first second member - (encloses | ahead)
  · exact (span_inside nests (among first member) encloses.to_reflTransGen).1
  · exact Nat.le_trans (nests first (among first member)).ordered ahead

/-- The first repaired place in document order is the first one in the text. -/
theorem FirstRepaired.start_le {root : Node} {first place : Cursor}
    (isFirst : first.FirstRepaired root)
    (nests : ∀ place, IsPlace root place → place.node.Nests) (isPlace : IsPlace root place)
    (repaired : place.isRepaired = true) : first.span.start ≤ place.span.start := by
  obtain ⟨-, earlier, later, split, none⟩ := isFirst
  have ordered := starts_ordered nests
  have member : place ∈ preorder root := (mem_preorderAt_iff root [] place).mpr isPlace
  rw [split] at ordered member
  rcases List.mem_append.mp member with before | behind
  · rw [none place before] at repaired
    cases repaired
  · rcases List.mem_cons.mp behind with rfl | behind
    · exact Nat.le_refl _
    · exact (List.pairwise_cons.mp (List.pairwise_append.mp ordered).2.1).1 place behind

end Cursor

/-- An error has the line and the column of an offset, both counted from one. -/
structure SyntaxError.PointsAt (source : List Char) (offset : Nat) (error : SyntaxError) :
    Prop where
  line : error.line = (Text.takeBytes offset source).count '\n' + 1
  column : 1 ≤ error.column
  offset : offset = Text.lineStart source error.line + error.column - 1

namespace SyntaxTree

variable {source : List Char} {root : Node}

theorem pointsAt_of_position {offset : Nat} {error : SyntaxError}
    (boundary : Text.IsBoundary source offset)
    (line : error.line = (Text.positionAt source offset).row + 1)
    (column : error.column = (Text.positionAt source offset).column + 1) :
    error.PointsAt source offset := by
  obtain ⟨before, after, rfl, rfl⟩ := boundary
  have start := Text.byteLength_eq_lineStart_add before after
  rw [Text.positionAt_of_split rfl rfl] at line column
  refine ⟨?_, by omega, ?_⟩
  · rw [line, Text.takeBytes_append, Text.endPosition]
  · rw [line, column, ← Nat.add_assoc, Nat.add_sub_cancel]
    exact start

theorem firstError_pointsAt {node : Node} (boundary : Text.IsBoundary source node.span.start)
    (found : ((Cursor.firstRepaired? root).map Cursor.node).getD root = node) :
    (firstError source root).PointsAt source node.span.start := by
  subst found
  exact pointsAt_of_position boundary rfl rfl

/-- A flawed parse gives no tree but an error, which points at the first repaired place in document
order, before which no other repaired place starts in the text, or at the root if there is none. Any
other parse gives its tree. -/
theorem check_exact {parse : Parse} (formed : WellFormed ⟨source, parse.root⟩) :
    (parse.flawed = true → ∃ error, check source parse = .error error ∧
      (check source parse).mapError Failure.ofSyntaxError =
        .error (.parse error.line error.column error.fault.message) ∧
      ((∃ place, Cursor.IsPlace parse.root place ∧ place.isRepaired = true) →
        ∃ first : Cursor, first.FirstRepaired parse.root ∧ error.PointsAt source first.span.start ∧
          ∀ place, Cursor.IsPlace parse.root place → place.isRepaired = true →
            first.span.start ≤ place.span.start) ∧
      ((∀ place, Cursor.IsPlace parse.root place → place.isRepaired = false) →
        error.PointsAt source parse.root.span.start)) ∧
    (parse.flawed = false → check source parse = .ok ⟨source, parse.root⟩) := by
  constructor
  · intro flawed
    have refused : check source parse = .error (firstError source parse.root) := if_pos flawed
    refine ⟨firstError source parse.root, refused, by rw [refused]; rfl, ?_, ?_⟩
    · rintro ⟨place, isPlace, repaired⟩
      cases found : Cursor.firstRepaired? parse.root with
      | none =>
          rw [Cursor.firstRepaired?_eq_none_iff.mp found place isPlace] at repaired
          cases repaired
      | some first =>
          have isFirst := Cursor.firstRepaired?_eq_some_iff.mp found
          refine ⟨first, isFirst, ?_, fun _ => isFirst.start_le formed.nests⟩
          exact firstError_pointsAt (formed.bounded first isFirst.isPlace).1 (by rw [found]; rfl)
    · intro none
      have found := Cursor.firstRepaired?_eq_none_iff.mpr none
      exact firstError_pointsAt (formed.bounded (Cursor.ofRoot parse.root) .refl).1
        (by rw [found]; rfl)
  · intro whole
    rw [check, whole]
    rfl

/-- `&&` on the second line and behind a wide blank. The parser put an empty operand in and marked
the whole as an error. -/
def strayOperator : SyntaxTree where
  source := "\n\u3000&&".toList
  root :=
    let operand : Label :=
      { kind := "identifier", named := true, missing := true, faulty := false, field := none
        span := ⟨4, 4⟩ }
    let fault : Label :=
      { kind := "ERROR", named := true, missing := false, faulty := true, field := none
        span := ⟨4, 6⟩ }
    Sketch.rule "program" 4 6 [.branch fault [.branch operand [], Sketch.token "&&" 4]]

theorem strayOperator_refused : strayOperator.WellFormed ∧
    (Sketch.place strayOperator [0]).FirstRepaired strayOperator.root ∧
    (Sketch.place strayOperator [0, 0]).isRepaired = true ∧
    ∃ error, check strayOperator.source ⟨strayOperator.root, true⟩ = .error error ∧
      Failure.ofSyntaxError error = .parse 2 4 "unexpected `&&`" ∧
      error.PointsAt strayOperator.source 4 := by
  have formed : strayOperator.WellFormed := by decide +kernel
  have whole :
      Cursor.firstRepaired? strayOperator.root = some (Sketch.place strayOperator [0]) := rfl
  have isFirst := Cursor.firstRepaired?_eq_some_iff.mp whole
  have operand : (Sketch.place strayOperator [0, 0]).isRepaired = true := rfl
  obtain ⟨refused, -⟩ := @check_exact strayOperator.source ⟨strayOperator.root, true⟩ formed
  obtain ⟨error, failed, -, located, -⟩ := refused rfl
  obtain ⟨first, isFirst', points, -⟩ :=
    located ⟨Sketch.place strayOperator [0, 0], Sketch.isPlace_place _ _, operand⟩
  obtain rfl : Sketch.place strayOperator [0] = first :=
    Option.some.inj (whole.symm.trans (Cursor.firstRepaired?_eq_some_iff.mpr isFirst'))
  obtain rfl := Except.error.inj failed
  exact ⟨formed, isFirst, operand, _, failed, by decide +kernel, points⟩

end SyntaxTree

end CallAtlas
