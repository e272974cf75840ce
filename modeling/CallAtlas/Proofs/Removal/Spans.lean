import CallAtlas.Proofs.Removal.Cutting
import CallAtlas.Proofs.Removal.Targets

/-!
The spans that a removal cuts. `Cuts` says which spans come of some targets: a
declaration or a variable declaration with its export, or a declarator with the
comma that it takes. In a well-formed tree all of them stand between characters of
the source.
-/

namespace CallAtlas.Removal

open Cursor (Holds IsPlace LeadsTo)
open Text (Span)

section Parts

variable {tree : SyntaxTree} {declaration declarator comma place : Cursor} {source : List Char}

theorem isComma_of_isDeclarator (declarator : isDeclarator place.node = true) :
    isComma place = false := by
  have kind : place.kind = "variable_declarator" := of_decide_eq_true declarator
  simp [isComma, kind]

theorem isDeclarator_of_isComma (comma : isComma place = true) :
    isDeclarator place.node = false := by
  by_contra declarator
  rw [isComma_of_isDeclarator (by simpa using declarator)] at comma
  cases comma

theorem withExport_cases (isPlace : IsPlace tree.root declaration) :
    (∃ statement, Holds statement declaration ∧ statement.kind = "export_statement" ∧
      withExport declaration = statement) ∨
    ((∀ statement, Holds statement declaration → statement.kind ≠ "export_statement") ∧
      withExport declaration = declaration) := by
  unfold withExport
  rcases isPlace.cases with rfl | ⟨statement, -, held⟩
  · exact .inr ⟨fun statement held => absurd held (Cursor.not_holds_ofRoot _ _), rfl⟩
  · rw [Cursor.parent?_of_holds held]
    by_cases exported : statement.kind = "export_statement"
    · exact .inl ⟨statement, held, exported, by simp [exported]⟩
    · refine .inr ⟨fun other held' => ?_, by simp [exported]⟩
      rwa [Cursor.parent_unique held held']

theorem isPlace_withExport (isPlace : IsPlace tree.root declaration) :
    IsPlace tree.root (withExport declaration) := by
  rcases withExport_cases isPlace with ⟨statement, held, -, same⟩ | ⟨-, same⟩
  · rw [same]
    exact isPlace.of_child held
  · rw [same]
    exact isPlace

theorem leadsTo_withExport (isPlace : IsPlace tree.root declaration)
    (leads : LeadsTo place declaration) (below : place ≠ declaration) :
    LeadsTo place (withExport declaration) := by
  rcases withExport_cases isPlace with ⟨statement, held, -, same⟩ | ⟨-, same⟩
  · rw [same]
    exact (leads.of_holds held).resolve_left below
  · rw [same]
    exact leads

theorem inside_withExport (wellFormed : tree.WellFormed) (isPlace : IsPlace tree.root declaration) :
    (withExport declaration).span.start ≤ declaration.span.start ∧
      declaration.span.stop ≤ (withExport declaration).span.stop := by
  rcases withExport_cases isPlace with ⟨statement, held, -, same⟩ | ⟨-, same⟩
  · rw [same]
    exact Cursor.span_inside wellFormed.nests (isPlace.of_child held) (.single held)
  · rw [same]
    exact ⟨Nat.le_refl _, Nat.le_refl _⟩

/-- The comma that a declarator is cut with: the next sibling, or else the one before. -/
def Takes (declaration declarator comma : Cursor) : Prop :=
  isComma comma = true ∧ (Cursor.Follows declaration declarator comma ∨
    Cursor.Follows declaration comma declarator ∧
      ∀ next, Cursor.Follows declaration declarator next → isComma next = false)

theorem Takes.holds (takes : Takes declaration declarator comma) : Holds declaration comma := by
  obtain ⟨-, follows | ⟨follows, -⟩⟩ := takes
  · exact follows.holds_second
  · exact follows.holds_first

theorem Takes.unique {other : Cursor} (takes : Takes declaration declarator comma)
    (takes' : Takes declaration declarator other) : comma = other := by
  obtain ⟨kind, follows | ⟨follows, last⟩⟩ := takes <;>
    obtain ⟨kind', follows' | ⟨follows', last'⟩⟩ := takes'
  · exact follows.second_unique follows'
  · rw [last' comma follows] at kind
    cases kind
  · rw [last other follows'] at kind'
    cases kind'
  · exact follows.first_unique follows'

theorem declaratorSpan_cases (source : List Char) (held : Holds declaration declarator) :
    (∃ comma, Cursor.Follows declaration declarator comma ∧ Takes declaration declarator comma ∧
      declaratorSpan source declarator = ⟨declarator.span.start, comma.span.stop +
        ((Text.dropBytes comma.span.stop source).takeWhile Text.isPadding).length⟩) ∨
    (∃ comma, Cursor.Follows declaration comma declarator ∧ Takes declaration declarator comma ∧
      declaratorSpan source declarator = ⟨comma.span.start, declarator.span.stop⟩) ∨
    ((∀ comma, ¬ Takes declaration declarator comma) ∧
      declaratorSpan source declarator = declarator.span) := by
  have ahead : ∀ comma, declarator.nextSibling?.filter isComma = some comma ↔
      Cursor.Follows declaration declarator comma ∧ isComma comma = true := by
    intro comma
    rw [Option.filter_eq_some_iff, Cursor.nextSibling?_eq_some_iff held]
  have behind : ∀ comma, declarator.previousSibling?.filter isComma = some comma ↔
      Cursor.Follows declaration comma declarator ∧ isComma comma = true := by
    intro comma
    rw [Option.filter_eq_some_iff, Cursor.previousSibling?_eq_some_iff held]
  unfold declaratorSpan
  cases next : declarator.nextSibling?.filter isComma with
  | some comma =>
      obtain ⟨follows, kind⟩ := (ahead comma).mp next
      exact .inl ⟨comma, follows, ⟨kind, .inl follows⟩, rfl⟩
  | none =>
      have last : ∀ other, Cursor.Follows declaration declarator other → isComma other = false := by
        intro other follows
        by_contra kind
        have found := (ahead other).mpr ⟨follows, by simpa using kind⟩
        rw [next] at found
        cases found
      cases previous : declarator.previousSibling?.filter isComma with
      | some comma =>
          obtain ⟨follows, kind⟩ := (behind comma).mp previous
          exact .inr (.inl ⟨comma, follows, ⟨kind, .inr ⟨follows, last⟩⟩, rfl⟩)
      | none =>
          refine .inr (.inr ⟨?_, rfl⟩)
          rintro comma ⟨kind, follows | ⟨follows, -⟩⟩
          · rw [last comma follows] at kind
            cases kind
          · have found := (behind comma).mpr ⟨follows, kind⟩
            rw [previous] at found
            cases found

variable (wellFormed : tree.WellFormed) (isPlace : IsPlace tree.root declaration)
  (held : Holds declaration declarator)

include wellFormed isPlace held

theorem declaratorSpan_fits : (declaratorSpan tree.source declarator).Fits tree.source := by
  have inner := wellFormed.fits (isPlace.of_holds held)
  have nests := wellFormed.nests
  rcases declaratorSpan_cases tree.source held with ⟨comma, follows, -, same⟩ |
    ⟨comma, follows, -, same⟩ | ⟨-, same⟩
  · have other := wellFormed.fits (isPlace.of_holds follows.holds_second)
    have apart := follows.apart (nests declaration isPlace)
    obtain ⟨front, padding, back, split, -, stops, -⟩ := Text.padding_split other.stop
    rw [same]
    refine ⟨?_, inner.start, ?_⟩
    · have := inner.ordered
      have := other.ordered
      simp only
      omega
    · simp only
      rw [← stops, split]
      exact .of_append _ _
  · have other := wellFormed.fits (isPlace.of_holds follows.holds_first)
    have apart := follows.apart (nests declaration isPlace)
    rw [same]
    refine ⟨?_, other.start, inner.stop⟩
    have := inner.ordered
    have := other.ordered
    simp only
    omega
  · rw [same]
    exact inner

theorem inside_declaratorSpan (part : place = declarator ∨ Takes declaration declarator place) :
    (declaratorSpan tree.source declarator).start ≤ place.span.start ∧
      place.span.stop ≤ (declaratorSpan tree.source declarator).stop := by
  have nested := wellFormed.nests declaration isPlace
  have inner := wellFormed.fits (isPlace.of_holds held)
  rcases declaratorSpan_cases tree.source held with ⟨comma, follows, takes, same⟩ |
    ⟨comma, follows, takes, same⟩ | ⟨none, same⟩
  · have other := wellFormed.fits (isPlace.of_holds follows.holds_second)
    have apart := follows.apart nested
    rw [same]
    rcases part with rfl | takes'
    · have := other.ordered
      exact ⟨Nat.le_refl _, by simp only; omega⟩
    · obtain rfl := takes.unique takes'
      have := inner.ordered
      exact ⟨by simp only; omega, Nat.le_add_right _ _⟩
  · have other := wellFormed.fits (isPlace.of_holds follows.holds_first)
    have apart := follows.apart nested
    rw [same]
    rcases part with rfl | takes'
    · have := other.ordered
      exact ⟨by simp only; omega, Nat.le_refl _⟩
    · obtain rfl := takes.unique takes'
      have := inner.ordered
      exact ⟨Nat.le_refl _, by simp only; omega⟩
  · rw [same]
    rcases part with rfl | takes
    · exact ⟨Nat.le_refl _, Nat.le_refl _⟩
    · exact absurd takes (none place)

theorem declaratorSpan_showsIn :
    (declaratorSpan tree.source declarator).ShowsIn tree.source declaration.span := by
  have nests := wellFormed.nests
  have inner := Cursor.span_inside nests isPlace (.single held)
  have ordered := (wellFormed.fits (isPlace.of_holds held)).ordered
  rcases declaratorSpan_cases tree.source held with ⟨comma, follows, -, same⟩ |
    ⟨comma, follows, -, same⟩ | ⟨-, same⟩
  · have other := wellFormed.fits (isPlace.of_holds follows.holds_second)
    have outer := Cursor.span_inside nests isPlace (.single follows.holds_second)
    rw [same]
    refine ⟨inner.1, by simp only; omega, fun before c after split seen inside => ?_⟩
    have unpadded := Text.lt_of_visible other.stop split seen inside
    omega
  · have other := wellFormed.fits (isPlace.of_holds follows.holds_first)
    have outer := Cursor.span_inside nests isPlace (.single follows.holds_first)
    have := other.ordered
    rw [same]
    refine ⟨outer.1, by simp only; omega, fun before c after split seen inside => ?_⟩
    simp only at inside
    omega
  · rw [same]
    refine ⟨inner.1, by omega, fun before c after split seen inside => ?_⟩
    omega

/-- What holds a visible character of the span of a declarator stands at or below the declarator
or its comma, or above both. -/
theorem declaratorSpan_overlap (isPlace' : IsPlace tree.root place) {before after : List Char}
    {c : Char} (split : tree.source = before ++ c :: after) (seen : Text.isBlank c = false)
    (inside : (declaratorSpan tree.source declarator).start ≤ Text.byteLength before ∧
      Text.byteLength before < (declaratorSpan tree.source declarator).stop)
    (shares : place.span.start ≤ Text.byteLength before ∧
      Text.byteLength before < place.span.stop) :
    LeadsTo place declaration ∨ LeadsTo declarator place ∨
      ∃ comma, Takes declaration declarator comma ∧ LeadsTo comma place := by
  have nests := wellFormed.nests
  rcases declaratorSpan_cases tree.source held with ⟨comma, follows, takes, same⟩ |
    ⟨comma, follows, takes, same⟩ | ⟨-, same⟩
  · rw [same] at inside
    -- The padding behind the comma holds no visible character.
    have unpadded : Text.byteLength before < comma.span.stop :=
      Text.lt_of_visible (wellFormed.fits (isPlace.of_holds follows.holds_second)).stop split seen
        inside.2
    rcases follows.overlap nests isPlace isPlace' ⟨inside.1, unpadded⟩ shares with
      above | below | below
    · exact .inl above
    · exact .inr (.inl below)
    · exact .inr (.inr ⟨comma, takes, below⟩)
  · rw [same] at inside
    rcases follows.overlap nests isPlace isPlace' inside shares with above | below | below
    · exact .inl above
    · exact .inr (.inr ⟨comma, takes, below⟩)
    · exact .inr (.inl below)
  · rw [same] at inside
    have isDeclarator := isPlace.of_holds held
    rcases Cursor.related_of_overlap nests isDeclarator isPlace' _ inside shares with below | above
    · exact .inr (.inl below)
    · rcases above.of_holds held with rfl | above
      · exact .inr (.inl .refl)
      · exact .inl above

end Parts

section Cuts

/-- The spans that some targets cut out of a source. -/
inductive Cuts (source : List Char) (targets : List Target) : Span → Prop where
  /-- A declaration, with the statement that exports it. -/
  | declared {declaration : Cursor} (target : .declared declaration ∈ targets) :
      Cuts source targets (withExport declaration).span
  /-- A variable declaration that loses as many declarators as it has, with its export. -/
  | whole {group : Group} (isGroup : IsGroup targets group)
      (all : group.dropped.length = declaratorCount group.declaration.node) :
      Cuts source targets (withExport group.declaration).span
  /-- A declarator with a comma beside it. -/
  | single {group : Group} {declarator : Cursor} (isGroup : IsGroup targets group)
      (some : group.dropped.length ≠ declaratorCount group.declaration.node)
      (dropped : declarator ∈ group.dropped) :
      Cuts source targets (declaratorSpan source declarator)

variable {tree : SyntaxTree} {source : List Char} {targets : List Target} {span : Span}

theorem mem_spans_iff : span ∈ spans source targets ↔ Cuts source targets span := by
  rw [spans, List.mem_append, List.mem_filterMap, List.mem_flatMap]
  simp only [mem_groups_iff]
  constructor
  · rintro (⟨target, member, found⟩ | ⟨group, isGroup, member⟩)
    · cases target with
      | declared declaration => exact Option.some.inj found ▸ .declared member
      | bound _ _ => cases found
    · rw [Group.spans] at member
      split at member
      · next all => exact List.mem_singleton.mp member ▸ .whole isGroup all
      · next some =>
          obtain ⟨declarator, dropped, rfl⟩ := List.mem_map.mp member
          exact .single isGroup some dropped
  · intro cuts
    cases cuts with
    | declared target => exact .inl ⟨_, target, rfl⟩
    | @whole group isGroup all =>
        exact .inr ⟨group, isGroup, by
          rw [Group.spans, if_pos all]
          exact List.mem_singleton_self _⟩
    | @single group declarator isGroup some dropped =>
        exact .inr ⟨group, isGroup, by
          rw [Group.spans, if_neg some]
          exact List.mem_map_of_mem dropped⟩

theorem Cuts.fits (wellFormed : tree.WellFormed) (stand : Stand tree targets)
    (cuts : Cuts tree.source targets span) : span.Fits tree.source := by
  cases cuts with
  | declared target =>
      obtain ⟨function, isPlace, -, rfl⟩ := stand _ target
      exact wellFormed.fits (isPlace_withExport isPlace)
  | whole isGroup all =>
      obtain ⟨declarator, member⟩ := isGroup.opened
      exact wellFormed.fits (isPlace_withExport (stand.bound member).1)
  | single isGroup some dropped =>
      obtain ⟨declaration, member, -⟩ := isGroup.mem_dropped_iff.mp dropped
      obtain ⟨isPlace, held⟩ := stand.bound member
      exact declaratorSpan_fits wellFormed isPlace held

end Cuts

end CallAtlas.Removal
