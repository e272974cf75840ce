import CallAtlas.Proofs.Removal.Outcome

/-!
Commas of variable declarations. A declarator that is dropped is cut with a comma
beside it, chosen without a look at the other ones. So what is left of a
declaration has its commas between the declarators just when every dropped
declarator has a comma to take and no two take the same one (`separators_exact`).
Two last declarators that are dropped together take the same comma, and the one
before them is left over (`triple_not_separated`).
-/

namespace CallAtlas.Removal

open Cursor (Holds IsPlace LeadsTo Follows)
open Text (Span Covered)

/-- Declarators with a comma between each two neighbours. -/
def Alternates : List Cursor → Prop
  | [] => False
  | [last] => isDeclarator last.node = true
  | first :: comma :: rest =>
      isDeclarator first.node = true ∧ isComma comma = true ∧ Alternates rest

def Continues : List Cursor → Prop
  | [] => True
  | comma :: rest => isComma comma = true ∧ Alternates rest

/-- The declarators and the commas of a declaration; comments and keywords may stand between. -/
def parts (declaration : Cursor) : List Cursor :=
  declaration.children.filter fun child => isDeclarator child.node || isComma child

def Neighbours (parts : List Cursor) (part other : Cursor) : Prop :=
  ∃ front back, parts = front ++ part :: other :: back ∨ parts = front ++ other :: part :: back

section Lists

variable {items front back : List Cursor} {first part other : Cursor}

theorem alternates_cons_iff :
    Alternates (first :: back) ↔ isDeclarator first.node = true ∧ Continues back := by
  cases back <;> simp [Alternates, Continues]

theorem Alternates.count (alternates : Alternates items) :
    items.countP (fun part => isDeclarator part.node) = items.countP isComma + 1 := by
  fun_induction Alternates items with
  | case1 => exact alternates.elim
  | case2 last => simp [alternates, isComma_of_isDeclarator alternates]
  | case3 first comma rest ih =>
      obtain ⟨declarator, kind, more⟩ := alternates
      simp [declarator, isComma_of_isDeclarator declarator, kind, isDeclarator_of_isComma kind,
        ih more]

theorem split_unique {front' back' : List Cursor} (nodup : (front ++ part :: back).Nodup)
    (same : front ++ part :: back = front' ++ part :: back') : front = front' ∧ back = back' := by
  have absent := (List.nodup_cons.mp (List.nodup_middle.mp nodup)).1
  rw [List.mem_append, not_or] at absent
  obtain ⟨rfl, -, rfl⟩ := (List.append_cons_inj_of_notMem absent.1 absent.2).mp same
  exact ⟨rfl, rfl⟩

theorem Neighbours.of_split (neighbours : Neighbours items part other) (nodup : items.Nodup)
    (split : items = front ++ part :: back) :
    back.head? = some other ∨ front.getLast? = some other := by
  subst split
  obtain ⟨front', back', same | same⟩ := neighbours
  · obtain ⟨-, rfl⟩ := split_unique nodup same
    exact .inl rfl
  · have same' : front ++ part :: back = (front' ++ [other]) ++ part :: back' := by simp [same]
    obtain ⟨rfl, -⟩ := split_unique nodup same'
    exact .inr (by simp)

theorem Neighbours.symm (neighbours : Neighbours items part other) :
    Neighbours items other part := by
  obtain ⟨front, back, same⟩ := neighbours
  exact ⟨front, back, same.symm⟩

end Lists

section Parts

variable {declaration declarator comma : Cursor}

theorem parts_nodup (declaration : Cursor) : (parts declaration).Nodup :=
  declaration.children_nodup.filter _

theorem mem_parts_iff : comma ∈ parts declaration ↔ Holds declaration comma ∧
    (isDeclarator comma.node = true ∨ isComma comma = true) := by
  rw [parts, List.mem_filter, Cursor.mem_children_iff, Bool.or_eq_true]

theorem Takes.neighbours (takes : Takes declaration declarator comma)
    (kind : isDeclarator declarator.node = true) :
    Neighbours (parts declaration) declarator comma := by
  obtain ⟨isComma, follows | ⟨follows, -⟩⟩ := takes
  · obtain ⟨front, back, split⟩ := follows.split
    exact ⟨_, _, .inl (by rw [parts, split, List.filter_append,
      List.filter_cons_of_pos (by simp [kind]), List.filter_cons_of_pos (by simp [isComma])])⟩
  · obtain ⟨front, back, split⟩ := follows.split
    exact ⟨_, _, .inr (by rw [parts, split, List.filter_append,
      List.filter_cons_of_pos (by simp [isComma]), List.filter_cons_of_pos (by simp [kind])])⟩

end Parts

section Law

/-- Every dropped declarator takes a comma, and no two take the same one. -/
def TakeTheirOwn (declaration : Cursor) (drops : Cursor → Prop) : Prop :=
  (∀ declarator, drops declarator → ∃ comma, Takes declaration declarator comma) ∧
    ∀ first second comma, drops first → drops second → Takes declaration first comma →
      Takes declaration second comma → first = second

def Stays (drops gone : Cursor → Prop) (part : Cursor) : Prop :=
  isDeclarator part.node = true ∧ ¬ drops part ∨ isComma part = true ∧ ¬ gone part

open Classical in
/-- What stays of some parts. -/
noncomputable def left (drops gone : Cursor → Prop) (parts : List Cursor) : List Cursor :=
  parts.filter fun part => decide (Stays drops gone part)

open Classical in
/-- What does not. -/
noncomputable def goes (drops gone : Cursor → Prop) (parts : List Cursor) : List Cursor :=
  parts.filter fun part => !decide (Stays drops gone part)

def GoesBack (declaration : Cursor) (drops : Cursor → Prop) (front : List Cursor)
    (declarator : Cursor) : Prop :=
  ∃ comma, front.getLast? = some comma ∧ drops declarator ∧ Takes declaration declarator comma

variable {declaration : Cursor} {drops gone : Cursor → Prop} {items front rest : List Cursor}
  {part declarator first second comma : Cursor}

theorem left_cons_stays (stays : Stays drops gone part) :
    left drops gone (part :: rest) = part :: left drops gone rest := by
  simp [left, stays]

theorem left_cons_goes (goes : ¬ Stays drops gone part) :
    left drops gone (part :: rest) = left drops gone rest := by
  simp [left, goes]

theorem stays_declarator_iff (kind : isDeclarator part.node = true) :
    Stays drops gone part ↔ ¬ drops part := by
  simp [Stays, kind, isComma_of_isDeclarator kind]

theorem stays_comma_iff (kind : isComma part = true) : Stays drops gone part ↔ ¬ gone part := by
  simp [Stays, kind, isDeclarator_of_isComma kind]

theorem goesBack_append_iff : GoesBack declaration drops (front ++ [first, comma]) second ↔
    drops second ∧ Takes declaration second comma := by
  simp [GoesBack]

variable (kinds : ∀ declarator, drops declarator → isDeclarator declarator.node = true)
  (taken : ∀ comma ∈ parts declaration, isComma comma = true →
    (gone comma ↔ ∃ declarator, drops declarator ∧ Takes declaration declarator comma))

include kinds taken

theorem gone_iff (split : parts declaration = front ++ first :: comma :: second :: rest)
    (isComma : isComma comma = true) : gone comma ↔
      drops first ∧ Takes declaration first comma ∨
        drops second ∧ Takes declaration second comma := by
  have split' : parts declaration = (front ++ [first]) ++ comma :: second :: rest := by
    simp [split]
  rw [taken comma (by simp [split]) isComma]
  constructor
  · rintro ⟨declarator, dropped, takes⟩
    have beside := (takes.neighbours (kinds declarator dropped)).symm
    rcases beside.of_split (parts_nodup declaration) split' with next | previous
    · obtain rfl := Option.some.inj next
      exact .inr ⟨dropped, takes⟩
    · obtain rfl : first = declarator := by simpa using previous
      exact .inl ⟨dropped, takes⟩
  · rintro (before | behind)
    · exact ⟨first, before⟩
    · exact ⟨second, behind⟩

theorem left_of_suffix (own : TakeTheirOwn declaration drops) (suffix : List Cursor)
    (alternates : Alternates suffix) : ∀ front, parts declaration = front ++ suffix →
    ∀ declarator, suffix.head? = some declarator →
    (GoesBack declaration drops front declarator → Continues (left drops gone suffix)) ∧
      (¬ GoesBack declaration drops front declarator → Alternates (left drops gone suffix)) := by
  have nodup := parts_nodup declaration
  -- On the parts still to come; of those before them only the last comma matters.
  fun_induction Alternates suffix with
  | case1 => exact alternates.elim
  | case2 last =>
      rintro front split _ ⟨⟩
      have stays := @stays_declarator_iff drops gone last alternates
      -- The last declarator has no comma but the one before it.
      have back : drops last → GoesBack declaration drops front last := by
        intro dropped
        obtain ⟨comma, takes⟩ := own.1 last dropped
        rcases (takes.neighbours alternates).of_split nodup split with next | previous
        · cases next
        · exact ⟨comma, previous, dropped, takes⟩
      constructor
      · rintro ⟨comma, -, dropped, -⟩
        rw [left_cons_goes (by simpa [stays] using dropped)]
        trivial
      · intro forward
        rw [left_cons_stays (stays.mpr (mt back forward))]
        exact alternates
  | case3 first comma rest ih =>
      rintro front split _ ⟨⟩
      obtain ⟨kind, isComma, more⟩ := alternates
      cases rest with
      | nil => exact more.elim
      | cons second rest =>
          obtain ⟨continues, starts⟩ :=
            ih more (front ++ [first, comma]) (by simp [split]) second rfl
          rw [goesBack_append_iff] at continues starts
          have stays := @stays_declarator_iff drops gone first kind
          have stays' := @stays_comma_iff drops gone comma isComma
          rw [gone_iff kinds taken split isComma] at stays'
          -- A comma that the first declarator leaves leads on to the second, or goes with it.
          have tail : ¬ (drops first ∧ Takes declaration first comma) →
              Continues (left drops gone (comma :: second :: rest)) := by
            intro untaken
            by_cases behind : drops second ∧ Takes declaration second comma
            · rw [left_cons_goes (by simp [stays', behind])]
              exact continues behind
            · rw [left_cons_stays (stays'.mpr (not_or.mpr ⟨untaken, behind⟩))]
              exact ⟨isComma, starts behind⟩
          by_cases dropped : drops first
          · rw [left_cons_goes (by simpa [stays] using dropped)]
            by_cases takes : Takes declaration first comma
            · rw [left_cons_goes (by simp [stays', dropped, takes])]
              obtain ⟨-, after, apart⟩ := List.nodup_append.mp (split ▸ nodup)
              constructor
              · rintro ⟨comma', last, -, takes'⟩
                obtain rfl := takes.unique takes'
                exact absurd rfl (apart comma (List.mem_of_getLast? last) comma (by simp))
              · intro _
                refine starts fun ⟨dropped', takes'⟩ => ?_
                obtain rfl := own.2 first second comma dropped dropped' takes takes'
                simp at after
            · constructor
              · intro _
                exact tail (by simp [takes])
              · intro forward
                obtain ⟨comma', takes'⟩ := own.1 first dropped
                rcases (takes'.neighbours kind).of_split nodup split with next | previous
                · obtain rfl := Option.some.inj next
                  exact absurd takes' takes
                · exact absurd ⟨comma', previous, dropped, takes'⟩ forward
          · rw [left_cons_stays (stays.mpr dropped), alternates_cons_iff]
            constructor
            · rintro ⟨-, -, dropped', -⟩
              exact absurd dropped' dropped
            · intro _
              exact ⟨kind, tail (by simp [dropped])⟩

omit kinds taken in
theorem count_goes (alternates : Alternates items)
    (alternates' : Alternates (left drops gone items)) :
    (goes drops gone items).countP (fun part => isDeclarator part.node) =
      (goes drops gone items).countP isComma := by
  classical
  have total := alternates.count
  have stay := alternates'.count
  have halves := fun test =>
    List.countP_eq_countP_filter_add items test fun part => decide (Stays drops gone part)
  rw [halves, halves isComma] at total
  simp only [left, goes] at stay ⊢
  omega

/-- As many commas go as declarators only if each declarator takes one of its own. -/
theorem takeTheirOwn_of_left (among : ∀ declarator, drops declarator → Holds declaration declarator)
    (alternates : Alternates (parts declaration))
    (alternates' : Alternates (left drops gone (parts declaration))) :
    TakeTheirOwn declaration drops := by
  let dropped := (goes drops gone (parts declaration)).filter fun part => isDeclarator part.node
  let commas := (goes drops gone (parts declaration)).filter isComma
  have mem_dropped : ∀ declarator, declarator ∈ dropped ↔ drops declarator := by
    intro declarator
    simp only [dropped, goes, List.mem_filter, mem_parts_iff]
    constructor
    · rintro ⟨⟨-, goes⟩, kind⟩
      simpa [stays_declarator_iff kind] using goes
    · intro drop
      have kind := kinds declarator drop
      exact ⟨⟨⟨among declarator drop, .inl kind⟩, by simpa [stays_declarator_iff kind] using drop⟩,
        kind⟩
  have taker : ∀ comma, comma ∈ commas → ∃ declarator, drops declarator ∧
      Takes declaration declarator comma := by
    intro comma member
    simp only [commas, goes, List.mem_filter] at member
    obtain ⟨⟨member, goes⟩, kind⟩ := member
    exact (taken comma member kind).mp (by simpa [stays_comma_iff kind] using goes)
  choose! taker drop takes using taker
  have nodup : commas.Nodup := ((parts_nodup declaration).filter _).filter _
  have perm : List.Perm (commas.map taker) dropped := by
    refine List.Subperm.perm_of_length_le (List.subperm_of_subset ?_ ?_) ?_
    · refine nodup.map_on fun comma member other member' same => ?_
      exact (takes comma member).unique (same ▸ takes other member')
    · intro declarator chosen
      obtain ⟨comma, member, rfl⟩ := List.mem_map.mp chosen
      exact (mem_dropped _).mpr (drop comma member)
    · rw [List.length_map, ← List.countP_eq_length_filter, ← List.countP_eq_length_filter,
        count_goes alternates alternates']
  -- Each dropped declarator is the one chosen for the comma that it takes.
  have chosen : ∀ declarator, drops declarator → ∃ comma ∈ commas, taker comma = declarator := by
    intro declarator drop
    exact List.mem_map.mp (perm.mem_iff.mpr ((mem_dropped declarator).mpr drop))
  constructor
  · intro declarator drop
    obtain ⟨comma, member, rfl⟩ := chosen declarator drop
    exact ⟨comma, takes comma member⟩
  · intro first second comma drop drop' takes' takes''
    obtain ⟨comma', member, rfl⟩ := chosen first drop
    obtain ⟨comma'', member', rfl⟩ := chosen second drop'
    rw [(takes comma' member).unique takes', (takes comma'' member').unique takes'']

/-- What stays of a declaration alternates if and only if each dropped declarator takes a comma of
its own. -/
theorem left_alternates_iff (among : ∀ declarator, drops declarator → Holds declaration declarator)
    (alternates : Alternates (parts declaration)) :
    Alternates (left drops gone (parts declaration)) ↔ TakeTheirOwn declaration drops := by
  constructor
  · exact takeTheirOwn_of_left kinds taken among alternates
  · intro own
    cases list : parts declaration with
    | nil =>
        rw [list] at alternates
        exact alternates.elim
    | cons first rest =>
        rw [list] at alternates
        refine (left_of_suffix kinds taken own _ alternates [] list first rfl).2 ?_
        rintro ⟨comma, last, -⟩
        cases last

end Law

section Commas

structure IsToken (source : List Char) (comma : Cursor) : Prop where
  leaf : comma.node.children = []
  text : Text.slice source comma.span = [',']

variable {tree : SyntaxTree} {catalog : Catalog} {requested : NameSet} {targets : List Target}
  {declaration comma place : Cursor}

theorem IsToken.split (token : IsToken tree.source comma) (fits : comma.span.Fits tree.source) :
    ∃ before after, tree.source = before ++ ',' :: after ∧
      Text.byteLength before = comma.span.start ∧ comma.span.start < comma.span.stop := by
  obtain ⟨before, after, split, starts, stops⟩ := fits.slice
  rw [token.text] at split stops
  refine ⟨before, after, by simpa using split, starts, ?_⟩
  have size : Text.byteLength [','] = 1 := by decide
  rw [Text.byteLength_append, size] at stops
  omega

variable (wellFormed : tree.WellFormed) (isPlace : IsPlace tree.root declaration)
  (held : Holds declaration comma) (token : IsToken tree.source comma)

include wellFormed isPlace held token

/-- Another place over a comma is over the start of its declaration, too. -/
theorem over_start (isPlace' : IsPlace tree.root place) (other : place ≠ comma)
    (shares : place.span.start ≤ comma.span.start ∧ comma.span.start < place.span.stop) :
    place.span.start ≤ declaration.span.start ∧ declaration.span.start < place.span.stop := by
  have isComma := isPlace.of_holds held
  obtain ⟨-, -, -, -, nonempty⟩ := token.split (wellFormed.fits isComma)
  have inside := Cursor.span_inside wellFormed.nests isPlace (.single held)
  rcases Cursor.related_of_overlap wellFormed.nests isPlace' isComma _ shares
    ⟨Nat.le_refl _, nonempty⟩ with above | below
  · rcases above.of_holds held with same | above
    · exact absurd same other
    · have outside := Cursor.span_inside wellFormed.nests isPlace' above
      omega
  · exact absurd (below.eq_of_leaf token.leaf) other

theorem taken_of_cut {span : Span} (stand : Stand tree targets) (kind : isComma comma = true)
    (stays : ¬ Covered (spans tree.source targets) declaration.span.start)
    (cuts : Cuts tree.source targets span)
    (shares : span.start ≤ comma.span.start ∧ comma.span.start < span.stop) :
    ∃ declarator, .bound declaration declarator ∈ targets ∧ Takes declaration declarator comma := by
  have isComma := isPlace.of_holds held
  have notDeclarator := isDeclarator_of_isComma kind
  -- No cut of a place is one, as it would start no later than the declaration.
  have outer : ∀ place, IsPlace tree.root place → place ≠ comma → place.span ≠ span := by
    rintro place isPlace' other rfl
    exact stays ⟨place.span, mem_spans_iff.mpr cuts,
      over_start wellFormed isPlace held token isPlace' other shares⟩
  cases cuts with
  | declared target =>
      obtain ⟨function, isFunction, form, rfl⟩ := stand _ target
      refine absurd rfl (outer _ (isPlace_withExport isFunction) ?_)
      rcases withExport_cases isFunction with ⟨statement, held', -, same⟩ | ⟨-, same⟩
      · rw [same]
        rintro rfl
        exact Cursor.not_holds_of_leaf token.leaf _ held'
      · rw [same]
        rintro rfl
        have comma : function.kind = "," := of_decide_eq_true kind
        simp [SyntaxTree.IsDeclaration, SyntaxTree.formOf?, comma, FunctionForm.ofKind?] at form
  | whole isGroup all =>
      obtain ⟨declarator, member⟩ := isGroup.opened
      obtain ⟨isOpened, held'⟩ := stand.bound member
      refine absurd rfl (outer _ (isPlace_withExport isOpened) ?_)
      rcases withExport_cases isOpened with ⟨statement, held'', -, same⟩ | ⟨-, same⟩
      · rw [same]
        rintro rfl
        exact Cursor.not_holds_of_leaf token.leaf _ held''
      · rw [same]
        rintro rfl
        exact Cursor.not_holds_of_leaf token.leaf _ held'
  | @single group declarator isGroup some dropped =>
      obtain ⟨other, member, -⟩ := isGroup.mem_dropped_iff.mp dropped
      obtain ⟨isOther, held'⟩ := stand.bound member
      obtain ⟨-, -, -, -, isDeclarator, -⟩ := stand _ member
      obtain ⟨before, after, split, starts, nonempty⟩ := token.split (wellFormed.fits isComma)
      have inside := Cursor.span_inside wellFormed.nests isPlace (.single held)
      -- Nor does the cut hold the declaration.
      have within : ∀ part, IsPlace tree.root part → LeadsTo part declaration →
          ¬ (part = declarator ∨ Takes other declarator part) := by
        intro part isPart leads cut
        have bounds := inside_declaratorSpan wellFormed isOther held' cut
        have outside := Cursor.span_inside wellFormed.nests isPart leads
        exact stays ⟨_, mem_spans_iff.mpr (.single isGroup some dropped), by omega, by omega⟩
      rcases declaratorSpan_overlap wellFormed isOther held' isComma split (by decide)
        (by rw [starts]; exact shares) (by rw [starts]; exact ⟨Nat.le_refl _, nonempty⟩) with
        above | below | ⟨part, takes, below⟩
      · obtain rfl := above.eq_of_leaf token.leaf
        exact absurd held' (Cursor.not_holds_of_leaf token.leaf _)
      · rcases below.of_holds held with rfl | above
        · rw [isDeclarator] at notDeclarator
          cases notDeclarator
        · exact absurd (.inl rfl) (within _ (isOther.of_holds held') above)
      · have held'' := takes.holds
        rcases below.of_holds held with rfl | above
        · obtain rfl := Cursor.parent_unique held held''
          exact ⟨declarator, member, takes⟩
        · exact absurd (.inr takes) (within _ (isOther.of_holds held'') above)

theorem covered_comma_iff (standing : Removal.targets tree catalog requested = .ok targets)
    (kind : isComma comma = true)
    (stays : ¬ Covered (spans tree.source targets) declaration.span.start) :
    Covered (spans tree.source targets) comma.span.start ↔
      ∃ declarator, .bound declaration declarator ∈ targets ∧
        Takes declaration declarator comma := by
  have stand := stand_of_targets standing
  have isComma := isPlace.of_holds held
  obtain ⟨-, -, -, -, nonempty⟩ := token.split (wellFormed.fits isComma)
  constructor
  · rintro ⟨span, member, shares⟩
    exact taken_of_cut wellFormed isPlace held token stand kind stays (mem_spans_iff.mp member)
      shares
  · rintro ⟨declarator, member, takes⟩
    obtain ⟨group, isGroup, starts, dropped⟩ := exists_isGroup member
    by_cases all : group.dropped.length = declaratorCount group.declaration.node
    · -- The whole declaration would go, and with it the start.
      obtain ⟨opened, member'⟩ := isGroup.opened
      obtain ⟨isOpened, held'⟩ := stand.bound member'
      have wide := wellFormed.root_nonempty isComma nonempty
      obtain ⟨function, isFunction, ⟨-, held'', -, -⟩, filled⟩ :=
        nonempty_of_targets wellFormed.nests wide standing member'
      have inner := Cursor.span_inside wellFormed.nests isOpened (.head held' (.single held''))
      have outer := inside_withExport wellFormed isOpened
      refine absurd ⟨_, mem_spans_iff.mpr (.whole isGroup all), ?_, ?_⟩ stays
      · omega
      · omega
    · have inside := inside_declaratorSpan wellFormed isPlace (stand.bound member).2 (.inr takes)
      exact ⟨_, mem_spans_iff.mpr (.single isGroup all dropped), by omega, by omega⟩

end Commas

section Separators

def Drops (tree : SyntaxTree) (catalog : Catalog) (names : List String)
    (declaration declarator : Cursor) : Prop :=
  ∃ name ∈ names, ∃ record function, catalog.get? name = some record ∧
    tree.resolve? record.region = some function ∧ Hits function (.bound declaration declarator)

variable {tree : SyntaxTree} {catalog : Catalog} {names : List String} {pruned : Pruned}
  {targets : List Target} {declaration declarator : Cursor}

theorem drops_iff (standing : Removal.targets tree catalog (NameSet.ofList names) = .ok targets) :
    Drops tree catalog names declaration declarator ↔ .bound declaration declarator ∈ targets := by
  simp only [Drops, mem_targets_iff standing, NameSet.mem_ofList, targetOf_eq_some_iff]

/-- When a declaration with commas between its declarators is left standing, what is left of it has
commas between its declarators if and only if each dropped declarator takes a comma of its own. -/
theorem separators_exact (wellFormed : tree.WellFormed)
    (done : removeFunctions tree catalog names = .ok pruned)
    (isPlace : IsPlace tree.root declaration) (separated : Alternates (parts declaration))
    (tokens : ∀ comma, Holds declaration comma → isComma comma = true →
      IsToken tree.source comma) :
    ∃ targets, Removal.targets tree catalog (NameSet.ofList names) = .ok targets ∧
      Text.visible pruned.source =
        Text.visible (Text.remainder (spans tree.source targets) tree.source) ∧
      (¬ Covered (spans tree.source targets) declaration.span.start →
        (Alternates (left (Drops tree catalog names declaration)
            (fun comma => Covered (spans tree.source targets) comma.span.start)
            (parts declaration)) ↔
          TakeTheirOwn declaration (Drops tree catalog names declaration))) := by
  obtain ⟨targets, standing, -⟩ := removeFunctions_eq_ok_iff.mp done
  refine ⟨targets, standing, visible_source wellFormed standing done, fun stays => ?_⟩
  have dropped : ∀ declarator, Drops tree catalog names declaration declarator →
      Holds declaration declarator ∧ isDeclarator declarator.node = true := by
    rintro declarator ⟨-, -, -, function, -, -, -, -, kind, held⟩
    exact ⟨held, kind⟩
  refine left_alternates_iff (fun declarator drops => (dropped declarator drops).2) ?_
    (fun declarator drops => (dropped declarator drops).1) separated
  intro comma among kind
  have held := (mem_parts_iff.mp among).1
  simp only [drops_iff standing]
  exact covered_comma_iff wellFormed isPlace held (tokens comma held kind) standing kind stays

/-- `let a = 1, f = () => 0, g = () => 1;` -/
def triple : SyntaxTree :=
  Sketch.program "let a = 1, f = () => 0, g = () => 1;"
    [Sketch.bindings 0 36
      [Sketch.binding 4 9 (Sketch.number 8), Sketch.token "," 9,
        Sketch.binding 11 22 (Sketch.arrow 15), Sketch.token "," 22,
        Sketch.binding 24 35 (Sketch.arrow 28)]]

def tripleCatalog : Catalog :=
  (Catalog.build .lastWriterWins triple).toOption.getD ∅

/-- Both dropped declarators take the second comma, and the first one stays behind `a = 1`. -/
theorem triple_not_separated : triple.WellFormed ∧
    Catalog.build .lastWriterWins triple = .ok tripleCatalog ∧
    Alternates (parts (Sketch.place triple [0])) ∧ ∃ pruned targets,
      removeFunctions triple tripleCatalog ["f", "g"] = .ok pruned ∧
      Removal.targets triple tripleCatalog (NameSet.ofList ["f", "g"]) = .ok targets ∧
      Text.visible pruned.source = "leta=1,;".toList ∧
      ¬ Alternates (left (Drops triple tripleCatalog ["f", "g"] (Sketch.place triple [0]))
          (fun comma => Covered (spans triple.source targets) comma.span.start)
          (parts (Sketch.place triple [0]))) := by
  have wellFormed : triple.WellFormed := by decide +kernel
  obtain ⟨pruned, done⟩ : ∃ pruned,
      removeFunctions triple tripleCatalog ["f", "g"] = .ok pruned := ⟨_, rfl⟩
  have isPlace : IsPlace triple.root (Sketch.place triple [0]) := .single ⟨0, rfl⟩
  have separated : Alternates (parts (Sketch.place triple [0])) := ⟨rfl, rfl, rfl, rfl, rfl⟩
  have tokens : ∀ comma, Holds (Sketch.place triple [0]) comma → isComma comma = true →
      IsToken triple.source comma := by
    have all : ∀ comma ∈ (Sketch.place triple [0]).children, isComma comma = true →
        comma.node.children = [] ∧ Text.slice triple.source comma.span = [','] := by
      decide +kernel
    intro comma held kind
    obtain ⟨leaf, text⟩ := all comma (Cursor.mem_children_iff.mpr held) kind
    exact ⟨leaf, text⟩
  obtain ⟨targets, standing, seen, law⟩ :=
    separators_exact wellFormed done isPlace separated tokens
  have first : Drops triple tripleCatalog ["f", "g"] (Sketch.place triple [0])
      (Sketch.place triple [0, 3]) :=
    ⟨"f", by decide, _, _, rfl, rfl, by decide +kernel, ⟨2, rfl⟩, rfl, ⟨3, rfl⟩⟩
  have second : Drops triple tripleCatalog ["f", "g"] (Sketch.place triple [0])
      (Sketch.place triple [0, 5]) :=
    ⟨"g", by decide, _, _, rfl, rfl, by decide +kernel, ⟨2, rfl⟩, rfl, ⟨5, rfl⟩⟩
  refine ⟨wellFormed, rfl, separated, pruned, targets, done, standing, ?_, ?_⟩
  · rw [seen, ← Except.ok.inj standing]
    decide +kernel
  · rw [law (by rw [← Except.ok.inj standing]; decide +kernel)]
    rintro ⟨-, own⟩
    have takes : Takes (Sketch.place triple [0]) (Sketch.place triple [0, 3])
        (Sketch.place triple [0, 4]) := ⟨rfl, .inl ⟨3, rfl, rfl⟩⟩
    have takes' : Takes (Sketch.place triple [0]) (Sketch.place triple [0, 5])
        (Sketch.place triple [0, 4]) := by
      refine ⟨rfl, .inr ⟨⟨4, rfl, rfl⟩, fun next follows => ?_⟩⟩
      rw [← Follows.second_unique ⟨5, rfl, rfl⟩ follows]
      rfl
    have same := congrArg Cursor.span (own _ _ _ first second takes takes')
    revert same
    decide +kernel

end Separators

end CallAtlas.Removal
