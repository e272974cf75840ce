import CallAtlas.Call.Site
import CallAtlas.Proofs.Tree.Places

/-!
Call sites as places of the tree. The climb from a call to the function around it
finds the nearest function-like ancestor, and a site resolves to an edge exactly
when it has a caller and a callee that the catalog knows and no list denies.
-/

namespace CallAtlas

open Cursor (Holds IsPlace)

/-- A function around a place with no other function between the two. -/
structure NearestFunction (function place : Cursor) : Prop where
  encloses : function.Encloses place
  functionLike : isFunctionLike function.kind = true
  /-- Any other function around the place is around this one too. -/
  nearest : ∀ other : Cursor, other.Encloses place → isFunctionLike other.kind = true →
    other = function ∨ other.Encloses function

namespace NearestFunction

theorem of_parent {parent child : Cursor} (held : Holds parent child)
    (functionLike : isFunctionLike parent.kind = true) : NearestFunction parent child where
  encloses := .single held
  functionLike := functionLike
  nearest := fun other encloses _ => (Cursor.encloses_iff_of_holds held other).mp encloses

theorem unique {function other place : Cursor}
    (nearest : NearestFunction function place) (nearest' : NearestFunction other place) :
    other = function := by
  rcases nearest.nearest other nearest'.encloses nearest'.functionLike with same | outside
  · exact same
  · rcases nearest'.nearest function nearest.encloses nearest.functionLike with same | inside
    · exact same.symm
    · exact absurd (outside.trans inside) (Cursor.not_encloses_self other)

theorem iff_of_holds {parent child function : Cursor} (held : Holds parent child)
    (plain : ¬ isFunctionLike parent.kind = true) :
    NearestFunction function child ↔ NearestFunction function parent := by
  have ancestors := Cursor.encloses_iff_of_holds held
  constructor
  · rintro ⟨encloses, functionLike, nearest⟩
    refine ⟨?_, functionLike,
      fun other outside => nearest other ((ancestors other).mpr (.inr outside))⟩
    rcases (ancestors function).mp encloses with rfl | outside
    · exact absurd functionLike plain
    · exact outside
  · rintro ⟨encloses, functionLike, nearest⟩
    refine ⟨(ancestors function).mpr (.inr encloses), functionLike, ?_⟩
    intro other outside otherLike
    rcases (ancestors other).mp outside with rfl | outside
    · exact absurd otherLike plain
    · exact nearest other outside otherLike

theorem not_at_root (root : Node) (function : Cursor) :
    ¬ NearestFunction function (Cursor.ofRoot root) :=
  fun nearest => Cursor.not_encloses_ofRoot root function nearest.encloses

end NearestFunction

namespace SyntaxTree

/-- A call expression of the tree whose arguments are not a template. -/
structure IsCallSite (tree : SyntaxTree) (site : Cursor) : Prop where
  isPlace : IsPlace tree.root site
  isCall : site.kind = "call_expression"
  untagged : ∀ arguments, site.node.childUnder? "arguments" = some arguments →
    arguments.kind ≠ "template_string"

def Attributed (tree : SyntaxTree) (site : Cursor) (caller : String) : Prop :=
  ∃ function, NearestFunction function site ∧ tree.callerName? function = some caller

/-- A site of the tree from which one catalogued name calls another that is not denied. -/
structure SiteCalls (tree : SyntaxTree) (catalog : Catalog) (denylist : Denylist) (site : Cursor)
    (caller callee : String) : Prop where
  isCallSite : tree.IsCallSite site
  attributed : tree.Attributed site caller
  calls : tree.calleeName? site.node = some callee
  allowed : callee ∉ denylist
  callerKnown : catalog.contains caller = true
  calleeKnown : catalog.contains callee = true

/-- What is wrong with a site that is dropped for a reason; the reasons before it do not hold. -/
def SiteDropped (tree : SyntaxTree) (catalog : Catalog) (denylist : Denylist) (site : Cursor) :
    DropReason → Prop
  | .unattributed => ∀ caller, ¬ tree.Attributed site caller
  | .unsupportedCallee => ∃ caller, tree.Attributed site caller ∧ tree.calleeName? site.node = none
  | .denylisted => ∃ caller callee, tree.Attributed site caller ∧
      tree.calleeName? site.node = some callee ∧ callee ∈ denylist
  | .notCatalogued => ∃ caller callee, tree.Attributed site caller ∧
      tree.calleeName? site.node = some callee ∧ callee ∉ denylist ∧
      ¬ (catalog.contains caller = true ∧ catalog.contains callee = true)

theorem enclosing?_of_holds {parent child : Cursor} (held : Holds parent child) :
    enclosing? child.above =
      if isFunctionLike parent.kind then some parent else enclosing? parent.above := by
  obtain ⟨index, -, way⟩ := Cursor.holds_iff.mp held
  rw [way, enclosing?]
  rfl

theorem enclosing?_eq_some_iff {root : Node} {place function : Cursor}
    (isPlace : IsPlace root place) :
    enclosing? place.above = some function ↔ NearestFunction function place := by
  -- Along the way down to the place: each step adds the parent to the ancestors, nearest first.
  induction isPlace with
  | refl =>
      constructor
      · intro found
        cases found
      · intro nearest
        exact absurd nearest (NearestFunction.not_at_root root function)
  | tail _ held ih =>
      rw [enclosing?_of_holds held]
      split
      · next functionLike =>
          have parent := NearestFunction.of_parent held functionLike
          constructor
          · intro found
            obtain rfl := Option.some.inj found
            exact parent
          · intro nearest
            rw [parent.unique nearest]
      · next plain => rw [ih, NearestFunction.iff_of_holds held plain]

theorem attribution?_eq_some_iff {tree : SyntaxTree} {site : Cursor} {caller : String}
    (isPlace : IsPlace tree.root site) :
    tree.attribution? site = some caller ↔ tree.Attributed site caller := by
  simp only [attribution?, Attributed, Option.bind_eq_some_iff, enclosing?_eq_some_iff isPlace]

theorem mem_callSites_iff {tree : SyntaxTree} {site : Cursor} :
    site ∈ tree.callSites ↔ tree.IsCallSite site := by
  have untagged : (!site.node.isTaggedTemplate) = true ↔ ∀ arguments,
      site.node.childUnder? "arguments" = some arguments → arguments.kind ≠ "template_string" := by
    rw [Node.isTaggedTemplate]
    cases site.node.childUnder? "arguments" <;> simp
  rw [callSites, List.mem_filter, nodes, Cursor.mem_walk_iff, Node.isCallSite, Bool.and_eq_true,
    untagged, Node.isCallExpression, decide_eq_true_eq]
  exact ⟨fun ⟨isPlace, isCall, plain⟩ => ⟨isPlace, isCall, plain⟩,
    fun ⟨isPlace, isCall, plain⟩ => ⟨isPlace, isCall, plain⟩⟩

section Resolution

variable {tree : SyntaxTree} {catalog : Catalog} {denylist : Denylist} {site : Cursor}

theorem resolveCall_eq_ok_iff {caller callee : String} (isCallSite : tree.IsCallSite site) :
    tree.resolveCall catalog denylist site = .ok ⟨caller, callee⟩ ↔
      tree.SiteCalls catalog denylist site caller callee := by
  constructor
  · intro resolved
    rw [resolveCall] at resolved
    split at resolved
    · cases resolved
    · next name named =>
        split at resolved
        · cases resolved
        · next target targeted =>
            split at resolved
            · cases resolved
            · next allowed =>
                split at resolved
                · next known =>
                    obtain ⟨rfl, rfl⟩ : name = caller ∧ target = callee := by
                      simpa using resolved
                    rw [Bool.and_eq_true] at known
                    exact ⟨isCallSite, (attribution?_eq_some_iff isCallSite.isPlace).mp named,
                      targeted, by simpa using allowed, known.1, known.2⟩
                · cases resolved
  · rintro ⟨-, attributed, targeted, allowed, callerKnown, calleeKnown⟩
    have named := (attribution?_eq_some_iff isCallSite.isPlace).mpr attributed
    simp [resolveCall, named, targeted, allowed, callerKnown, calleeKnown]

/-- A call site is dropped for the first reason that holds. -/
theorem resolveCall_eq_error_iff {reason : DropReason} (isCallSite : tree.IsCallSite site) :
    tree.resolveCall catalog denylist site = .error reason ↔
      tree.SiteDropped catalog denylist site reason := by
  simp only [SiteDropped, ← attribution?_eq_some_iff isCallSite.isPlace]
  -- The cases come in the order of the checks, each with the earlier ones passed.
  cases named : tree.attribution? site with
  | none => cases reason <;> simp [resolveCall, named]
  | some caller =>
      cases targeted : tree.calleeName? site.node with
      | none => cases reason <;> simp [resolveCall, named, targeted]
      | some callee =>
          by_cases denied : callee ∈ denylist
          · cases reason <;> simp [resolveCall, named, targeted, denied]
          · by_cases known : catalog.contains caller = true ∧ catalog.contains callee = true
            · cases reason <;> simp [resolveCall, named, targeted, denied, known]
            · have outcome : tree.resolveCall catalog denylist site = .error .notCatalogued := by
                simp [resolveCall, named, targeted, denied, known]
              rw [outcome]
              cases reason <;> simp_all

end Resolution

end SyntaxTree

end CallAtlas
