import CallAtlas.Proofs.Function.Registration
import CallAtlas.Proofs.Graph.Analysis

/-!
Which function an edge of the call relation comes from. Calls are attributed by
name, so a call inside a function that the catalog leaves out counts for another
function if that one is registered under the name the first is bound to. This is
the only way in which an edge can have no registered function behind it.
-/

namespace CallAtlas.SyntaxTree

/-- Every edge comes from a call in a function registered under the caller's name, and calls in
functions that are not registered lead to no edge. -/
structure SoundlyAttributed (tree : SyntaxTree) (denylist : Denylist) (analysis : Analysis) :
    Prop where
  witnessed : ∀ caller callee, analysis.relation.Calls caller callee →
    ∃ site function kind, tree.IsCallSite site ∧ tree.calleeName? site.node = some callee ∧
      NearestFunction function site ∧ tree.catalogName? function = some (caller, kind)
  silent : ∀ site function, NearestFunction function site → tree.catalogName? function = none →
    ∀ caller callee, ¬ tree.SiteCalls analysis.catalog denylist site caller callee

/-- A call of a registered name in a function that catalogs leave out, while another function is
registered under the name that the first is bound to. -/
structure StrayCall (tree : SyntaxTree) (denylist : Denylist) (site function : Cursor)
    (caller callee : String) : Prop where
  isCallSite : tree.IsCallSite site
  nearest : NearestFunction function site
  leftOut : LeftOut function
  bound : tree.boundName? function = some caller
  namesake : ∃ other, other ≠ function ∧ tree.Registers other caller
  calls : tree.calleeName? site.node = some callee
  allowed : callee ∉ denylist
  target : ∃ other, tree.Registers other callee

section Attribution

variable {tree : SyntaxTree} {catalog : Catalog} {denylist : Denylist} {policy : DuplicatePolicy}
  {site function : Cursor} {caller callee : String}

theorem SiteCalls.registered_or_leftOut (calls : tree.SiteCalls catalog denylist site caller callee)
    (nearest : NearestFunction function site) :
    (∃ kind, tree.catalogName? function = some (caller, kind)) ∨
      LeftOut function ∧ tree.boundName? function = some caller := by
  obtain ⟨other, nearest', attributed⟩ := calls.attributed
  obtain rfl := nearest.unique nearest'
  by_cases leftOut : LeftOut other
  · rw [callerName?_of_leftOut leftOut] at attributed
    exact .inr ⟨leftOut, attributed⟩
  · exact .inl (exists_catalogName?_iff.mpr ⟨nearest.functionLike, leftOut, attributed⟩)

/-- Stray calls are the sites that lead to an edge from a function that is not registered. -/
theorem strayCall_iff (built : Catalog.build policy tree = .ok catalog) :
    tree.StrayCall denylist site function caller callee ↔
      tree.SiteCalls catalog denylist site caller callee ∧ NearestFunction function site ∧
        tree.catalogName? function = none := by
  have known := Catalog.contains_build_iff built
  constructor
  · rintro ⟨isCallSite, nearest, leftOut, bound, ⟨other, -, namesake⟩, calls, allowed, target⟩
    have attributed := (callerName?_of_leftOut leftOut).trans bound
    exact ⟨⟨isCallSite, ⟨function, nearest, attributed⟩, calls, allowed,
      (known caller).mpr ⟨other, namesake⟩, (known callee).mpr target⟩, nearest,
      catalogName?_of_leftOut leftOut⟩
  · rintro ⟨calls, nearest, unregistered⟩
    obtain ⟨other, namesake⟩ := (known caller).mp calls.callerKnown
    -- The catalog knows the caller's name from a function that is registered, unlike this one.
    have different : other ≠ function := by
      rintro rfl
      obtain ⟨kind, registered⟩ := namesake.registered
      rw [unregistered] at registered
      cases registered
    rcases calls.registered_or_leftOut nearest with ⟨kind, registered⟩ | ⟨leftOut, bound⟩
    · rw [unregistered] at registered
      cases registered
    · exact ⟨calls.isCallSite, nearest, leftOut, bound, ⟨other, different, namesake⟩, calls.calls,
        calls.allowed, (known callee).mp calls.calleeKnown⟩

end Attribution

section Analysis

variable {settings : AnalysisSettings} {tree : SyntaxTree} {analysis : Analysis}

theorem registered_or_stray (derived : Analysis.Derived settings tree analysis)
    {caller callee : String} (calls : analysis.relation.Calls caller callee) :
    (∃ site function kind, tree.IsCallSite site ∧ tree.calleeName? site.node = some callee ∧
      NearestFunction function site ∧ tree.catalogName? function = some (caller, kind)) ∨
    ∃ site function, tree.StrayCall settings.denylist site function caller callee := by
  obtain ⟨site, calls⟩ := derived.calls_iff.mp calls
  obtain ⟨function, nearest, -⟩ := calls.attributed
  rcases calls.registered_or_leftOut nearest with ⟨kind, registered⟩ | ⟨leftOut, -⟩
  · exact .inl ⟨site, function, kind, calls.isCallSite, calls.calls, nearest, registered⟩
  · exact .inr ⟨site, function, (strayCall_iff derived.catalog).mpr
      ⟨calls, nearest, catalogName?_of_leftOut leftOut⟩⟩

/-- Edges are soundly attributed exactly when the tree has no stray call. Every edge that no
registered function accounts for is that of a stray call, and every stray call leads to its edge. -/
theorem soundlyAttributed_exact (done : Analysis.ofTree settings tree = .ok analysis) :
    (tree.SoundlyAttributed settings.denylist analysis ↔
      ∀ site function caller callee,
        ¬ tree.StrayCall settings.denylist site function caller callee) ∧
    (∀ caller callee, analysis.relation.Calls caller callee →
      (∃ site function kind, tree.IsCallSite site ∧ tree.calleeName? site.node = some callee ∧
        NearestFunction function site ∧ tree.catalogName? function = some (caller, kind)) ∨
      ∃ site function, tree.StrayCall settings.denylist site function caller callee) ∧
    (∀ site function caller callee, tree.StrayCall settings.denylist site function caller callee →
      analysis.relation.Calls caller callee ∧ tree.catalogName? function = none) := by
  have derived := Analysis.derived_of_ok done
  refine ⟨⟨?_, ?_⟩, fun caller callee => registered_or_stray derived, ?_⟩
  · intro sound site function caller callee stray
    obtain ⟨calls, nearest, unregistered⟩ := (strayCall_iff derived.catalog).mp stray
    exact sound.silent site function nearest unregistered caller callee calls
  · intro noStray
    constructor
    · intro caller callee calls
      refine (registered_or_stray derived calls).resolve_right ?_
      rintro ⟨site, function, stray⟩
      exact noStray site function caller callee stray
    · intro site function nearest unregistered caller callee calls
      exact noStray site function caller callee
        ((strayCall_iff derived.catalog).mpr ⟨calls, nearest, unregistered⟩)
  · intro site function caller callee stray
    obtain ⟨calls, -, unregistered⟩ := (strayCall_iff derived.catalog).mp stray
    exact ⟨derived.calls_iff.mpr ⟨site, calls⟩, unregistered⟩

end Analysis

/-- A function `f` that calls nothing, and a block in which a constant `f` is bound to a function
expression named `g`, which calls `h`. -/
def shadowed : SyntaxTree :=
  Sketch.program
    "function f() \x7b\x7d\nfunction h() \x7b\x7d\n\x7b const f = function g() \x7b h(); \x7d; \x7d"
    [Sketch.function "function_declaration" 0 15 [],
      Sketch.function "function_declaration" 16 31 [],
      Sketch.block 32 68
        [Sketch.constant 34 66 (Sketch.function "function_expression" 44 65 [Sketch.call 59])]]

/-- The call in `g` is taken for a call of the first function. -/
theorem shadowed_not_soundlyAttributed : ∃ analysis,
    Analysis.ofTree {} shadowed = .ok analysis ∧ analysis.relation.Calls "f" "h" ∧
      ¬ shadowed.SoundlyAttributed Denylist.builtin analysis := by
  have done : Analysis.ofTree {} shadowed = .ok _ := rfl
  have sites : shadowed.callSites = [_] := rfl
  have isCallSite := mem_callSites_iff.mp (sites ▸ List.mem_singleton_self _)
  have nearest := (enclosing?_eq_some_iff isCallSite.isPlace).mp rfl
  have denied : "h" ∉ Denylist.builtin := by
    rw [Denylist.builtin, NameSet.mem_ofList]
    decide
  have stray : shadowed.StrayCall Denylist.builtin _ _ "f" "h" :=
    (strayCall_iff (Analysis.derived_of_ok done).catalog).mpr
      ⟨⟨isCallSite, ⟨_, nearest, by decide +kernel⟩, by decide +kernel, denied, by decide +kernel,
        by decide +kernel⟩, nearest, by decide +kernel⟩
  obtain ⟨exactly, -, edges⟩ := soundlyAttributed_exact done
  exact ⟨_, done, (edges _ _ _ _ stray).1, fun sound => exactly.mp sound _ _ _ _ stray⟩

end CallAtlas.SyntaxTree
