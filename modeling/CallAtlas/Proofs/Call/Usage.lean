import CallAtlas.Proofs.Call.Pairs
import CallAtlas.Proofs.Call.Sites

/-!
The account of all call sites of a file. Adding an outcome keeps a usage in step
with the outcomes seen so far, hence the usage of a tree says exactly which names
call which, how often a site was dropped and for what reason.
-/

namespace CallAtlas

def CallStats.dropped (stats : CallStats) : DropReason → Nat
  | .unattributed => stats.unattributed
  | .unsupportedCallee => stats.unsupportedCallee
  | .denylisted => stats.denylisted
  | .notCatalogued => stats.notCatalogued

def isDrop (reason : DropReason) : Except DropReason Call → Bool
  | .error cause => cause = reason
  | .ok _ => false

def isEdge : Except DropReason Call → Bool
  | .error _ => false
  | .ok _ => true

theorem isDrop_iff {reason : DropReason} {outcome : Except DropReason Call} :
    isDrop reason outcome = true ↔ outcome = .error reason := by
  cases outcome <;> simp [isDrop]

theorem isEdge_iff {outcome : Except DropReason Call} :
    isEdge outcome = true ↔ ∃ caller callee, outcome = .ok ⟨caller, callee⟩ := by
  cases outcome with
  | error reason => simp [isEdge]
  | ok call => simpa [isEdge] using ⟨call.caller, call.callee, rfl⟩

theorem length_outcomes (outcomes : List (Except DropReason Call)) :
    outcomes.length = outcomes.countP (isDrop .unattributed) +
      outcomes.countP (isDrop .unsupportedCallee) + outcomes.countP (isDrop .denylisted) +
      outcomes.countP (isDrop .notCatalogued) + outcomes.countP isEdge := by
  induction outcomes with
  | nil => rfl
  | cons outcome rest ih =>
      simp only [List.countP_cons, List.length_cons, ih]
      cases outcome with
      | error reason => cases reason <;> simp [isDrop, isEdge] <;> omega
      | ok call => simp [isDrop, isEdge]; omega

namespace CallUsage

/-- A usage that says about a list of outcomes what there is to say. -/
structure Accounts (usage : CallUsage) (outcomes : List (Except DropReason Call)) : Prop where
  calls : ∀ caller callee, usage.relation.Calls caller callee ↔ .ok ⟨caller, callee⟩ ∈ outcomes
  inhabited : ∀ caller callees, usage.relation.get? caller = some callees → callees ≠ ∅
  sites : usage.stats.callSites = outcomes.length
  drops : ∀ reason, usage.stats.dropped reason = outcomes.countP (isDrop reason)
  edges : usage.stats.edgesRecorded = usage.relation.edgeCount

theorem accounts_nil : Accounts {} [] where
  calls := fun _ _ =>
    ⟨fun calls => absurd calls CallRelation.not_calls_empty, fun absent => by cases absent⟩
  inhabited := fun _ _ found => by cases found
  sites := rfl
  drops := fun reason => by cases reason <;> rfl
  edges := rfl

theorem Accounts.add_error {usage : CallUsage} {outcomes : List (Except DropReason Call)}
    (accounts : Accounts usage outcomes) (reason : DropReason) :
    Accounts (usage.add (.error reason)) (outcomes ++ [.error reason]) where
  calls := fun caller callee => by simp [add, accounts.calls caller callee]
  inhabited := accounts.inhabited
  sites := by cases reason <;> simp [add, CallStats.drop, accounts.sites]
  drops := fun other => by
    have before := accounts.drops other
    cases reason <;> cases other <;> simp_all [add, CallStats.drop, CallStats.dropped, isDrop]
  edges := by cases reason <;> simpa [add, CallStats.drop] using accounts.edges

theorem Accounts.add_ok {usage : CallUsage} {outcomes : List (Except DropReason Call)}
    (accounts : Accounts usage outcomes) (call : Call) :
    Accounts (usage.add (.ok call)) (outcomes ++ [.ok call]) where
  calls := fun caller callee => by
    obtain ⟨name, target⟩ := call
    simp [add, accounts.calls caller callee, or_comm]
  inhabited := fun caller callees found => by
    simp only [add, CallRelation.get?_addCall] at found
    split at found
    · -- The callees of the caller now hold at least the new one.
      obtain rfl := Option.some.inj found
      intro empty
      have member : call.callee ∈ (∅ : NameSet) := by
        rw [← empty]
        simp
      exact absurd member (NameSet.not_mem_empty _)
    · exact accounts.inhabited caller callees found
  sites := by
    simp only [add]
    split <;> simp [accounts.sites]
  drops := fun reason => by
    have before := accounts.drops reason
    simp only [add]
    cases reason <;> split <;> simpa [CallStats.dropped, isDrop] using before
  edges := by
    simp only [add, CallRelation.edgeCount_addCall]
    split <;> simp [accounts.edges]

theorem Accounts.foldl_add {usage : CallUsage} {seen : List (Except DropReason Call)}
    (accounts : Accounts usage seen) (outcomes : List (Except DropReason Call)) :
    Accounts (outcomes.foldl add usage) (seen ++ outcomes) := by
  -- On the outcomes still to come; those added before are in `seen`.
  induction outcomes generalizing usage seen with
  | nil => simpa using accounts
  | cons outcome rest ih =>
      rw [List.foldl_cons, List.append_cons]
      cases outcome with
      | error reason => exact ih (accounts.add_error reason)
      | ok call => exact ih (accounts.add_ok call)

section Tree

variable (tree : SyntaxTree) (catalog : Catalog) (denylist : Denylist)

theorem accounts_ofTree :
    Accounts (ofTree tree catalog denylist)
      (tree.callSites.map (tree.resolveCall catalog denylist)) :=
  accounts_nil.foldl_add (tree.callSites.map (tree.resolveCall catalog denylist))

theorem mem_outcomes_iff (caller callee : String) :
    .ok ⟨caller, callee⟩ ∈ tree.callSites.map (tree.resolveCall catalog denylist) ↔
      ∃ site, tree.SiteCalls catalog denylist site caller callee := by
  rw [List.mem_map]
  constructor
  · rintro ⟨site, member, resolved⟩
    have isCallSite := SyntaxTree.mem_callSites_iff.mp member
    exact ⟨site, (SyntaxTree.resolveCall_eq_ok_iff isCallSite).mp resolved⟩
  · rintro ⟨site, calls⟩
    exact ⟨site, SyntaxTree.mem_callSites_iff.mpr calls.isCallSite,
      (SyntaxTree.resolveCall_eq_ok_iff calls.isCallSite).mpr calls⟩

theorem countP_outcomes (test : Except DropReason Call → Bool) :
    (tree.callSites.map (tree.resolveCall catalog denylist)).countP test =
      {site | tree.IsCallSite site ∧
        test (tree.resolveCall catalog denylist site) = true}.ncard := by
  rw [List.countP_map, SyntaxTree.callSites, List.countP_filter, SyntaxTree.nodes,
    Cursor.countP_walk]
  congr 1
  ext site
  rw [Set.mem_ofPred_eq, Set.mem_ofPred_eq, ← SyntaxTree.mem_callSites_iff, SyntaxTree.callSites,
    List.mem_filter, SyntaxTree.nodes, Cursor.mem_walk_iff, Function.comp_apply, Bool.and_eq_true,
    and_assoc, and_comm (a := site.node.isCallSite = true)]

theorem callSites_eq_ncard :
    (ofTree tree catalog denylist).stats.callSites = {site | tree.IsCallSite site}.ncard := by
  have all := countP_outcomes tree catalog denylist fun _ => true
  rw [List.countP_true, ← (accounts_ofTree tree catalog denylist).sites] at all
  simpa using all

theorem dropped_eq_ncard (reason : DropReason) :
    (ofTree tree catalog denylist).stats.dropped reason =
      {site | tree.IsCallSite site ∧ tree.SiteDropped catalog denylist site reason}.ncard := by
  rw [(accounts_ofTree tree catalog denylist).drops reason, countP_outcomes]
  congr 1
  ext site
  simp only [isDrop_iff, Set.mem_ofPred_eq]
  exact and_congr_right SyntaxTree.resolveCall_eq_error_iff

theorem countP_isEdge :
    (tree.callSites.map (tree.resolveCall catalog denylist)).countP isEdge =
      {site | ∃ caller callee, tree.SiteCalls catalog denylist site caller callee}.ncard := by
  rw [countP_outcomes]
  congr 1
  ext site
  simp only [isEdge_iff, Set.mem_ofPred_eq]
  constructor
  · rintro ⟨isCallSite, caller, callee, resolved⟩
    exact ⟨caller, callee, (SyntaxTree.resolveCall_eq_ok_iff isCallSite).mp resolved⟩
  · rintro ⟨caller, callee, calls⟩
    exact ⟨calls.isCallSite, caller, callee,
      (SyntaxTree.resolveCall_eq_ok_iff calls.isCallSite).mpr calls⟩

theorem calls_ofTree_iff (caller callee : String) :
    (ofTree tree catalog denylist).relation.Calls caller callee ↔
      ∃ site, tree.SiteCalls catalog denylist site caller callee := by
  rw [(accounts_ofTree tree catalog denylist).calls, mem_outcomes_iff]

/-- The usage of a tree is exact: it holds the calls made from the call sites of the tree and
no others, no caller is listed without a callee, every call site is counted once, as dropped for
its reason or as resolved, and the edges recorded are the members of the callee sets. -/
theorem callUsage_exact :
    let usage := ofTree tree catalog denylist
    (∀ caller callee, usage.relation.Calls caller callee ↔
      ∃ site, tree.SiteCalls catalog denylist site caller callee) ∧
    (∀ caller callees, usage.relation.get? caller = some callees → callees ≠ ∅) ∧
    usage.stats.callSites = {site | tree.IsCallSite site}.ncard ∧
    (∀ reason, usage.stats.dropped reason = {site | tree.IsCallSite site ∧
      tree.SiteDropped catalog denylist site reason}.ncard) ∧
    usage.stats.callSites = usage.stats.unattributed + usage.stats.unsupportedCallee +
      usage.stats.denylisted + usage.stats.notCatalogued +
      {site | ∃ caller callee, tree.SiteCalls catalog denylist site caller callee}.ncard ∧
    usage.stats.edgesRecorded = (usage.relation.values.map NameSet.size).sum := by
  intro usage
  have accounts : Accounts usage _ := accounts_ofTree tree catalog denylist
  refine ⟨calls_ofTree_iff tree catalog denylist, accounts.inhabited,
    callSites_eq_ncard tree catalog denylist, dropped_eq_ncard tree catalog denylist, ?_,
    accounts.edges⟩
  rw [accounts.sites, length_outcomes, countP_isEdge, ← accounts.drops, ← accounts.drops,
    ← accounts.drops, ← accounts.drops]
  rfl

end Tree

end CallUsage

end CallAtlas
