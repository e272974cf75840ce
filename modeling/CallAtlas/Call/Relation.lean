import CallAtlas.Call.Site

/-!
The call relation of a file: for each caller the set of the names it calls, with
an account of how every call site was used. Callers without callees do not occur.
-/

namespace CallAtlas

abbrev CallRelation := NameMap NameSet

namespace CallRelation

/-- The callees of a name; none if it is no caller. -/
def callees (relation : CallRelation) (caller : String) : NameSet :=
  (relation.get? caller).getD ∅

def Calls (relation : CallRelation) (caller callee : String) : Prop :=
  callee ∈ relation.callees caller

instance (relation : CallRelation) (caller callee : String) :
    Decidable (relation.Calls caller callee) :=
  inferInstanceAs (Decidable (callee ∈ relation.callees caller))

def pairs (relation : CallRelation) : List (String × String) :=
  relation.toList.flatMap fun (caller, callees) => callees.toList.map (caller, ·)

def edgeCount (relation : CallRelation) : Nat :=
  (relation.values.map NameSet.size).foldr (· + ·) 0

def called (relation : CallRelation) : List String :=
  relation.values.flatMap NameSet.toList

def addCall (relation : CallRelation) (call : Call) : CallRelation :=
  relation.insert call.caller ((relation.callees call.caller).insert call.callee)

@[simp] theorem get?_addCall (relation : CallRelation) (call : Call) (caller : String) :
    (relation.addCall call).get? caller =
      if caller = call.caller then some ((relation.callees call.caller).insert call.callee)
      else relation.get? caller := by
  simp [addCall]

@[simp] theorem calls_addCall {relation : CallRelation} {call : Call} {caller callee : String} :
    (relation.addCall call).Calls caller callee ↔
      (caller = call.caller ∧ callee = call.callee) ∨ relation.Calls caller callee := by
  by_cases same : caller = call.caller
  · subst same
    simp [Calls, callees]
  · simp [Calls, callees, same]

end CallRelation

structure CallStats where
  callSites : Nat := 0
  edgesRecorded : Nat := 0
  unattributed : Nat := 0
  unsupportedCallee : Nat := 0
  denylisted : Nat := 0
  notCatalogued : Nat := 0
  deriving DecidableEq, Repr

def CallStats.drop (stats : CallStats) : DropReason → CallStats
  | .unattributed => { stats with unattributed := stats.unattributed + 1 }
  | .unsupportedCallee => { stats with unsupportedCallee := stats.unsupportedCallee + 1 }
  | .denylisted => { stats with denylisted := stats.denylisted + 1 }
  | .notCatalogued => { stats with notCatalogued := stats.notCatalogued + 1 }

structure CallUsage where
  relation : CallRelation := ∅
  stats : CallStats := {}

namespace CallUsage

/-- Counts one more site and what became of it; only a new pair is an edge recorded. -/
def add (usage : CallUsage) (outcome : Except DropReason Call) : CallUsage :=
  let stats := { usage.stats with callSites := usage.stats.callSites + 1 }
  match outcome with
  | .error reason => { usage with stats := stats.drop reason }
  | .ok call =>
      { relation := usage.relation.addCall call
        stats :=
          if usage.relation.Calls call.caller call.callee then stats
          else { stats with edgesRecorded := stats.edgesRecorded + 1 } }

def ofTree (tree : SyntaxTree) (catalog : Catalog) (denylist : Denylist) : CallUsage :=
  (tree.callSites.map (tree.resolveCall catalog denylist)).foldl add {}

end CallUsage

end CallAtlas
