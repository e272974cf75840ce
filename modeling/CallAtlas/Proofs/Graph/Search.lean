import CallAtlas.Graph.Reachability
import CallAtlas.Proofs.Call.Pairs
import Mathlib.Logic.Relation

/-!
The worklist search against paths of edges. A round takes a name off the list and
puts its unseen successors on, so names that left the list have all their
successors among the seen ones. As the seen names are distinct nodes, the loop ends
within as many rounds as there are nodes, and what is seen then is exactly what the
starting names reach (`reachable_exact`).
-/

namespace CallAtlas.CallGraph

def Edge (graph : CallGraph) (source target : String) : Prop :=
  (source, target) ∈ graph.edges

def WellFormed (graph : CallGraph) : Prop :=
  ∀ source target, graph.Edge source target → target ∈ graph.nodes

/-- A path of edges leads to a name from one of the starting names. -/
def Reaches (graph : CallGraph) (starts : List String) (name : String) : Prop :=
  ∃ start ∈ starts, Relation.ReflTransGen graph.Edge start name

theorem mem_successors_iff {graph : CallGraph} {source target : String} :
    target ∈ graph.successors source ↔ graph.Edge source target := by
  simp [successors, Edge]

section Discover

variable (seen names : List String)

theorem mem_discover_all (name : String) :
    name ∈ (discover seen names).1 ↔ name ∈ seen ∨ name ∈ names := by
  induction names generalizing seen with
  | nil => simp [discover]
  | cons first rest ih =>
      rw [discover]
      split
      · next known =>
          rw [ih, List.mem_cons]
          have first_mem : first ∈ seen := by simpa using known
          constructor
          · exact Or.imp_right .inr
          · rintro (old | rfl | later)
            · exact .inl old
            · exact .inl first_mem
            · exact .inr later
      · rw [ih, List.mem_cons, List.mem_cons, or_assoc, or_left_comm]

theorem mem_discover_fresh (name : String) :
    name ∈ (discover seen names).2 ↔ name ∈ names ∧ name ∉ seen := by
  induction names generalizing seen with
  | nil => simp [discover]
  | cons first rest ih =>
      rw [discover]
      split
      · next known =>
          have first_mem : first ∈ seen := by simpa using known
          rw [ih, List.mem_cons]
          constructor
          · rintro ⟨later, unseen⟩
            exact ⟨.inr later, unseen⟩
          · rintro ⟨rfl | later, unseen⟩
            · exact absurd first_mem unseen
            · exact ⟨later, unseen⟩
      · next fresh =>
          have first_fresh : first ∉ seen := by simpa using fresh
          rw [List.mem_cons, ih, List.mem_cons, List.mem_cons]
          by_cases same : name = first
          · simp [same, first_fresh]
          · simp [same]

theorem discover_nodup (distinct : seen.Nodup) : (discover seen names).1.Nodup := by
  induction names generalizing seen with
  | nil => exact distinct
  | cons first rest ih =>
      rw [discover]
      split
      · exact ih seen distinct
      · next fresh => exact ih _ (List.nodup_cons.mpr ⟨by simpa using fresh, distinct⟩)

theorem length_discover :
    (discover seen names).1.length = seen.length + (discover seen names).2.length := by
  induction names generalizing seen with
  | nil => rfl
  | cons first rest ih =>
      rw [discover]
      split
      · exact ih seen
      · rw [ih, List.length_cons, List.length_cons]
        omega

end Discover

/-- What holds between two rounds of a search that may take some more rounds. -/
structure Searching (graph : CallGraph) (starts : List String) (rounds : Nat)
    (queue seen : List String) : Prop where
  reached : ∀ name ∈ seen, graph.Reaches starts name
  started : ∀ name ∈ starts, name ∈ seen
  queued : ∀ name ∈ queue, name ∈ seen
  closed : ∀ source ∈ seen, source ∉ queue → ∀ target, graph.Edge source target → target ∈ seen
  distinct : seen.Nodup
  inside : ∀ name ∈ seen, name ∈ graph.nodes
  /-- The rounds left and those taken, one for each name off the list, reach the number of nodes. -/
  enough : graph.nodes.length + queue.length ≤ rounds + seen.length

section Search

variable {graph : CallGraph} {starts : List String}

theorem searching_start (known : ∀ name ∈ starts, name ∈ graph.nodes) :
    Searching graph starts graph.nodes.length (discover [] starts).2 (discover [] starts).1 where
  reached := fun name member => by
    have start : name ∈ starts := by simpa [mem_discover_all] using member
    exact ⟨name, start, .refl⟩
  started := fun name start => (mem_discover_all [] starts name).mpr (.inr start)
  queued := fun name fresh => (mem_discover_all [] starts name).mpr
    (.inr ((mem_discover_fresh [] starts name).mp fresh).1)
  closed := fun source member off => by
    -- At the start every seen name is on the list.
    have start : source ∈ starts := by simpa [mem_discover_all] using member
    exact absurd ((mem_discover_fresh [] starts source).mpr ⟨start, List.not_mem_nil⟩) off
  distinct := discover_nodup [] starts .nil
  inside := fun name member => by
    have start : name ∈ starts := by simpa [mem_discover_all] using member
    exact known name start
  enough := by rw [length_discover, List.length_nil, Nat.zero_add]

theorem Searching.round {rounds : Nat} {name : String} {queue seen : List String}
    (wellFormed : graph.WellFormed)
    (searching : Searching graph starts (rounds + 1) (name :: queue) seen) :
    Searching graph starts rounds (queue ++ (discover seen (graph.successors name)).2)
      (discover seen (graph.successors name)).1 where
  reached := fun other member => by
    rcases (mem_discover_all _ _ other).mp member with old | new
    · exact searching.reached other old
    · obtain ⟨start, among, path⟩ := searching.reached name (searching.queued name (by simp))
      exact ⟨start, among, path.tail (mem_successors_iff.mp new)⟩
  started := fun start among =>
    (mem_discover_all _ _ start).mpr (.inl (searching.started start among))
  queued := fun other member => by
    refine (mem_discover_all _ _ other).mpr ?_
    rcases List.mem_append.mp member with old | new
    · exact .inl (searching.queued other (List.mem_cons_of_mem _ old))
    · exact .inr ((mem_discover_fresh _ _ other).mp new).1
  closed := fun source member off target edge => by
    refine (mem_discover_all _ _ target).mpr ?_
    have offQueue : source ∉ queue := fun on => off (List.mem_append_left _ on)
    by_cases old : source ∈ seen
    · by_cases same : source = name
      · exact .inr (mem_successors_iff.mpr (same ▸ edge))
      · exact .inl (searching.closed source old (by simp [same, offQueue]) target edge)
    · -- A name seen in this round only has just been put on the list.
      have new := ((mem_discover_all _ _ source).mp member).resolve_left old
      exact absurd (List.mem_append_right _ ((mem_discover_fresh _ _ source).mpr ⟨new, old⟩)) off
  distinct := discover_nodup _ _ searching.distinct
  inside := fun other member => by
    rcases (mem_discover_all _ _ other).mp member with old | new
    · exact searching.inside other old
    · exact wellFormed name other (mem_successors_iff.mp new)
  enough := by
    have before := searching.enough
    rw [length_discover, List.length_append]
    simp only [List.length_cons] at before
    omega

theorem Searching.mem_seen_iff {rounds : Nat} {seen : List String}
    (searching : Searching graph starts rounds [] seen) (name : String) :
    name ∈ seen ↔ graph.Reaches starts name := by
  refine ⟨searching.reached name, ?_⟩
  rintro ⟨start, among, path⟩
  induction path with
  | refl => exact searching.started start among
  | tail _ edge ih => exact searching.closed _ ih List.not_mem_nil _ edge

theorem Searching.queue_eq_nil {queue seen : List String}
    (searching : Searching graph starts 0 queue seen) : queue = [] := by
  -- More names than nodes cannot be seen, so no round is missing.
  have bound : seen.length ≤ graph.nodes.length :=
    (searching.distinct.subperm searching.inside).length_le
  have spent := searching.enough
  exact List.length_eq_zero_iff.mp (by omega)

inductive Ends (graph : CallGraph) : Nat → List String → List String → List String → Prop where
  | done (seen : List String) : Ends graph 0 [] seen seen
  | round {rounds : Nat} {name : String} {queue seen found : List String} :
      Ends graph rounds (queue ++ (discover seen (graph.successors name)).2)
        (discover seen (graph.successors name)).1 found →
      Ends graph (rounds + 1) (name :: queue) seen found

/-- A loop that started with all it had seen on the list takes one round for each name it finds. -/
theorem Ends.count {rounds : Nat} {queue seen found : List String}
    (ends : Ends graph rounds queue seen found) :
    rounds + seen.length = queue.length + found.length := by
  induction ends with
  | done seen => rfl
  | round _ ih =>
      rw [length_discover, List.length_append] at ih
      rw [List.length_cons]
      omega

theorem Ends.unique {rounds rounds' : Nat} {queue seen found found' : List String}
    (ends : Ends graph rounds queue seen found) (ends' : Ends graph rounds' queue seen found') :
    rounds' = rounds ∧ found' = found := by
  induction ends generalizing rounds' with
  | done seen =>
      cases ends'
      exact ⟨rfl, rfl⟩
  | round _ ih =>
      cases ends' with
      | round later =>
          obtain ⟨rfl, rfl⟩ := ih later
          exact ⟨rfl, rfl⟩

theorem Searching.ends (wellFormed : graph.WellFormed) {rounds : Nat} {queue seen : List String}
    (searching : Searching graph starts rounds queue seen) :
    ∃ taken, Ends graph taken queue seen (graph.search rounds queue seen) := by
  -- On the rounds left: a round keeps `Searching` with one round less.
  induction rounds generalizing queue seen with
  | zero =>
      obtain rfl := searching.queue_eq_nil
      rw [search]
      exact ⟨0, .done seen⟩
  | succ rounds ih =>
      cases queue with
      | nil =>
          rw [search]
          exact ⟨0, .done seen⟩
      | cons name queue =>
          rw [search]
          obtain ⟨taken, ends⟩ := ih (searching.round wellFormed)
          exact ⟨taken + 1, .round ends⟩

theorem Ends.searching (wellFormed : graph.WellFormed) {taken rounds : Nat}
    {queue seen found : List String} (ends : Ends graph taken queue seen found)
    (searching : Searching graph starts rounds queue seen) :
    ∃ left, Searching graph starts left [] found := by
  induction ends generalizing rounds with
  | done seen => exact ⟨rounds, searching⟩
  | round _ ih =>
      cases rounds with
      | zero =>
          have empty := searching.queue_eq_nil
          cases empty
      | succ rounds => exact ih (searching.round wellFormed)

/-- The loop of a whole search, from the names it starts with. -/
def Finds (graph : CallGraph) (starts : List String) (rounds : Nat) (found : List String) : Prop :=
  let (seen, queue) := discover [] (starts.filter (graph.nodes.contains ·))
  Ends graph rounds queue seen found

theorem searching_reachable (graph : CallGraph) (starts : List String) :
    Searching graph (starts.filter (graph.nodes.contains ·)) graph.nodes.length
      (discover [] (starts.filter (graph.nodes.contains ·))).2
      (discover [] (starts.filter (graph.nodes.contains ·))).1 := by
  apply searching_start
  intro name start
  simpa using (List.mem_filter.mp start).2

theorem finds_reachable (wellFormed : graph.WellFormed) (starts : List String) :
    ∃ rounds, graph.Finds starts rounds (graph.reachable starts) :=
  (searching_reachable graph starts).ends wellFormed

/-- A search ends in one way only, after one round for each name found. -/
theorem finds_iff (wellFormed : graph.WellFormed) {rounds : Nat} {found : List String} :
    graph.Finds starts rounds found ↔
      found = graph.reachable starts ∧ rounds = found.length := by
  obtain ⟨taken, finds⟩ := finds_reachable wellFormed starts
  have count : taken = (graph.reachable starts).length := by
    have balance := Ends.count finds
    rw [length_discover, List.length_nil] at balance
    omega
  constructor
  · intro other
    obtain ⟨rfl, rfl⟩ := Ends.unique finds other
    exact ⟨rfl, count⟩
  · rintro ⟨rfl, rfl⟩
    exact count ▸ finds

theorem searching_end (wellFormed : graph.WellFormed) (starts : List String) :
    ∃ left, Searching graph (starts.filter (graph.nodes.contains ·)) left []
      (graph.reachable starts) := by
  obtain ⟨rounds, finds⟩ := finds_reachable wellFormed starts
  exact Ends.searching wellFormed finds (searching_reachable graph starts)

theorem mem_reachable_iff (wellFormed : graph.WellFormed) (starts : List String) (name : String) :
    name ∈ graph.reachable starts ↔ ∃ start ∈ starts, start ∈ graph.nodes ∧
      Relation.ReflTransGen graph.Edge start name := by
  obtain ⟨left, searching⟩ := searching_end wellFormed starts
  rw [searching.mem_seen_iff, Reaches]
  simp [and_assoc]

theorem reachable_nodup (wellFormed : graph.WellFormed) (starts : List String) :
    (graph.reachable starts).Nodup := by
  obtain ⟨left, searching⟩ := searching_end wellFormed starts
  exact searching.distinct

end Search

theorem edge_ofRelation_iff {catalog : Catalog} {relation : CallRelation} {source target : String} :
    (ofRelation catalog relation).Edge source target ↔
      relation.Calls source target ∧ catalog.contains source = true ∧
        catalog.contains target = true := by
  simp [Edge, ofRelation, CallRelation.mem_pairs_iff]

theorem mem_nodes_ofRelation {catalog : Catalog} {relation : CallRelation} {name : String} :
    name ∈ (ofRelation catalog relation).nodes ↔ catalog.contains name = true :=
  NameMap.mem_names

theorem wellFormed_ofRelation (catalog : Catalog) (relation : CallRelation) :
    (ofRelation catalog relation).WellFormed :=
  fun _ _ edge => mem_nodes_ofRelation.mpr (edge_ofRelation_iff.mp edge).2.2

def KnownCall (catalog : Catalog) (relation : CallRelation) (caller callee : String) : Prop :=
  relation.Calls caller callee ∧ catalog.contains caller = true ∧ catalog.contains callee = true

theorem edge_eq_knownCall (catalog : Catalog) (relation : CallRelation) :
    (ofRelation catalog relation).Edge = KnownCall catalog relation := by
  funext caller callee
  rw [eq_iff_iff, edge_ofRelation_iff, KnownCall]

/-- Over any catalog and relation and from any names, the search ends, and with each of the names
that known calls lead to from the catalogued ones among them. -/
theorem reachable_exact (catalog : Catalog) (relation : CallRelation) (starts : List String) :
    (∀ rounds found, (ofRelation catalog relation).Finds starts rounds found ↔
      found = (ofRelation catalog relation).reachable starts ∧ rounds = found.length) ∧
    ((ofRelation catalog relation).reachable starts).Nodup ∧
    ∀ name, name ∈ (ofRelation catalog relation).reachable starts ↔
      ∃ start ∈ starts, catalog.contains start = true ∧
        Relation.ReflTransGen (KnownCall catalog relation) start name := by
  have wellFormed := wellFormed_ofRelation catalog relation
  constructor
  · intro rounds found
    exact finds_iff wellFormed
  constructor
  · exact reachable_nodup wellFormed starts
  · intro name
    rw [mem_reachable_iff wellFormed, edge_eq_knownCall]
    simp only [mem_nodes_ofRelation]

end CallAtlas.CallGraph
