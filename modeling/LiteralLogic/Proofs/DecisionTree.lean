import LiteralLogic.DecisionTree
import LiteralLogic.Proofs.Trie.Visits

/-!
# What a walk through the decision tree finds

A conjunction that was inserted is fulfilled if its positive literals are present and
its negated ones are absent.  A walk finds the conditions with a fulfilled conjunction,
and reaches the root and one node for every distinct beginning of conjunctions that
is fulfilled (`mem_conditions_walk`, `nodesVisited_walk`).

`Runs` is the walk without any choice of order: waiting nodes are taken in any order,
edges and literals are listed in any order, and positive edges are looked up from either
side.  All of its runs agree with the walk.
-/

namespace LiteralLogic

/-- The positive literals of the conjunction are present and its negated ones absent. -/
def Fulfilled (present : Presence) (path : List SignedKey) : Prop :=
  ∀ signed ∈ path, (signed.key ∈ present ↔ signed.negated = false)

instance (present : Presence) (path : List SignedKey) : Decidable (Fulfilled present path) :=
  inferInstanceAs (Decidable (∀ _ ∈ _, _))

theorem SignedKey.holds_iff {present : Presence} {signed : SignedKey} :
    signed.holds present = true ↔ (signed.key ∈ present ↔ signed.negated = false) := by
  rw [Std.HashSet.mem_iff_contains, SignedKey.holds]
  cases present.contains signed.key <;> cases signed.negated <;> simp

theorem all_holds_iff {present : Presence} {path : List SignedKey} :
    path.all (SignedKey.holds present) = true ↔ Fulfilled present path := by
  simp only [List.all_eq_true, SignedKey.holds_iff, Fulfilled]

namespace SignedEdges

/-- The nodes behind the positive edges that hold, looked up from the literals. -/
def probePresent (edges : SignedEdges) (present : Presence) : List Nat :=
  present.toList.filterMap fun key => edges.positive[key]?

/-- The nodes behind the positive edges that hold, looked up from the edges. -/
def probeEdges (edges : SignedEdges) (present : Presence) : List Nat :=
  edges.positive.toList.filterMap fun (key, node) =>
    if present.contains key then some node else none

theorem takePositive_eq (edges : SignedEdges) (present : Presence) :
    edges.takePositive present = edges.probePresent present ∨
      edges.takePositive present = edges.probeEdges present := by
  unfold takePositive
  split
  · exact .inl rfl
  · exact .inr rfl

theorem mem_probePresent {edges : SignedEdges} {present : Presence} {child : Nat} :
    child ∈ edges.probePresent present ↔
      ∃ key, key ∈ present ∧ edges.positive[key]? = some child := by
  simp [probePresent, List.mem_filterMap]

theorem mem_probeEdges {edges : SignedEdges} {present : Presence} {child : Nat} :
    child ∈ edges.probeEdges present ↔
      ∃ key, key ∈ present ∧ edges.positive[key]? = some child := by
  simp only [probeEdges, List.mem_filterMap, Prod.exists,
    Std.HashMap.mem_toList_iff_getElem?_eq_some]
  constructor
  · intro h
    obtain ⟨key, node, edge, chosen⟩ := h
    split at chosen
    · cases chosen
      exact ⟨key, by rwa [Std.HashSet.mem_iff_contains], edge⟩
    · cases chosen
  · intro h
    obtain ⟨key, listed, edge⟩ := h
    exact ⟨key, child, edge, by rw [if_pos (Std.HashSet.mem_iff_contains.mp listed)]⟩

theorem mem_takeNegative {edges : SignedEdges} {present : Presence} {child : Nat} :
    child ∈ edges.takeNegative present ↔
      ∃ key, key ∉ present ∧ edges.negative[key]? = some child := by
  simp only [takeNegative, List.mem_filterMap, Prod.exists,
    Std.HashMap.mem_toList_iff_getElem?_eq_some]
  constructor
  · intro h
    obtain ⟨key, node, edge, chosen⟩ := h
    split at chosen
    · cases chosen
    · rename_i absent
      cases chosen
      exact ⟨key, by rwa [Std.HashSet.mem_iff_contains], edge⟩
  · intro h
    obtain ⟨key, absent, edge⟩ := h
    rw [Std.HashSet.mem_iff_contains] at absent
    exact ⟨key, child, edge, by rw [if_neg absent]⟩

/-- No two edges out of one node lead to the same node. -/
def Distinct (edges : SignedEdges) : Prop :=
  ∀ signed signed' child, edges.child? signed = some child →
    edges.child? signed' = some child → signed = signed'

theorem Distinct.positive {edges : SignedEdges} (distinct : edges.Distinct) {key key' : LiteralKey}
    {child : Nat} (edge : edges.positive[key]? = some child)
    (edge' : edges.positive[key']? = some child) : key = key' := by
  have same := distinct ⟨key, false⟩ ⟨key', false⟩ child (by simpa [child?] using edge)
    (by simpa [child?] using edge')
  exact congrArg SignedKey.key same

theorem Distinct.negative {edges : SignedEdges} (distinct : edges.Distinct) {key key' : LiteralKey}
    {child : Nat} (edge : edges.negative[key]? = some child)
    (edge' : edges.negative[key']? = some child) : key = key' := by
  have same := distinct ⟨key, true⟩ ⟨key', true⟩ child (by simpa [child?] using edge)
    (by simpa [child?] using edge')
  exact congrArg SignedKey.key same

theorem nodup_probePresent {edges : SignedEdges} (distinct : edges.Distinct)
    (present : Presence) : (edges.probePresent present).Nodup := by
  apply List.Nodup.filterMap
  · intro key key' child edge edge'
    exact distinct.positive edge edge'
  · exact present.distinct_toList.imp fun ne same => by simp [same] at ne

/-- Nodes picked from a map with distinct values are distinct. -/
theorem nodup_filterMap_toList {map : Std.HashMap LiteralKey Nat}
    (distinct : ∀ {key key' : LiteralKey} {child : Nat}, map[key]? = some child →
      map[key']? = some child → key = key')
    {pick : LiteralKey × Nat → Option Nat}
    (picks : ∀ entry child, pick entry = some child → entry.2 = child) :
    (map.toList.filterMap pick).Nodup := by
  rw [List.Nodup, List.pairwise_filterMap]
  refine map.distinct_keys_toList.imp_of_mem ?_
  intro entry entry' mem mem' ne child picked child' picked' same
  obtain ⟨key, node⟩ := entry
  obtain ⟨key', node'⟩ := entry'
  rw [Std.HashMap.mem_toList_iff_getElem?_eq_some] at mem mem'
  have hnode : node = child := picks _ _ picked
  have hnode' : node' = child' := picks _ _ picked'
  subst hnode hnode' same
  simp [distinct mem mem'] at ne

theorem nodup_probeEdges {edges : SignedEdges} (distinct : edges.Distinct)
    (present : Presence) : (edges.probeEdges present).Nodup := by
  apply nodup_filterMap_toList distinct.positive
  intro ⟨key, node⟩ child picked
  dsimp only at picked
  split at picked
  · exact Option.some.inj picked
  · cases picked

theorem nodup_takeNegative {edges : SignedEdges} (distinct : edges.Distinct)
    (present : Presence) : (edges.takeNegative present).Nodup := by
  apply nodup_filterMap_toList distinct.negative
  intro ⟨key, node⟩ child picked
  dsimp only at picked
  split at picked
  · cases picked
  · exact Option.some.inj picked

end SignedEdges

namespace DecisionTree

/-! ## Walks in any order -/

/-- A walk from the waiting nodes that visits the listed nodes.  Nothing is said about
the order in which waiting nodes are taken and edges and literals are listed, nor
about the side from which positive edges are looked up. -/
inductive Runs (tree : DecisionTree) (present : Presence) : List Nat → List Nat → Prop
  | done : Runs tree present [] []
  | visit {waiting rest positive negative visited : List Nat} {node : Nat} :
    waiting.Perm (node :: rest) →
    (positive.Perm ((tree.trie.edges node).probePresent present) ∨
      positive.Perm ((tree.trie.edges node).probeEdges present)) →
    negative.Perm ((tree.trie.edges node).takeNegative present) →
    Runs tree present (positive ++ negative ++ rest) visited →
    Runs tree present waiting (node :: visited)

variable {tree : DecisionTree} {paths : List (List SignedKey)} {present : Presence}

theorem distinct_edges (spelled : tree.trie.Spelled paths) {path : List SignedKey} {node : Nat}
    (found : tree.trie.find? path = some node) : (tree.trie.edges node).Distinct := by
  intro signed signed' child edge edge'
  have ends := (Trie.Spelled.child?_iff found signed child).mp edge
  have ends' := (Trie.Spelled.child?_iff found signed' child).mp edge'
  have same := spelled.find?_inj ends ends'
  rw [List.append_right_inj, List.singleton_inj] at same
  exact same

/-- From either side and in any order, the nodes behind the edges that hold are picked. -/
theorem picks_of_perm (spelled : tree.trie.Spelled paths) {path : List SignedKey} {node : Nat}
    (found : tree.trie.find? path = some node) {positive negative : List Nat}
    (hp : positive.Perm ((tree.trie.edges node).probePresent present) ∨
      positive.Perm ((tree.trie.edges node).probeEdges present))
    (hn : negative.Perm ((tree.trie.edges node).takeNegative present)) :
    tree.trie.Picks (SignedKey.holds present) node (positive ++ negative) := by
  have distinct := distinct_edges spelled found
  have memPositive : ∀ child, child ∈ positive ↔
      ∃ key, key ∈ present ∧ (tree.trie.edges node).positive[key]? = some child := by
    intro child
    rcases hp with hp | hp
    · rw [hp.mem_iff, SignedEdges.mem_probePresent]
    · rw [hp.mem_iff, SignedEdges.mem_probeEdges]
  have memNegative : ∀ child, child ∈ negative ↔
      ∃ key, key ∉ present ∧ (tree.trie.edges node).negative[key]? = some child := by
    intro child
    rw [hn.mem_iff, SignedEdges.mem_takeNegative]
  have nodupPositive : positive.Nodup := by
    rcases hp with hp | hp
    · exact hp.nodup_iff.mpr (SignedEdges.nodup_probePresent distinct present)
    · exact hp.nodup_iff.mpr (SignedEdges.nodup_probeEdges distinct present)
  constructor
  · rw [List.nodup_append']
    refine ⟨nodupPositive, hn.nodup_iff.mpr (SignedEdges.nodup_takeNegative distinct present), ?_⟩
    intro child mem mem'
    obtain ⟨key, -, edge⟩ := (memPositive child).mp mem
    obtain ⟨key', -, edge'⟩ := (memNegative child).mp mem'
    have same := distinct ⟨key, false⟩ ⟨key', true⟩ child (by simpa [SignedEdges.child?] using edge)
      (by simpa [SignedEdges.child?] using edge')
    cases same
  · intro child
    rw [List.mem_append, memPositive, memNegative]
    constructor
    · intro taken
      rcases taken with ⟨key, listed, edge⟩ | ⟨key, absent, edge⟩
      · exact ⟨⟨key, false⟩, SignedKey.holds_iff.mpr (by simp [listed]), edge⟩
      · exact ⟨⟨key, true⟩, SignedKey.holds_iff.mpr (by simp [absent]), edge⟩
    · intro h
      obtain ⟨⟨key, negated⟩, held, edge⟩ := h
      rw [SignedKey.holds_iff] at held
      cases negated with
      | false => exact .inl ⟨key, by simpa using held, edge⟩
      | true => exact .inr ⟨key, by simpa using held, edge⟩

theorem picks_take (spelled : tree.trie.Spelled paths) {path : List SignedKey} {node : Nat}
    (found : tree.trie.find? path = some node) :
    tree.trie.Picks (SignedKey.holds present) node ((tree.trie.edges node).take present) := by
  apply picks_of_perm spelled found _ (List.Perm.refl _)
  rcases (tree.trie.edges node).takePositive_eq present with same | same
  · exact .inl (.of_eq same)
  · exact .inr (.of_eq same)

theorem Runs.visits (spelled : tree.trie.Spelled paths) {waiting visited : List Nat}
    (run : tree.Runs present waiting visited)
    (known : ∀ node ∈ waiting, ∃ path, tree.trie.find? path = some node) :
    tree.trie.Visits (SignedKey.holds present) waiting visited := by
  induction run with
  | done => exact .done
  | @visit waiting rest positive negative visited node order hp hn run ih =>
    obtain ⟨path, found⟩ := known node (order.symm.subset (by simp))
    have picks := picks_of_perm spelled found hp hn
    refine .visit order picks (ih fun other listed => ?_)
    rcases List.mem_append.mp listed with listed | listed
    · obtain ⟨signed, -, edge⟩ := (picks.2 other).mp listed
      exact ⟨path ++ [signed], (Trie.Spelled.child?_iff found signed other).mp edge⟩
    · exact known other (order.symm.subset (List.mem_cons_of_mem _ listed))

theorem Runs.of_perm {waiting waiting' visited : List Nat}
    (run : tree.Runs present waiting visited) (same : waiting'.Perm waiting) :
    tree.Runs present waiting' visited := by
  cases run with
  | done =>
    rw [List.perm_nil] at same
    subst same
    exact .done
  | visit order hp hn run => exact .visit (same.trans order) hp hn run

/-- Picked nodes are behind edges that may be listed in this order. -/
theorem runs_of_visits (spelled : tree.trie.Spelled paths) {waiting visited : List Nat}
    (run : tree.trie.Visits (SignedKey.holds present) waiting visited)
    (known : ∀ node ∈ waiting, ∃ path, tree.trie.find? path = some node) :
    tree.Runs present waiting visited := by
  induction run with
  | done => exact .done
  | @visit waiting rest next visited node order picks run ih =>
    obtain ⟨path, found⟩ := known node (order.symm.subset (by simp))
    have taken : tree.trie.Picks (SignedKey.holds present) node
        ((tree.trie.edges node).take present) := picks_take spelled found
    have same : next.Perm ((tree.trie.edges node).take present) := by
      rw [List.perm_ext_iff_of_nodup picks.1 taken.1]
      intro child
      rw [picks.2, taken.2]
    have known' : ∀ other ∈ next ++ rest, ∃ path, tree.trie.find? path = some other := by
      intro other listed
      rcases List.mem_append.mp listed with listed | listed
      · obtain ⟨signed, -, edge⟩ := (picks.2 other).mp listed
        exact ⟨path ++ [signed], (Trie.Spelled.child?_iff found signed other).mp edge⟩
      · exact known other (order.symm.subset (List.mem_cons_of_mem _ listed))
    have later := (ih known').of_perm (same.symm.append_right rest)
    rcases (tree.trie.edges node).takePositive_eq present with side | side
    · exact .visit order (.inl (.of_eq side)) (.refl _) later
    · exact .visit order (.inr (.of_eq side)) (.refl _) later

theorem known_root (tree : DecisionTree) :
    ∀ node ∈ [Trie.root], ∃ path : List SignedKey, tree.trie.find? path = some node := by
  intro node listed
  rw [List.mem_singleton] at listed
  subst listed
  exact ⟨[], Trie.find?_nil tree.trie⟩

theorem visits_walk (spelled : tree.trie.Spelled paths) (present : Presence) :
    tree.trie.Visits (SignedKey.holds present) [Trie.root]
      (tree.trie.reach fun edges => edges.take present) :=
  Trie.visits_reach spelled fun _ _ found => picks_take spelled found

instance : Std.LawfulEqCmp (compareOn (id : Nat → Nat)) :=
  inferInstanceAs (Std.LawfulEqCmp (compare : Nat → Nat → Ordering))

/-- Every run finds what the walk finds. -/
theorem Runs.walk_eq (spelled : tree.trie.Spelled paths) {visited : List Nat}
    (run : tree.Runs present [Trie.root] visited) :
    tree.walk present =
      ⟨ascending (compareOn id) (visited.flatMap tree.trie.mark), visited.length⟩ := by
  have visits := run.visits spelled tree.known_root
  have perm := ((visits_walk spelled present).perm_root spelled).trans
    (visits.perm_root spelled).symm
  have conditions : ascending (compareOn id)
      ((tree.trie.reach fun edges => edges.take present).flatMap tree.trie.mark) =
        ascending (compareOn id) (visited.flatMap tree.trie.mark) :=
    ascending_eq_iff.mpr fun _ => (perm.flatMap_right tree.trie.mark).mem_iff
  rw [walk, conditions, perm.length_eq]

/-! ## Trees of inserted conjunctions -/

/-- The tree after conjunctions were inserted in turn, each for its condition. -/
def ofInserts (inserts : List (List SignedKey × Nat)) : DecisionTree :=
  inserts.foldl (fun tree insert => tree.insert insert.1 insert.2) empty

theorem mem_note {condition other : Nat} {conditions : List Nat} :
    other ∈ note condition conditions ↔ other = condition ∨ other ∈ conditions := by
  unfold note
  split
  · rename_i last
    have listed : condition ∈ conditions := List.mem_of_mem_head? last
    constructor
    · exact .inr
    · intro either
      rcases either with rfl | mem
      · exact listed
      · exact mem
  · exact List.mem_cons

theorem trie_foldl_insert (tree : DecisionTree) (inserts : List (List SignedKey × Nat)) :
    (inserts.foldl (fun tree insert => tree.insert insert.1 insert.2) tree).trie =
      tree.trie.insertAll (inserts.map fun insert => (insert.1, note insert.2)) := by
  induction inserts generalizing tree with
  | nil => rfl
  | cons first inserts ih => exact ih (tree.insert first.1 first.2)

theorem mem_foldl_note {other : Nat} {inserts : List (List SignedKey × Nat)}
    {conditions : List Nat} :
    other ∈ inserts.foldl (fun mark insert => note insert.2 mark) conditions ↔
      other ∈ conditions ∨ ∃ path, (path, other) ∈ inserts := by
  induction inserts generalizing conditions with
  | nil => simp
  | cons first inserts ih =>
    obtain ⟨path, condition⟩ := first
    rw [List.foldl_cons, ih, mem_note]
    constructor
    · intro found
      rcases found with (rfl | old) | ⟨later, mem⟩
      · exact .inr ⟨path, by simp⟩
      · exact .inl old
      · exact .inr ⟨later, List.mem_cons_of_mem _ mem⟩
    · intro found
      rcases found with old | ⟨later, mem⟩
      · exact .inl (.inr old)
      · rcases List.mem_cons.mp mem with same | mem
        · cases same
          exact .inl (.inl rfl)
        · exact .inr ⟨later, mem⟩

/-- The nodes of the tree are the beginnings of the inserted conjunctions, and each is
marked with the conditions whose conjunction ends there. -/
theorem exists_spelled_ofInserts (inserts : List (List SignedKey × Nat)) :
    ∃ paths, (ofInserts inserts).trie.Spelled paths ∧
      (∀ path, path ∈ paths ↔ path = [] ∨ path ∈ Trie.beginnings (inserts.map Prod.fst)) ∧
      ∀ path condition, condition ∈ (ofInserts inserts).trie.markAt path ↔
        (path, condition) ∈ inserts := by
  have same := trie_foldl_insert empty inserts
  obtain ⟨paths, spelled, members, marks⟩ := Trie.exists_spelled_insertAll (ε := SignedEdges)
    (inserts.map fun insert => (insert.1, note insert.2))
  rw [ofInserts, same]
  refine ⟨paths, spelled, ?_, fun path condition => ?_⟩
  · simpa only [List.map_map, Function.comp_def] using members
  · have marked : (Trie.insertAll (empty : DecisionTree).trie
        (inserts.map fun insert => (insert.1, note insert.2))).markAt path =
          (inserts.filter (·.1 = path)).foldl (fun mark insert => note insert.2 mark) [] := by
      rw [empty, marks, List.filter_map, List.foldl_map]
      rfl
    rw [marked, mem_foldl_note]
    simp

theorem mem_conditions_walk (inserts : List (List SignedKey × Nat)) (present : Presence)
    (condition : Nat) :
    condition ∈ ((ofInserts inserts).walk present).conditions ↔
      ∃ path, (path, condition) ∈ inserts ∧ Fulfilled present path := by
  obtain ⟨paths, spelled, -, marks⟩ := exists_spelled_ofInserts inserts
  have visits := visits_walk spelled present
  rw [walk, mem_ascending, List.mem_flatMap]
  constructor
  · intro h
    obtain ⟨node, reached, marked⟩ := h
    obtain ⟨path, held, found⟩ := (visits.mem_iff spelled node).mp reached
    rw [← Trie.markAt_of_find? found] at marked
    exact ⟨path, (marks path condition).mp marked, all_holds_iff.mp held⟩
  · intro h
    obtain ⟨path, inserted, fulfilled⟩ := h
    have marked := (marks path condition).mpr inserted
    cases found : (ofInserts inserts).trie.find? path with
    | none =>
      rw [Trie.markAt, found] at marked
      cases marked
    | some node =>
      rw [Trie.markAt_of_find? found] at marked
      exact ⟨node, (visits.mem_iff spelled node).mpr ⟨path, all_holds_iff.mpr fulfilled, found⟩,
        marked⟩

theorem pairwise_conditions_walk (tree : DecisionTree) (present : Presence) :
    (tree.walk present).conditions.Pairwise (· < ·) :=
  (pairwise_ascending _).imp fun less => Nat.compare_eq_lt.mp less

theorem nodesVisited_walk (inserts : List (List SignedKey × Nat)) (present : Presence) :
    ((ofInserts inserts).walk present).nodesVisited =
      1 + ((Trie.beginnings (inserts.map Prod.fst)).filter (Fulfilled present)).card := by
  obtain ⟨paths, spelled, members, -⟩ := exists_spelled_ofInserts inserts
  have nodes : (paths.filter (List.all · (SignedKey.holds present))).toFinset =
      Insert.insert []
        ((Trie.beginnings (inserts.map Prod.fst)).filter (Fulfilled present)) := by
    ext path
    rw [List.mem_toFinset, List.mem_filter, members, all_holds_iff, Finset.mem_insert,
      Finset.mem_filter]
    constructor
    · intro h
      obtain ⟨either, fulfilled⟩ := h
      exact either.imp_right fun mem => ⟨mem, fulfilled⟩
    · intro either
      rcases either with rfl | ⟨mem, fulfilled⟩
      · exact ⟨.inl rfl, by simp [Fulfilled]⟩
      · exact ⟨.inr mem, fulfilled⟩
  have fresh : [] ∉ (Trie.beginnings (inserts.map Prod.fst)).filter (Fulfilled present) := by
    simp [Trie.mem_beginnings]
  rw [walk, (visits_walk spelled present).length_eq spelled,
    ← List.toFinset_card_of_nodup (spelled.nodup.filter _), nodes,
    Finset.card_insert_of_notMem fresh, Nat.add_comm]

theorem nodeCount_ofInserts (inserts : List (List SignedKey × Nat)) :
    (ofInserts inserts).nodeCount = 1 + (Trie.beginnings (inserts.map Prod.fst)).card := by
  have size := Trie.size_insertAll (ε := SignedEdges)
    (inserts.map fun insert => (insert.1, note insert.2))
  rw [List.map_map] at size
  rw [nodeCount, ofInserts, trie_foldl_insert, Nat.add_comm]
  exact size

/-- Walks depend on which conjunctions were inserted and which literals are present, and
not on the order of either. -/
theorem walk_congr {inserts inserts' : List (List SignedKey × Nat)} {present present' : Presence}
    (sameInserts : ∀ insert, insert ∈ inserts' ↔ insert ∈ inserts)
    (samePresent : ∀ key, key ∈ present' ↔ key ∈ present) :
    (ofInserts inserts').walk present' = (ofInserts inserts).walk present ∧
      (ofInserts inserts').nodeCount = (ofInserts inserts).nodeCount := by
  have fulfilled : ∀ path, Fulfilled present' path ↔ Fulfilled present path := by
    intro path
    simp only [Fulfilled, samePresent]
  have beginnings : Trie.beginnings (inserts'.map Prod.fst) =
      Trie.beginnings (inserts.map Prod.fst) := by
    apply Trie.beginnings_congr
    intro path
    simp only [List.mem_map, Prod.exists, sameInserts]
  have conditions : ((ofInserts inserts').walk present').conditions =
      ((ofInserts inserts).walk present).conditions := by
    apply eq_of_pairwise_lt (pairwise_ascending _) (pairwise_ascending _)
    intro condition
    have left := mem_conditions_walk inserts' present' condition
    have right := mem_conditions_walk inserts present condition
    simp only [sameInserts, fulfilled] at left
    exact left.trans right.symm
  have nodes : ((ofInserts inserts').walk present').nodesVisited =
      ((ofInserts inserts).walk present).nodesVisited := by
    rw [nodesVisited_walk, nodesVisited_walk, beginnings]
    simp only [fulfilled]
  constructor
  · exact (Walk.mk.injEq _ _ _ _).mpr ⟨conditions, nodes⟩
  · rw [nodeCount_ofInserts, nodeCount_ofInserts, beginnings]

/-- A walk finds, in ascending order, the conditions with a fulfilled conjunction, and
reaches the root and a node for each distinct beginning of conjunctions that is
fulfilled; and neither the order of insertion nor the order in which nodes, edges and
literals come up, nor the side from which edges are looked up, makes a difference. -/
theorem walk_ofInserts (inserts : List (List SignedKey × Nat)) (present : Presence) :
    ((ofInserts inserts).walk present).conditions.Pairwise (· < ·) ∧
      (∀ condition, condition ∈ ((ofInserts inserts).walk present).conditions ↔
        ∃ path, (path, condition) ∈ inserts ∧ Fulfilled present path) ∧
      ((ofInserts inserts).walk present).nodesVisited =
        1 + ((Trie.beginnings (inserts.map Prod.fst)).filter (Fulfilled present)).card ∧
      (ofInserts inserts).nodeCount = 1 + (Trie.beginnings (inserts.map Prod.fst)).card ∧
      (∀ inserts' present', inserts'.Perm inserts → (∀ key, key ∈ present' ↔ key ∈ present) →
        (ofInserts inserts').walk present' = (ofInserts inserts).walk present ∧
          (ofInserts inserts').nodeCount = (ofInserts inserts).nodeCount) ∧
      (∃ visited, (ofInserts inserts).Runs present [Trie.root] visited) ∧
      ∀ visited, (ofInserts inserts).Runs present [Trie.root] visited →
        (ofInserts inserts).walk present =
          ⟨ascending (compareOn id) (visited.flatMap (ofInserts inserts).trie.mark),
            visited.length⟩ := by
  obtain ⟨paths, spelled, -, -⟩ := exists_spelled_ofInserts inserts
  refine ⟨pairwise_conditions_walk _ present, mem_conditions_walk inserts present,
    nodesVisited_walk inserts present, nodeCount_ofInserts inserts, ?_, ?_, ?_⟩
  · intro inserts' present' reordered samePresent
    exact walk_congr (fun _ => reordered.mem_iff) samePresent
  · exact ⟨_, runs_of_visits spelled (visits_walk spelled present) (known_root _)⟩
  · intro visited run
    exact run.walk_eq spelled

end DecisionTree

end LiteralLogic
