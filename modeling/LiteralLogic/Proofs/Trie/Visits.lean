import LiteralLogic.Proofs.Trie
import Mathlib.Data.List.Perm.Lattice
import Mathlib.Data.List.Perm.Subperm

/-!
# Walking through a trie

A walk keeps a list of nodes that wait for a visit.  `Visits` takes any of them next and
adds the nodes behind its edges that hold in any order, so a statement about all of
its runs does not depend on the order in which a collection lists its edges, nor on
the order in which waiting nodes are taken.

Every run from the root visits the nodes whose whole path holds (`Visits.mem_iff`), each
of them once (`Visits.perm_root`).  `visits_reach` says that going from generation to
generation is such a run.
-/

namespace LiteralLogic.Trie

variable {ε α μ : Type} [Edges ε α]

/-- The list holds the nodes behind those edges of a node whose label holds, each of them
once and in any order. -/
def Picks (trie : Trie ε μ) (holds : α → Bool) (node : Nat) (next : List Nat) : Prop :=
  next.Nodup ∧
    ∀ child, child ∈ next ↔ ∃ a, holds a = true ∧ trie.child? node a = some child

/-- A walk from the waiting nodes visits the listed nodes in their order. -/
inductive Visits (trie : Trie ε μ) (holds : α → Bool) : List Nat → List Nat → Prop
  | done : Visits trie holds [] []
  | visit {waiting rest next visited : List Nat} {node : Nat} :
    waiting.Perm (node :: rest) → Picks trie holds node next →
    Visits trie holds (next ++ rest) visited → Visits trie holds waiting (node :: visited)

/-- The order of the waiting nodes does not matter. -/
theorem Visits.of_perm {trie : Trie ε μ} {holds : α → Bool} {waiting waiting' visited : List Nat}
    (run : Visits trie holds waiting visited) (same : waiting'.Perm waiting) :
    Visits trie holds waiting' visited := by
  cases run with
  | done =>
    rw [List.perm_nil] at same
    subst same
    exact .done
  | visit order picks run => exact .visit (same.trans order) picks run

/-! ## The nodes below a node -/

/-- The nodes to which paths lead from a node if all labels on the path hold. -/
def Leads (trie : Trie ε μ) (holds : α → Bool) (node other : Nat) : Prop :=
  ∃ path : List α, path.all holds = true ∧ trie.findFrom? node path = some other

open Classical in
/-- The nodes to which a node leads, in the order of their numbers. -/
noncomputable def descendants (trie : Trie ε μ) (holds : α → Bool) (node : Nat) : List Nat :=
  (List.range trie.size).filter fun other => decide (Leads trie holds node other)

theorem nodup_descendants (trie : Trie ε μ) (holds : α → Bool) (node : Nat) :
    (descendants trie holds node).Nodup :=
  List.nodup_range.filter _

namespace Spelled

variable {trie : Trie ε μ} {paths : List (List α)} {holds : α → Bool}

theorem find?_append_of_find? {path further : List α} {node : Nat}
    (found : trie.find? path = some node) :
    trie.find? (path ++ further) = trie.findFrom? node further := by
  rw [find?, findFrom?_append, ← find?, found, Option.bind_some]

theorem mem_descendants (spelled : Spelled trie paths) {path : List α} {node : Nat}
    (found : trie.find? path = some node) (other : Nat) :
    other ∈ descendants trie holds node ↔ Leads trie holds node other := by
  classical
  simp only [descendants, List.mem_filter, List.mem_range, decide_eq_true_eq,
    and_iff_right_iff_imp]
  rintro ⟨further, -, reached⟩
  rw [← find?_append_of_find? found] at reached
  exact spelled.lt_size reached

/-- A node leads to itself, and otherwise through one of its edges that hold. -/
theorem leads_iff {node other : Nat} {next : List Nat} (picks : Picks trie holds node next) :
    Leads trie holds node other ↔ other = node ∨ ∃ child ∈ next, Leads trie holds child other := by
  constructor
  · rintro ⟨path, held, reached⟩
    cases path with
    | nil =>
      cases reached
      exact .inl rfl
    | cons a path =>
      rw [List.all_cons, Bool.and_eq_true] at held
      cases edge : trie.child? node a with
      | none => simp [findFrom?, edge] at reached
      | some child =>
        simp only [findFrom?, edge] at reached
        exact .inr ⟨child, (picks.2 child).mpr ⟨a, held.1, edge⟩, path, held.2, reached⟩
  · rintro (rfl | ⟨child, listed, path, held, reached⟩)
    · exact ⟨[], rfl, rfl⟩
    · obtain ⟨a, ha, edge⟩ := (picks.2 child).mp listed
      exact ⟨a :: path, by simp [ha, held], by simp [findFrom?, edge, reached]⟩

/-- Two edges out of a node have no node below them in common. -/
theorem child_unique (spelled : Spelled trie paths) {path : List α} {node child child' other : Nat}
    (found : trie.find? path = some node) {a a' : α} (edge : trie.child? node a = some child)
    (edge' : trie.child? node a' = some child') (leads : Leads trie holds child other)
    (leads' : Leads trie holds child' other) : child = child' := by
  obtain ⟨further, -, reached⟩ := leads
  obtain ⟨further', -, reached'⟩ := leads'
  rw [child?_iff found] at edge edge'
  rw [← find?_append_of_find? edge] at reached
  rw [← find?_append_of_find? edge'] at reached'
  have same := spelled.find?_inj reached reached'
  rw [List.append_assoc, List.append_assoc, List.append_right_inj, List.singleton_append,
    List.singleton_append, List.cons.injEq] at same
  obtain ⟨rfl, -⟩ := same
  exact Option.some.inj (edge.symm.trans edge')

/-- Below a node are the node itself and what is below its edges that hold. -/
theorem descendants_perm (spelled : Spelled trie paths) {path : List α} {node : Nat}
    (found : trie.find? path = some node) {next : List Nat}
    (picks : Picks trie holds node next) :
    (descendants trie holds node).Perm (node :: next.flatMap (descendants trie holds)) := by
  have edges : ∀ child ∈ next, ∃ a, trie.child? node a = some child := by
    intro child listed
    obtain ⟨a, -, edge⟩ := (picks.2 child).mp listed
    exact ⟨a, edge⟩
  have below : ∀ child ∈ next, ∀ other,
      other ∈ descendants trie holds child ↔ Leads trie holds child other := by
    intro child listed other
    obtain ⟨a, edge⟩ := edges child listed
    exact spelled.mem_descendants ((child?_iff found a child).mp edge) other
  have members : ∀ other, other ∈ next.flatMap (descendants trie holds) ↔
      ∃ child ∈ next, Leads trie holds child other := by
    intro other
    rw [List.mem_flatMap]
    exact exists_congr fun child => and_congr_right fun listed => below child listed other
  rw [List.perm_ext_iff_of_nodup (nodup_descendants _ _ _)]
  · intro other
    rw [spelled.mem_descendants found, leads_iff picks, List.mem_cons, members]
  · rw [List.nodup_cons, List.nodup_flatMap]
    refine ⟨?_, fun child _ => nodup_descendants _ _ _, ?_⟩
    · -- the path of a node below an edge is longer than the path of the node
      rw [members]
      rintro ⟨child, listed, further, -, reached⟩
      obtain ⟨a, edge⟩ := edges child listed
      rw [child?_iff found] at edge
      rw [← find?_append_of_find? edge] at reached
      have same := congrArg List.length (spelled.find?_inj found reached)
      simp at same
    · refine (List.pairwise_iff_forall_sublist.mpr ?_)
      intro child child' sub other mem mem'
      have listed : child ∈ next := sub.subset (by simp)
      have listed' : child' ∈ next := sub.subset (by simp)
      obtain ⟨a, edge⟩ := edges child listed
      obtain ⟨a', edge'⟩ := edges child' listed'
      have same := spelled.child_unique found edge edge' ((below child listed other).mp mem)
        ((below child' listed' other).mp mem')
      have distinct := List.pairwise_iff_forall_sublist.mp picks.1 sub
      exact distinct same

end Spelled

/-- Whatever its order, a walk visits each node below the waiting ones once. -/
theorem Visits.perm_flatMap {trie : Trie ε μ} {paths : List (List α)}
    (spelled : Spelled trie paths) {holds : α → Bool} {waiting visited : List Nat}
    (run : Visits trie holds waiting visited)
    (known : ∀ node ∈ waiting, ∃ path, trie.find? path = some node) :
    visited.Perm (waiting.flatMap (descendants trie holds)) := by
  induction run with
  | done => exact .nil
  | @visit waiting rest next visited node order picks run ih =>
    obtain ⟨path, found⟩ := known node (order.symm.subset (by simp))
    have known' : ∀ other ∈ next ++ rest, ∃ path, trie.find? path = some other := by
      intro other listed
      rcases List.mem_append.mp listed with listed | listed
      · obtain ⟨a, -, edge⟩ := (picks.2 other).mp listed
        exact ⟨path ++ [a], (Spelled.child?_iff found a other).mp edge⟩
      · exact known other (order.symm.subset (List.mem_cons_of_mem _ listed))
    have step := (ih known').cons node
    rw [List.flatMap_append, ← List.cons_append] at step
    have whole := (spelled.descendants_perm found picks).symm.append_right
      (rest.flatMap (descendants trie holds))
    rw [← List.flatMap_cons] at whole
    exact step.trans (whole.trans (order.symm.flatMap_right _))

/-- A walk from the root visits the ends of the paths that hold, each of them once. -/
theorem Visits.perm_root {trie : Trie ε μ} {paths : List (List α)} (spelled : Spelled trie paths)
    {holds : α → Bool} {visited : List Nat} (run : Visits trie holds [root] visited) :
    visited.Perm (descendants trie holds root) := by
  have known : ∀ node ∈ [root], ∃ path, trie.find? path = some node := by
    intro node listed
    rw [List.mem_singleton] at listed
    subst listed
    exact ⟨[], find?_nil trie⟩
  have perm := run.perm_flatMap spelled known
  rwa [List.flatMap_cons, List.flatMap_nil, List.append_nil] at perm

theorem Visits.mem_iff {trie : Trie ε μ} {paths : List (List α)} (spelled : Spelled trie paths)
    {holds : α → Bool} {visited : List Nat} (run : Visits trie holds [root] visited) (node : Nat) :
    node ∈ visited ↔ ∃ path : List α, path.all holds = true ∧ trie.find? path = some node := by
  rw [(run.perm_root spelled).mem_iff, spelled.mem_descendants (find?_nil trie)]
  exact Iff.rfl

/-- The number of visits is the number of paths that hold. -/
theorem Visits.length_eq {trie : Trie ε μ} {paths : List (List α)} (spelled : Spelled trie paths)
    {holds : α → Bool} {visited : List Nat} (run : Visits trie holds [root] visited) :
    visited.length = (paths.filter (List.all · holds)).length := by
  have distinct : visited.Nodup :=
    (run.perm_root spelled).nodup_iff.mpr (nodup_descendants _ _ _)
  have ends : ∀ node ∈ visited, ∃ path : List α, path.all holds = true ∧
      paths[node]? = some path := by
    intro node listed
    obtain ⟨path, held, found⟩ := (run.mem_iff spelled node).mp listed
    exact ⟨path, held, (spelled.find?_iff path node).mp found⟩
  have perm : (visited.map fun node => paths[node]?.getD []).Perm
      (paths.filter (List.all · holds)) := by
    rw [List.perm_ext_iff_of_nodup]
    · intro path
      rw [List.mem_map, List.mem_filter, spelled.mem_iff]
      constructor
      · intro h
        obtain ⟨node, listed, same⟩ := h
        obtain ⟨path', held, found⟩ := ends node listed
        rw [found, Option.getD_some] at same
        subst same
        exact ⟨⟨node, (spelled.find?_iff _ _).mpr found⟩, held⟩
      · intro h
        obtain ⟨⟨node, found⟩, held⟩ := h
        refine ⟨node, (run.mem_iff spelled node).mpr ⟨path, held, found⟩, ?_⟩
        rw [(spelled.find?_iff _ _).mp found, Option.getD_some]
    · apply List.Nodup.map_on _ distinct
      intro node listed other listed' same
      obtain ⟨path, -, found⟩ := ends node listed
      obtain ⟨path', -, found'⟩ := ends other listed'
      rw [found, found', Option.getD_some, Option.getD_some] at same
      subst same
      rw [← spelled.find?_iff] at found found'
      exact Option.some.inj (found.symm.trans found')
    · exact spelled.nodup.filter _
  rw [← perm.length_eq, List.length_map]

/-! ## Going from generation to generation -/

/-- The nodes of one generation may be visited one after the other. -/
theorem Visits.generation {trie : Trie ε μ} {holds : α → Bool} {follow : ε → List Nat}
    {nodes : List Nat} (picks : ∀ node ∈ nodes, Picks trie holds node (follow (trie.edges node)))
    {later visited : List Nat}
    (run : Visits trie holds (later ++ nodes.flatMap fun node => follow (trie.edges node))
      visited) : Visits trie holds (nodes ++ later) (nodes ++ visited) := by
  induction nodes generalizing later with
  | nil => simpa using run
  | cons node nodes ih =>
    rw [List.flatMap_cons, ← List.append_assoc] at run
    have rest := ih (fun other listed => picks other (List.mem_cons_of_mem _ listed)) run
    refine .visit (List.Perm.refl _) (picks node (by simp)) (rest.of_perm ?_)
    rw [← List.append_assoc nodes]
    exact List.perm_append_comm

theorem Spelled.length_lt_size {trie : Trie ε μ} {paths : List (List α)}
    (spelled : Spelled trie paths) {path : List α} {node : Nat}
    (found : trie.find? path = some node) : path.length < trie.size := by
  have listed : path ∈ paths := spelled.mem_iff.mpr ⟨node, found⟩
  have distinct : ((List.range (path.length + 1)).map path.take).Nodup := by
    apply List.Nodup.map_on _ List.nodup_range
    intro i hi j hj same
    rw [List.mem_range] at hi hj
    have lengths := congrArg List.length same
    rw [List.length_take, List.length_take] at lengths
    omega
  have inside : (List.range (path.length + 1)).map path.take ⊆ paths := by
    intro beginning mem
    obtain ⟨count, -, rfl⟩ := List.mem_map.mp mem
    exact spelled.mem_of_prefix listed (List.take_prefix count path)
  have bound := (distinct.subperm inside).length_le
  rw [List.length_map, List.length_range, spelled.length_eq] at bound
  omega

theorem visits_reachFrom {trie : Trie ε μ} {paths : List (List α)} (spelled : Spelled trie paths)
    {holds : α → Bool} {follow : ε → List Nat}
    (picks : ∀ path node, trie.find? path = some node →
      Picks trie holds node (follow (trie.edges node)))
    {generations : Nat} {nodes : List Nat}
    (deep : ∀ node ∈ nodes, ∃ path, trie.find? path = some node ∧
      trie.size ≤ path.length + generations) :
    Visits trie holds nodes (trie.reachFrom follow generations nodes) := by
  induction generations generalizing nodes with
  | zero =>
    cases nodes with
    | nil => exact .done
    | cons node nodes =>
      obtain ⟨path, found, bound⟩ := deep node (by simp)
      have := spelled.length_lt_size found
      omega
  | succ generations ih =>
    cases nodes with
    | nil => exact .done
    | cons node nodes =>
      have picked : ∀ other ∈ node :: nodes,
          Picks trie holds other (follow (trie.edges other)) := by
        intro other listed
        obtain ⟨path, found, -⟩ := deep other listed
        exact picks path other found
      have run : Visits trie holds
          ([] ++ (node :: nodes).flatMap fun node => follow (trie.edges node))
          (trie.reachFrom follow generations
            ((node :: nodes).flatMap fun node => follow (trie.edges node))) := by
        apply ih
        intro child mem
        obtain ⟨parent, listed, mem⟩ := List.mem_flatMap.mp mem
        obtain ⟨path, found, bound⟩ := deep parent listed
        obtain ⟨a, -, edge⟩ := ((picks path parent found).2 child).mp mem
        refine ⟨path ++ [a], (Spelled.child?_iff found a child).mp edge, ?_⟩
        rw [List.length_append, List.length_singleton]
        omega
      have all := Visits.generation picked run
      rwa [List.append_nil] at all

/-- Going from generation to generation is a walk. -/
theorem visits_reach {trie : Trie ε μ} {paths : List (List α)} (spelled : Spelled trie paths)
    {holds : α → Bool} {follow : ε → List Nat}
    (picks : ∀ path node, trie.find? path = some node →
      Picks trie holds node (follow (trie.edges node))) :
    Visits trie holds [root] (trie.reach follow) := by
  apply visits_reachFrom spelled picks
  intro node listed
  rw [List.mem_singleton] at listed
  subst listed
  exact ⟨[], find?_nil trie, by simp⟩

end LiteralLogic.Trie
