import LiteralLogic.Trie
import Mathlib.Data.Finset.Card
import Mathlib.Data.List.Infix
import Mathlib.Data.List.Nodup

/-!
# The nodes of a trie are paths

`Spelled trie paths` says that the nodes of a trie, in the order of their numbers, are
the ends of the given paths: a path leads to a node exactly if it is listed at the
node's number.  Insertion keeps this (`Spelled.insertAll`): the listed paths become
those of before and all beginnings of the inserted ones, and only the mark at the end
of an inserted path changes.

Hence the size of a trie is one more than the number of distinct non-empty beginnings
of the inserted paths (`size_insertAll`).
-/

namespace LiteralLogic.Trie

variable {ε α μ : Type} [Edges ε α]

/-! ## Following a path -/

theorem edges_of_size_le {trie : Trie ε μ} {node : Nat} (beyond : trie.size ≤ node) :
    trie.edges node = Edges.none := by
  have absent : trie.nodes[node]? = .none := Array.getElem?_eq_none beyond
  simp [edges, absent]

theorem child?_of_size_le [LawfulEdges ε α] {trie : Trie ε μ} {node : Nat}
    (beyond : trie.size ≤ node) (a : α) : trie.child? node a = .none := by
  rw [child?, edges_of_size_le beyond, LawfulEdges.child?_none]

theorem lt_size_of_child? [LawfulEdges ε α] {trie : Trie ε μ} {node next : Nat} {a : α}
    (edge : trie.child? node a = some next) : node < trie.size := by
  by_contra beyond
  rw [child?_of_size_le (Nat.le_of_not_lt beyond)] at edge
  cases edge

theorem findFrom?_append (trie : Trie ε μ) (node : Nat) (path further : List α) :
    trie.findFrom? node (path ++ further) =
      (trie.findFrom? node path).bind fun next => trie.findFrom? next further := by
  induction path generalizing node with
  | nil => rfl
  | cons a path ih =>
    cases edge : trie.child? node a with
    | none => simp [findFrom?, edge]
    | some next => simp [findFrom?, edge, ih]

@[simp]
theorem find?_nil (trie : Trie ε μ) : trie.find? ([] : List α) = some root := rfl

theorem find?_concat (trie : Trie ε μ) (path : List α) (a : α) :
    trie.find? (path ++ [a]) = (trie.find? path).bind fun node => trie.child? node a := by
  have single : ∀ node, trie.findFrom? node [a] = trie.child? node a := by
    intro node
    cases edge : trie.child? node a <;> simp [findFrom?, edge]
  simp [find?, findFrom?_append, single]

/-- The nodes of the trie, in the order of their numbers, are the ends of the paths. -/
structure Spelled (trie : Trie ε μ) (paths : List (List α)) : Prop where
  length_eq : paths.length = trie.size
  find?_iff : ∀ path node, trie.find? path = some node ↔ paths[node]? = some path

namespace Spelled

variable {trie : Trie ε μ} {paths : List (List α)}

theorem nodup (spelled : Spelled trie paths) : paths.Nodup := by
  rw [List.nodup_iff_injective_getElem]
  rintro ⟨i, hi⟩ ⟨j, hj⟩ same
  have left := (spelled.find?_iff paths[i] i).mpr (List.getElem?_eq_getElem hi)
  have right := (spelled.find?_iff paths[j] j).mpr (List.getElem?_eq_getElem hj)
  simp only at same
  rw [same, right] at left
  cases left
  rfl

theorem mem_iff (spelled : Spelled trie paths) {path : List α} :
    path ∈ paths ↔ ∃ node, trie.find? path = some node := by
  simp only [List.mem_iff_getElem?, spelled.find?_iff]

theorem mem_of_prefix (spelled : Spelled trie paths) {path whole : List α}
    (listed : whole ∈ paths) (beginning : path <+: whole) : path ∈ paths := by
  obtain ⟨rest, rfl⟩ := beginning
  obtain ⟨node, found⟩ := spelled.mem_iff.mp listed
  rw [find?, findFrom?_append, Option.bind_eq_some_iff] at found
  obtain ⟨middle, found, _⟩ := found
  exact spelled.mem_iff.mpr ⟨middle, found⟩

theorem lt_size (spelled : Spelled trie paths) {path : List α} {node : Nat}
    (found : trie.find? path = some node) : node < trie.size := by
  rw [spelled.find?_iff] at found
  rw [← spelled.length_eq]
  exact (List.getElem?_eq_some_iff.mp found).1

theorem find?_inj (spelled : Spelled trie paths) {path other : List α} {node : Nat}
    (found : trie.find? path = some node) (found' : trie.find? other = some node) :
    path = other := by
  rw [spelled.find?_iff] at found found'
  exact Option.some.inj (found.symm.trans found')

/-- An edge leads to the node whose path is one label longer. -/
theorem child?_iff {path : List α} {node : Nat} (found : trie.find? path = some node) (a : α)
    (next : Nat) : trie.child? node a = some next ↔ trie.find? (path ++ [a]) = some next := by
  rw [find?_concat, found, Option.bind_some]

end Spelled

/-! ## Changing a mark -/

@[simp]
theorem size_changeMark (trie : Trie ε μ) (node : Nat) (change : μ → μ) :
    (trie.changeMark node change).size = trie.size := by
  simp [changeMark, size]

@[simp]
theorem edges_changeMark (trie : Trie ε μ) (node : Nat) (change : μ → μ) (other : Nat) :
    (trie.changeMark node change).edges other = trie.edges other := by
  by_cases same : node = other
  · subst same
    cases found : trie.nodes[node]? <;>
      simp [changeMark, edges, Array.getElem?_modify, found]
  · simp [changeMark, edges, Array.getElem?_modify, same]

theorem find?_changeMark (trie : Trie ε μ) (node : Nat) (change : μ → μ) (path : List α) :
    (trie.changeMark node change).find? path = trie.find? path := by
  induction path using List.reverseRecOn with
  | nil => rfl
  | append_singleton path a ih =>
    rw [find?_concat, find?_concat, ih]
    simp [child?]

theorem Spelled.changeMark {trie : Trie ε μ} {paths : List (List α)}
    (spelled : Spelled trie paths) (node : Nat) (change : μ → μ) :
    Spelled (trie.changeMark node change) paths where
  length_eq := by rw [spelled.length_eq, size_changeMark]
  find?_iff path other := by rw [find?_changeMark, spelled.find?_iff]

variable [Inhabited μ]

theorem mark_changeMark {trie : Trie ε μ} {node : Nat} (inside : node < trie.size)
    (change : μ → μ) (other : Nat) :
    (trie.changeMark node change).mark other =
      if other = node then change (trie.mark node) else trie.mark other := by
  have found : node < trie.nodes.size := inside
  by_cases same : node = other
  · subst same
    simp [changeMark, mark, Array.getElem_modify, found]
  · simp [changeMark, mark, Array.getElem?_modify, same, Ne.symm same]

/-- The mark at the end of a path, if the trie has the path. -/
def markAt (trie : Trie ε μ) (path : List α) : μ :=
  match trie.find? path with
  | some node => trie.mark node
  | .none => default

theorem markAt_of_find? {trie : Trie ε μ} {path : List α} {node : Nat}
    (found : trie.find? path = some node) : trie.markAt path = trie.mark node := by
  simp [markAt, found]

theorem Spelled.markAt_changeMark [DecidableEq α] {trie : Trie ε μ} {paths : List (List α)}
    (spelled : Spelled trie paths) {path : List α} {node : Nat}
    (found : trie.find? path = some node) (change : μ → μ) (other : List α) :
    (trie.changeMark node change).markAt other =
      if other = path then change (trie.markAt other) else trie.markAt other := by
  have inside := spelled.lt_size found
  cases reached : trie.find? other with
  | none =>
    have ne : other ≠ path := by
      rintro rfl
      rw [found] at reached
      cases reached
    simp [markAt, find?_changeMark, reached, ne]
  | some next =>
    have same : next = node ↔ other = path := by
      refine ⟨fun h => spelled.find?_inj (h ▸ reached) found, ?_⟩
      rintro rfl
      rw [found] at reached
      exact (Option.some.inj reached).symm
    rw [markAt_of_find? reached, markAt_of_find? ((find?_changeMark _ _ _ _).trans reached),
      mark_changeMark inside]
    by_cases h : other = path
    · rw [if_pos h, if_pos (same.mpr h), same.mpr h]
    · rw [if_neg h, if_neg fun hn => h (same.mp hn)]

/-! ## A new node -/

@[simp]
theorem size_grow (trie : Trie ε μ) (node : Nat) (a : α) :
    (trie.grow node a).size = trie.size + 1 := by
  simp [grow, size]

theorem edges_grow_self {trie : Trie ε μ} {node : Nat} (inside : node < trie.size) (a : α) :
    (trie.grow node a).edges node = Edges.add (trie.edges node) a trie.size := by
  have found : node < trie.nodes.size := inside
  simp [grow, edges, Array.getElem?_push, Array.getElem_modify, found, Nat.ne_of_lt found]

theorem edges_grow_of_ne {trie : Trie ε μ} {node other : Nat} (ne : other ≠ node) (a : α) :
    (trie.grow node a).edges other = trie.edges other := by
  by_cases last : other = trie.nodes.size
  · subst last
    simp [grow, edges, freshNode, Array.getElem_push]
  · simp [grow, edges, Array.getElem?_push, Array.getElem?_modify, last, Ne.symm ne]

/-- No node gets an edge if there is none with the number. -/
theorem edges_grow_of_size_le {trie : Trie ε μ} {node : Nat} (beyond : trie.size ≤ node) (a : α)
    (other : Nat) : (trie.grow node a).edges other = trie.edges other := by
  by_cases same : other = node
  · subst same
    have absent : trie.nodes.size ≤ other := beyond
    by_cases last : other = trie.nodes.size
    · subst last
      simp [grow, edges, freshNode, Array.getElem_push]
    · simp [grow, edges, Array.getElem?_push, last, absent]
  · exact edges_grow_of_ne same a

theorem mark_grow (trie : Trie ε μ) (node : Nat) (a : α) (other : Nat) :
    (trie.grow node a).mark other = trie.mark other := by
  by_cases last : other = trie.nodes.size
  · subst last
    simp [grow, mark, freshNode, Array.getElem_push]
  · by_cases same : node = other
    · subst same
      cases found : trie.nodes[node]? <;>
        simp [grow, mark, Array.getElem?_push, Array.getElem?_modify, last, found]
    · simp [grow, mark, Array.getElem?_push, Array.getElem?_modify, last, same]

variable [LawfulEdges ε α]

theorem child?_grow_self {trie : Trie ε μ} {node : Nat} (inside : node < trie.size) (a : α) :
    (trie.grow node a).child? node a = some trie.size := by
  rw [child?, edges_grow_self inside, LawfulEdges.child?_add_self]

theorem child?_grow_of_ne {trie : Trie ε μ} {node other : Nat} {a b : α}
    (inside : node < trie.size) (ne : ¬ (other = node ∧ b = a)) :
    (trie.grow node a).child? other b = trie.child? other b := by
  by_cases same : other = node
  · subst same
    have label : a ≠ b := fun h => ne ⟨rfl, h.symm⟩
    rw [child?, edges_grow_self inside, LawfulEdges.child?_add_of_ne _ _ label, child?]
  · rw [child?, edges_grow_of_ne same, child?]

/-- The only new edge leads to the new node. -/
theorem child?_grow_iff {trie : Trie ε μ} {node : Nat} (inside : node < trie.size) {a : α}
    (missing : trie.child? node a = .none) {other next : Nat} {b : α} :
    (trie.grow node a).child? other b = some next ↔
      trie.child? other b = some next ∨ (other = node ∧ b = a) ∧ next = trie.size := by
  by_cases new : other = node ∧ b = a
  · obtain ⟨rfl, rfl⟩ := new
    rw [child?_grow_self inside, missing]
    simp [eq_comm]
  · rw [child?_grow_of_ne inside new]
    simp [new]

namespace Spelled

variable {trie : Trie ε μ} {paths : List (List α)}

theorem empty : Spelled (Trie.empty : Trie ε μ) [([] : List α)] where
  length_eq := rfl
  find?_iff path node := by
    induction path using List.reverseRecOn generalizing node with
    | nil => cases node <;> simp [root]
    | append_singleton path a ih =>
      have dead : ∀ other, (Trie.empty : Trie ε μ).child? other a = .none := by
        intro other
        have blank : (Trie.empty : Trie ε μ).edges other = Edges.none := by
          cases other <;> simp [Trie.empty, edges, freshNode]
        rw [child?, blank, LawfulEdges.child?_none]
      rw [find?_concat]
      cases node <;> cases (Trie.empty : Trie ε μ).find? path <;> simp [dead]

/-- The only new path is that of the new node. -/
theorem find?_grow_iff (spelled : Spelled trie paths) {path : List α} {node : Nat}
    (found : trie.find? path = some node) {a : α} (missing : trie.child? node a = .none)
    (other : List α) (next : Nat) :
    (trie.grow node a).find? other = some next ↔
      trie.find? other = some next ∨ other = path ++ [a] ∧ next = trie.size := by
  have inside := spelled.lt_size found
  induction other using List.reverseRecOn generalizing next with
  | nil => simp
  | append_singleton other b ih =>
    rw [find?_concat, find?_concat, Option.bind_eq_some_iff, Option.bind_eq_some_iff]
    simp only [ih, child?_grow_iff inside missing]
    constructor
    · intro h
      obtain ⟨last, reached | ⟨-, rfl⟩, edge | ⟨⟨rfl, rfl⟩, rfl⟩⟩ := h
      · exact .inl ⟨last, reached, edge⟩
      · rw [spelled.find?_inj reached found]
        exact .inr ⟨rfl, rfl⟩
      -- no edge leads out of the new node
      · exact absurd (lt_size_of_child? edge) (Nat.lt_irrefl _)
      · exact absurd inside (Nat.lt_irrefl _)
    · intro h
      rcases h with ⟨last, reached, edge⟩ | ⟨same, rfl⟩
      · exact ⟨last, .inl reached, .inl edge⟩
      · obtain ⟨rfl, label⟩ := List.append_inj' same rfl
        cases label
        exact ⟨node, .inl found, .inr ⟨⟨rfl, rfl⟩, rfl⟩⟩

theorem grow (spelled : Spelled trie paths) {path : List α} {node : Nat}
    (found : trie.find? path = some node) {a : α} (missing : trie.child? node a = .none) :
    Spelled (trie.grow node a) (paths ++ [path ++ [a]]) where
  length_eq := by simp [spelled.length_eq]
  find?_iff other next := by
    rw [spelled.find?_grow_iff found missing, spelled.find?_iff, ← spelled.length_eq]
    rcases Nat.lt_trichotomy next paths.length with before | last | beyond
    · rw [List.getElem?_append_left before, or_iff_left fun h => Nat.ne_of_lt before h.2]
    · subst last
      simp [eq_comm]
    · have far : paths.length ≤ next := Nat.le_of_lt beyond
      have place : next - paths.length ≠ 0 := by omega
      rw [List.getElem?_append_right far, List.getElem?_eq_none far, List.getElem?_singleton,
        if_neg place, or_iff_right (by simp)]
      simp [Nat.ne_of_gt beyond]

theorem markAt_grow (spelled : Spelled trie paths) {path : List α} {node : Nat}
    (found : trie.find? path = some node) {a : α} (missing : trie.child? node a = .none)
    (other : List α) : (trie.grow node a).markAt other = trie.markAt other := by
  have paths_iff := spelled.find?_grow_iff found missing other
  cases new : (trie.grow node a).find? other with
  | none =>
    have old : trie.find? other = .none := by
      rw [Option.eq_none_iff_forall_ne_some]
      intro next reached
      rw [(paths_iff next).mpr (.inl reached)] at new
      cases new
    simp [markAt, old, new]
  | some next =>
    rw [markAt_of_find? new, mark_grow]
    rcases (paths_iff next).mp new with old | ⟨rfl, rfl⟩
    · rw [markAt_of_find? old]
    · -- the new node has the default mark
      have old : trie.find? (path ++ [a]) = .none := by
        rw [find?_concat, found, Option.bind_some, missing]
      simp [markAt, old, mark, size]

/-! ## Inserting paths -/

variable [DecidableEq α]

/-- Inserting a path below a node adds the beginnings of the whole path, and changes
the mark at its end only. -/
theorem insertFrom (spelled : Spelled trie paths) {start : List α} {node : Nat}
    (found : trie.find? start = some node) (change : μ → μ) (path : List α) :
    ∃ paths', Spelled (trie.insertFrom node change path) paths' ∧
      (∀ other, other ∈ paths' ↔ other ∈ paths ∨ other <+: start ++ path) ∧
      ∀ other, (trie.insertFrom node change path).markAt other =
        if other = start ++ path then change (trie.markAt other) else trie.markAt other := by
  induction path generalizing trie paths start node with
  | nil =>
    refine ⟨paths, spelled.changeMark node change, fun other => ?_, fun other => ?_⟩
    · have listed : start ∈ paths := spelled.mem_iff.mpr ⟨node, found⟩
      rw [List.append_nil, or_iff_left_of_imp (spelled.mem_of_prefix listed)]
    · rw [List.append_nil]
      exact spelled.markAt_changeMark found change other
  | cons a path ih =>
    rw [List.append_cons]
    cases edge : trie.child? node a with
    | some next =>
      simp only [Trie.insertFrom, edge]
      exact ih spelled ((child?_iff found a next).mp edge)
    | none =>
      simp only [Trie.insertFrom, edge]
      have grown := spelled.grow found edge
      have fresh := (spelled.find?_grow_iff found edge (start ++ [a]) _).mpr (.inr ⟨rfl, rfl⟩)
      obtain ⟨paths', spelled', members, marks⟩ := ih grown fresh
      refine ⟨paths', spelled', fun other => ?_, fun other => ?_⟩
      · rw [members, List.mem_append, List.mem_singleton, or_assoc]
        have beginning : other = start ++ [a] → other <+: start ++ [a] ++ path := by
          rintro rfl
          exact List.prefix_append _ _
        rw [or_iff_right_of_imp beginning]
      · rw [marks, spelled.markAt_grow found edge]

theorem insert (spelled : Spelled trie paths) (path : List α) (change : μ → μ) :
    ∃ paths', Spelled (trie.insert path change) paths' ∧
      (∀ other, other ∈ paths' ↔ other ∈ paths ∨ other <+: path) ∧
      ∀ other, (trie.insert path change).markAt other =
        if other = path then change (trie.markAt other) else trie.markAt other :=
  spelled.insertFrom (find?_nil trie) change path

end Spelled

/-- The trie with several paths inserted, each with its change of the mark at its end. -/
def insertAll (trie : Trie ε μ) (inserts : List (List α × (μ → μ))) : Trie ε μ :=
  inserts.foldl (fun trie insert => trie.insert insert.1 insert.2) trie

theorem Spelled.insertAll [DecidableEq α] {trie : Trie ε μ} {paths : List (List α)}
    (spelled : Spelled trie paths) (inserts : List (List α × (μ → μ))) :
    ∃ paths', Spelled (trie.insertAll inserts) paths' ∧
      (∀ path, path ∈ paths' ↔ path ∈ paths ∨ ∃ insert ∈ inserts, path <+: insert.1) ∧
      ∀ path, (trie.insertAll inserts).markAt path =
        (inserts.filter (·.1 = path)).foldl (fun mark insert => insert.2 mark)
          (trie.markAt path) := by
  induction inserts generalizing trie paths with
  | nil => exact ⟨paths, spelled, by simp, by simp [Trie.insertAll]⟩
  | cons first inserts ih =>
    obtain ⟨between, spelled, members, marks⟩ := spelled.insert first.1 first.2
    obtain ⟨paths', spelled', members', marks'⟩ := ih spelled
    refine ⟨paths', spelled', fun path => ?_, fun path => ?_⟩
    · rw [members', members, List.exists_mem_cons_iff, or_assoc]
    · rw [Trie.insertAll, List.foldl_cons, ← Trie.insertAll, marks', marks]
      by_cases same : first.1 = path
      · simp [same]
      · simp [same, Ne.symm same]

/-! ## Tries of inserted paths -/

/-- The distinct non-empty beginnings of some paths. -/
def beginnings [DecidableEq α] (paths : List (List α)) : Finset (List α) :=
  (paths.flatMap List.inits).toFinset.erase []

theorem mem_beginnings [DecidableEq α] {paths : List (List α)} {path : List α} :
    path ∈ beginnings paths ↔ path ≠ [] ∧ ∃ whole ∈ paths, path <+: whole := by
  simp [beginnings]

/-- The beginnings do not depend on the order of the paths, nor on how often one comes. -/
theorem beginnings_congr [DecidableEq α] {paths paths' : List (List α)}
    (same : ∀ path, path ∈ paths ↔ path ∈ paths') : beginnings paths = beginnings paths' := by
  ext path
  simp only [mem_beginnings, same]

/-- A trie of inserted paths has a node for every beginning of them. -/
theorem exists_spelled_insertAll [DecidableEq α] (inserts : List (List α × (μ → μ))) :
    ∃ paths, Spelled ((Trie.empty : Trie ε μ).insertAll inserts) paths ∧
      (∀ path, path ∈ paths ↔ path = [] ∨ path ∈ beginnings (inserts.map Prod.fst)) ∧
      ∀ path, ((Trie.empty : Trie ε μ).insertAll inserts).markAt path =
        (inserts.filter (·.1 = path)).foldl (fun mark insert => insert.2 mark) default := by
  have start : Spelled (Trie.empty : Trie ε μ) [[]] := Spelled.empty
  obtain ⟨paths, spelled, members, marks⟩ := start.insertAll inserts
  refine ⟨paths, spelled, fun path => ?_, fun path => ?_⟩
  · rw [members, mem_beginnings, List.mem_singleton]
    by_cases nil : path = [] <;> simp [nil]
  · have blank : (Trie.empty : Trie ε μ).markAt path = default := by
      cases found : (Trie.empty : Trie ε μ).find? path with
      | none => simp [markAt, found]
      | some node =>
        rw [markAt_of_find? found]
        cases node <;> simp [mark, Trie.empty, freshNode]
    rw [marks, blank]

omit [Inhabited μ] [LawfulEdges ε α] in
/-- A trie whose paths are the beginnings of some paths has a node for each, and the root. -/
theorem Spelled.size_eq [DecidableEq α] {trie : Trie ε μ} {paths wholes : List (List α)}
    (spelled : Spelled trie paths)
    (members : ∀ path, path ∈ paths ↔ path = [] ∨ path ∈ beginnings wholes) :
    trie.size = (beginnings wholes).card + 1 := by
  have nodes : paths.toFinset = Insert.insert [] (beginnings wholes) := by
    ext path
    rw [List.mem_toFinset, members, Finset.mem_insert]
  have fresh : [] ∉ beginnings wholes := by simp [beginnings]
  rw [← spelled.length_eq, ← List.toFinset_card_of_nodup spelled.nodup, nodes,
    Finset.card_insert_of_notMem fresh]

/-- The size of a trie of inserted paths, the root included. -/
theorem size_insertAll [DecidableEq α] (inserts : List (List α × (μ → μ))) :
    ((Trie.empty : Trie ε μ).insertAll inserts).size =
      (beginnings (inserts.map Prod.fst)).card + 1 := by
  obtain ⟨paths, spelled, members, -⟩ := exists_spelled_insertAll (ε := ε) inserts
  exact spelled.size_eq members

/-! ## Paths with other labels -/

section

variable {β : Type} {relabel : α → β} {labels : Set α}

/-- Paths are told apart by their new labels if the labels are. -/
theorem injOn_map (inj : Set.InjOn relabel labels) :
    Set.InjOn (List.map relabel) {path | ∀ a ∈ path, a ∈ labels} := by
  intro path known
  induction path with
  | nil =>
    intro other _ same
    exact (List.map_eq_nil_iff.mp same.symm).symm
  | cons a path ih =>
    intro other known' same
    rcases List.forall_mem_cons.mp known with ⟨ofFirst, ofRest⟩
    cases other with
    | nil => cases same
    | cons b other =>
      rcases List.forall_mem_cons.mp known' with ⟨ofFirst', ofRest'⟩
      rcases List.cons.inj same with ⟨first, rest⟩
      rw [inj ofFirst ofFirst' first, ih ofRest ofRest' rest]

/-- The beginnings of relabelled paths are the relabelled beginnings. -/
theorem beginnings_map [DecidableEq α] [DecidableEq β] (relabel : α → β)
    (paths : List (List α)) :
    beginnings (paths.map (List.map relabel)) = (beginnings paths).image (List.map relabel) := by
  ext path
  simp only [Finset.mem_image, mem_beginnings, List.mem_map, exists_exists_and_eq_and,
    List.prefix_map_iff]
  constructor
  · rintro ⟨nonempty, whole, mem, beginning, isBeginning, rfl⟩
    exact ⟨beginning, ⟨fun nil => nonempty (by rw [nil]; rfl), whole, mem, isBeginning⟩, rfl⟩
  · rintro ⟨beginning, ⟨nonempty, whole, mem, isBeginning⟩, rfl⟩
    exact ⟨mt List.map_eq_nil_iff.mp nonempty, whole, mem, beginning, isBeginning, rfl⟩

/-- Beginnings are told apart by their new labels if the labels of the paths are. -/
theorem injOn_beginnings [DecidableEq α] {paths : List (List α)} (inj : Set.InjOn relabel labels)
    (known : ∀ path ∈ paths, ∀ a ∈ path, a ∈ labels) :
    Set.InjOn (List.map relabel) (beginnings paths : Set (List α)) := by
  apply (injOn_map inj).mono
  intro path mem a inPath
  rcases mem_beginnings.mp mem with ⟨-, whole, listed, isBeginning⟩
  exact known whole listed a (isBeginning.subset inPath)

end

end LiteralLogic.Trie
