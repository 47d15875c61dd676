import LiteralLogic.Automaton.Transitions
import LiteralLogic.Proofs.Automaton.Patterns
import LiteralLogic.Proofs.Automaton.Suffixes

/-!
# Rows of transitions are maps

The transitions of a state are strictly ascending by their bytes, so that a binary search finds
the transition over a byte wherever there is one (`goto_eq_getElem?`), and a new transition is
put where the row stays ascending (`pairwise_insert`).

A trie that keeps its transitions in rows therefore grows in step with one that keeps them in
maps: at every state the row lists the map (`SameTransitions.insertAll`).
-/

namespace LiteralLogic

namespace TransitionRow

/-- The bytes of the transitions are strictly ascending. -/
def Ascending (entries : Array (UInt8 × Nat)) : Prop :=
  entries.toList.Pairwise (·.1 < ·.1)

section

variable {entries : Array (UInt8 × Nat)} {i j state state' : Nat} {label label' : UInt8}

theorem Ascending.label_lt (ascending : Ascending entries)
    (known : entries[i]? = some (label, state)) (known' : entries[j]? = some (label', state'))
    (less : i < j) : label < label' := by
  obtain ⟨inside, here⟩ := Array.getElem?_eq_some_iff.mp known
  obtain ⟨inside', here'⟩ := Array.getElem?_eq_some_iff.mp known'
  have apart := List.pairwise_iff_getElem.mp ascending i j inside inside' less
  simpa [here, here'] using apart

theorem Ascending.label_le (ascending : Ascending entries)
    (known : entries[i]? = some (label, state)) (known' : entries[j]? = some (label', state'))
    (le : i ≤ j) : label ≤ label' := by
  rcases Nat.lt_or_eq_of_le le with less | rfl
  · exact UInt8.le_of_lt (ascending.label_lt known known' less)
  · rw [known] at known'
    cases known'
    exact UInt8.le_refl label

end

/-! ## Searching -/

/-- What is found is a transition over the byte. -/
theorem mem_of_search {entries : Array (UInt8 × Nat)} {byte : UInt8} {low high next : Nat}
    (found : search entries byte low high = some next) : (byte, next) ∈ entries.toList := by
  fun_induction search entries byte low high with
  | case1 _ _ _ _ _ _ _ _ ih => exact ih found
  | case2 _ _ _ _ _ _ _ _ _ ih => exact ih found
  | case3 low high _ middle label next' here notBelow notAbove =>
    cases found
    obtain rfl : label = byte :=
      UInt8.le_antisymm (UInt8.not_lt.mp notAbove) (UInt8.not_lt.mp notBelow)
    exact Array.mem_toList_iff.mpr (Array.mem_of_getElem? here)
  | case4 => cases found
  | case5 => cases found

/-- A transition that lies between the bounds is found. -/
theorem Ascending.search_of_getElem? {entries : Array (UInt8 × Nat)}
    (ascending : Ascending entries) {byte : UInt8} {next place : Nat}
    (listed : entries[place]? = some (byte, next)) {low high : Nat} (above : low ≤ place)
    (below : place < high) (inside : high ≤ entries.size) :
    search entries byte low high = some next := by
  fun_induction search entries byte low high with
  | case1 low high _ middle label other here less ih =>
    have before : middle < place := by
      by_contra later
      have ordered := ascending.label_le listed here (Nat.le_of_not_lt later)
      exact UInt8.not_lt.mpr ordered less
    exact ih before below inside
  | case2 low high _ middle label other here _ less ih =>
    have behind : place < middle := by
      by_contra earlier
      have ordered := ascending.label_le here listed (Nat.le_of_not_lt earlier)
      exact UInt8.not_lt.mpr ordered less
    exact ih above behind (by omega)
  | case3 low high _ middle label other here notBelow notAbove =>
    rcases Nat.lt_trichotomy place middle with earlier | rfl | later
    · exact absurd (ascending.label_lt listed here earlier) notAbove
    · rw [listed] at here
      cases here
      rfl
    · exact absurd (ascending.label_lt here listed later) notBelow
  | case4 low high _ middle missing =>
    rw [Array.getElem?_eq_none_iff] at missing
    omega
  | case5 => omega

/-! ## Inserting -/

/-- The transitions before the partition point are those over smaller bytes. -/
theorem Ascending.lt_partitionPoint_iff {entries : Array (UInt8 × Nat)}
    (ascending : Ascending entries) {byte : UInt8} {low high : Nat} (inside : high ≤ entries.size)
    (below : ∀ i label next, entries[i]? = some (label, next) → i < low → label < byte)
    (above : ∀ i label next, entries[i]? = some (label, next) → high ≤ i → byte ≤ label)
    {i next : Nat} {label : UInt8} (known : entries[i]? = some (label, next)) :
    i < partitionPoint entries byte low high ↔ label < byte := by
  fun_induction partitionPoint entries byte low high with
  | case1 low high _ middle label' other here less ih =>
    refine ih inside (fun j label next known before => ?_) above
    have ordered := ascending.label_le known here (Nat.le_of_lt_succ before)
    exact UInt8.lt_of_le_of_lt ordered less
  | case2 low high _ middle label' other here notLess ih =>
    refine ih (by omega) below fun j label next known behind => ?_
    have ordered := ascending.label_le here known behind
    exact UInt8.le_trans (UInt8.not_lt.mp notLess) ordered
  | case3 low high _ middle missing =>
    rw [Array.getElem?_eq_none_iff] at missing
    omega
  | case4 low high closed =>
    constructor
    · exact below i label next known
    · intro less
      by_contra behind
      exact UInt8.not_lt.mpr (above i label next known (by omega)) less

/-- A transition over a byte that the row lacks is put behind all those over smaller bytes and
before all the others. -/
theorem place_spec {row : TransitionRow} (ascending : Ascending row.entries) {byte : UInt8}
    (absent : ∀ next, (byte, next) ∉ row.entries.toList) :
    (∀ entry ∈ row.entries.toList.take (row.place byte), entry.1 < byte) ∧
      ∀ entry ∈ row.entries.toList.drop (row.place byte), byte < entry.1 := by
  have before : ∀ i label other, row.entries.toList[i]? = some (label, other) →
      (i < row.place byte ↔ label < byte) := by
    intro i label other known
    rw [Array.getElem?_toList] at known
    refine ascending.lt_partitionPoint_iff (Nat.le_refl _) ?_ ?_ known
    · intro j _ _ _ less
      cases less
    · intro j _ _ known beyond
      rw [Array.getElem?_eq_none beyond] at known
      cases known
  constructor
  · intro (label, other) listed
    obtain ⟨i, inside, here⟩ := List.mem_take_iff_getElem.mp listed
    rw [Nat.lt_min] at inside
    exact (before i label other (List.getElem?_eq_some_iff.mpr ⟨inside.2, here⟩)).mp inside.1
  · intro (label, other) listed
    obtain ⟨i, inside, here⟩ := List.mem_drop_iff_getElem.mp listed
    have known := List.getElem?_eq_some_iff.mpr ⟨by omega, here⟩
    have notLess : ¬ label < byte := by
      rw [← before _ label other known]
      omega
    refine UInt8.lt_of_le_of_ne (UInt8.not_lt.mp notLess) ?_
    rintro rfl
    exact absent other (List.mem_of_getElem? known)

/-- The row stays ascending. -/
theorem pairwise_insert {row : TransitionRow} (ascending : Ascending row.entries) {byte : UInt8}
    (absent : ∀ next, (byte, next) ∉ row.entries.toList) (next : Nat) :
    Ascending (row.insert byte next).entries := by
  obtain ⟨smaller, larger⟩ := place_spec ascending absent
  rw [Ascending, insert, List.pairwise_append, List.pairwise_cons]
  refine ⟨ascending.sublist (List.take_sublist ..),
    ⟨larger, ascending.sublist (List.drop_sublist ..)⟩, ?_⟩
  intro entry early entry' late
  rcases List.mem_cons.mp late with rfl | late
  · exact smaller entry early
  · exact UInt8.lt_trans (smaller entry early) (larger entry' late)

/-! ## Rows and maps -/

/-- A row lists a map in the order of the bytes. -/
def Lists (row : TransitionRow) (edges : ByteEdges) : Prop :=
  row.entries.toList = edges.toList

section

variable {row : TransitionRow} {edges : ByteEdges}

theorem Lists.ascending (lists : row.Lists edges) : Ascending row.entries := by
  rw [Ascending, lists]
  exact Std.TreeMap.ordered_keys_toList.imp Std.compare_eq_lt.mp

theorem Lists.mem_iff (lists : row.Lists edges) {byte : UInt8} {next : Nat} :
    (byte, next) ∈ row.entries.toList ↔ edges[byte]? = some next := by
  rw [lists]
  exact Std.TreeMap.mem_toList_iff_getElem?_eq_some

/-- Binary search in the row finds what the map has. -/
theorem Lists.goto_eq (lists : row.Lists edges) (byte : UInt8) : row.goto byte = edges[byte]? := by
  ext next
  rw [← lists.mem_iff]
  constructor
  · exact mem_of_search
  · intro listed
    obtain ⟨place, known⟩ := List.getElem?_of_mem listed
    rw [Array.getElem?_toList] at known
    obtain ⟨inside, -⟩ := Array.getElem?_eq_some_iff.mp known
    exact lists.ascending.search_of_getElem? known (Nat.zero_le place) inside (Nat.le_refl _)

/-- Inserting in a row inserts in the map that it lists. -/
theorem Lists.insert (lists : row.Lists edges) {byte : UInt8} (absent : edges[byte]? = none)
    (next : Nat) : (row.insert byte next).Lists (edges.insert byte next) := by
  have notListed : ∀ other, (byte, other) ∉ row.entries.toList := by
    intro other listed
    rw [lists.mem_iff, absent] at listed
    cases listed
  have entries : (row.insert byte next).entries.toList.Perm ((byte, next) :: edges.toList) := by
    rw [← lists]
    refine List.perm_middle.trans ?_
    rw [List.take_append_drop]
  have map : (edges.insert byte next).toList.Perm ((byte, next) :: edges.toList) := by
    refine Std.TreeMap.toList_insert_perm.trans ?_
    rw [List.filter_eq_self.mpr]
    intro entry listed
    have other : byte ≠ entry.1 := by
      rintro rfl
      exact notListed entry.2 (lists ▸ listed)
    simpa using other
  refine (entries.trans map.symm).eq_of_pairwise ?_ (pairwise_insert lists.ascending notListed next)
    (Std.TreeMap.ordered_keys_toList.imp Std.compare_eq_lt.mp)
  intro entry entry' _ _ less greater
  exact absurd less (UInt8.lt_asymm greater)

end

end TransitionRow

/-! ## Tries with rows -/

/-- At every state the row of one trie lists the map of the other. -/
structure SameTransitions (rows : Trie TransitionRow (List Nat)) (trie : PatternTrie) : Prop where
  size_eq : rows.size = trie.size
  lists : ∀ state, (rows.edges state).Lists (trie.edges state)

namespace SameTransitions

variable {rows : Trie TransitionRow (List Nat)} {trie : PatternTrie}

theorem child?_eq (same : SameTransitions rows trie) (state : Nat) (byte : UInt8) :
    rows.child? state byte = trie.child? state byte :=
  (same.lists state).goto_eq byte

theorem empty : SameTransitions Trie.empty Trie.empty where
  size_eq := rfl
  lists state := by
    cases state <;> rfl

theorem changeMark (same : SameTransitions rows trie) (state : Nat)
    (change : List Nat → List Nat) :
    SameTransitions (rows.changeMark state change) (trie.changeMark state change) where
  size_eq := by rw [Trie.size_changeMark, Trie.size_changeMark, same.size_eq]
  lists other := by
    rw [Trie.edges_changeMark, Trie.edges_changeMark]
    exact same.lists other

theorem grow (same : SameTransitions rows trie) {state : Nat} {byte : UInt8}
    (missing : trie.child? state byte = none) :
    SameTransitions (rows.grow state byte) (trie.grow state byte) where
  size_eq := by rw [Trie.size_grow, Trie.size_grow, same.size_eq]
  lists other := by
    by_cases here : other = state
    · subst here
      by_cases inside : other < trie.size
      · rw [Trie.edges_grow_self inside, Trie.edges_grow_self (same.size_eq ▸ inside), same.size_eq]
        exact (same.lists other).insert missing trie.size
      · have beyond := Nat.le_of_not_lt inside
        rw [Trie.edges_grow_of_size_le beyond, Trie.edges_grow_of_size_le (same.size_eq ▸ beyond)]
        exact same.lists other
    · rw [Trie.edges_grow_of_ne here, Trie.edges_grow_of_ne here]
      exact same.lists other

theorem insertFrom (same : SameTransitions rows trie) (state : Nat)
    (change : List Nat → List Nat) (path : List UInt8) :
    SameTransitions (rows.insertFrom state change path) (trie.insertFrom state change path) := by
  induction path generalizing rows trie state with
  | nil => exact same.changeMark state change
  | cons byte path ih =>
    rw [Trie.insertFrom, Trie.insertFrom, same.child?_eq]
    cases edge : trie.child? state byte with
    | some next => exact ih same next
    | none =>
      rw [same.size_eq]
      exact ih (same.grow edge) trie.size

theorem insertAll (same : SameTransitions rows trie)
    (inserts : List (List UInt8 × (List Nat → List Nat))) :
    SameTransitions (rows.insertAll inserts) (trie.insertAll inserts) := by
  induction inserts generalizing rows trie with
  | nil => exact same
  | cons first inserts ih => exact ih (same.insertFrom Trie.root first.2 first.1)

end SameTransitions

/-- The trie of the patterns, with its transitions in rows. -/
def Automaton.rows (patterns : List (List UInt8)) : Trie TransitionRow (List Nat) :=
  Trie.empty.insertAll (insertions 0 patterns)

theorem Automaton.sameTransitions_rows (patterns : List (List UInt8)) :
    SameTransitions (rows patterns) (ofPatterns patterns).trie := by
  rw [ofPatterns, addPatterns_eq]
  exact SameTransitions.empty.insertAll (insertions 0 patterns)

end LiteralLogic
