import LiteralLogic.Automaton.Occurrences
import LiteralLogic.Proofs.Trie

/-!
# The trie of the patterns

`HoldsPatterns` says what the automaton relies on: the trie has all patterns, and every
state but the root is marked with the patterns that end there, in ascending order.
The trie that is built from the patterns is such a trie (`holdsPatterns_ofPatterns`), and
its paths are the beginnings of the patterns.
-/

namespace LiteralLogic.Automaton

theorem numbersOf_cons (first : List UInt8) (patterns : List (List UInt8)) (pattern : List UInt8) :
    numbersOf (first :: patterns) pattern =
      (if first = pattern then [0] else []) ++ (numbersOf patterns pattern).map (· + 1) := by
  have later : ∀ id, (first :: patterns)[id + 1]? = patterns[id]? := by
    intro id
    rfl
  rw [numbersOf, numbersOf, List.length_cons, List.range_succ_eq_map, List.filter_cons,
    List.filter_map]
  simp only [Function.comp_def, Nat.succ_eq_add_one, later]
  by_cases same : first = pattern <;> simp [same]

theorem pairwise_numbersOf (patterns : List (List UInt8)) (pattern : List UInt8) :
    (numbersOf patterns pattern).Pairwise (· < ·) :=
  List.pairwise_lt_range.filter _

theorem numbersOf_eq_nil {patterns : List (List UInt8)} {pattern : List UInt8}
    (absent : pattern ∉ patterns) : numbersOf patterns pattern = [] := by
  rw [List.eq_nil_iff_forall_not_mem]
  intro id listed
  rw [mem_numbersOf] at listed
  exact absent (List.mem_of_getElem? listed)

theorem emptyPatterns_eq (id : Nat) (patterns : List (List UInt8)) :
    emptyPatterns id patterns = (numbersOf patterns []).map (· + id) := by
  induction patterns generalizing id with
  | nil => rfl
  | cons first patterns ih =>
    have shift : ∀ number, number + (id + 1) = number + 1 + id := by
      intro number
      omega
    rw [numbersOf_cons, List.map_append, List.map_map]
    cases first <;> simp [emptyPatterns, ih, Function.comp_def, shift]

/-- The insertions that put the non-empty patterns, numbered from `id` on, into a trie. -/
def insertions (id : Nat) : List (List UInt8) → List (List UInt8 × (List Nat → List Nat))
  | [] => []
  | [] :: patterns => insertions (id + 1) patterns
  | pattern :: patterns => (pattern, (· ++ [id])) :: insertions (id + 1) patterns

theorem addPatterns_eq (trie : PatternTrie) (id : Nat) (patterns : List (List UInt8)) :
    addPatterns trie id patterns = trie.insertAll (insertions id patterns) := by
  induction patterns generalizing trie id with
  | nil => rfl
  | cons pattern patterns ih =>
    cases pattern with
    | nil => exact ih trie (id + 1)
    | cons byte pattern => exact ih _ (id + 1)

theorem mem_map_insertions {id : Nat} {patterns : List (List UInt8)} {pattern : List UInt8} :
    pattern ∈ (insertions id patterns).map Prod.fst ↔ pattern ∈ patterns ∧ pattern ≠ [] := by
  induction patterns generalizing id with
  | nil => simp [insertions]
  | cons first patterns ih =>
    cases first with
    | nil =>
      rw [insertions, ih, List.mem_cons]
      constructor
      · intro h
        obtain ⟨mem, nonempty⟩ := h
        exact ⟨.inr mem, nonempty⟩
      · intro h
        obtain ⟨mem, nonempty⟩ := h
        exact ⟨mem.resolve_left nonempty, nonempty⟩
    | cons byte first =>
      have nonempty : pattern = byte :: first → pattern ≠ [] := by
        intro same
        simp [same]
      simp only [insertions, List.map_cons, List.mem_cons, ih, or_and_right,
        and_iff_left_of_imp nonempty]

theorem foldl_insertions (id : Nat) (patterns : List (List UInt8)) {pattern : List UInt8}
    (nonempty : pattern ≠ []) (mark : List Nat) :
    ((insertions id patterns).filter (·.1 = pattern)).foldl
        (fun mark insert => insert.2 mark) mark =
      mark ++ (numbersOf patterns pattern).map (· + id) := by
  induction patterns generalizing id mark with
  | nil => simp [insertions, numbersOf]
  | cons first patterns ih =>
    have shift : ∀ number, number + (id + 1) = number + 1 + id := by
      intro number
      omega
    rw [numbersOf_cons, List.map_append, List.map_map]
    cases first with
    | nil => simp [insertions, ih, Function.comp_def, shift, Ne.symm nonempty]
    | cons byte first =>
      by_cases same : byte :: first = pattern <;>
        simp [insertions, ih, Function.comp_def, shift, same]

/-- The trie has the patterns, and its states are marked with the patterns that end there. -/
structure HoldsPatterns (patterns : List (List UInt8)) (trie : PatternTrie) : Prop where
  spelled : ∃ paths, trie.Spelled paths
  complete : ∀ pattern ∈ patterns, ∃ state, trie.find? pattern = some state
  marked : ∀ path state, path ≠ [] → trie.find? path = some state →
    trie.mark state = numbersOf patterns path

/-- The trie of some patterns has their beginnings as its paths. -/
theorem exists_spelled_ofPatterns (patterns : List (List UInt8)) :
    ∃ paths, (ofPatterns patterns).trie.Spelled paths ∧
      ∀ path, path ∈ paths ↔ path = [] ∨ path ∈ Trie.beginnings patterns := by
  obtain ⟨paths, spelled, members, -⟩ :=
    Trie.exists_spelled_insertAll (ε := ByteEdges) (insertions 0 patterns)
  refine ⟨paths, ?_, fun path => ?_⟩
  · rw [ofPatterns, addPatterns_eq]
    exact spelled
  · rw [members, Trie.mem_beginnings, Trie.mem_beginnings]
    apply or_congr_right
    apply and_congr_right
    intro nonempty
    refine exists_congr fun whole => ?_
    rw [mem_map_insertions, and_assoc]
    apply and_congr_right
    intro _
    apply and_iff_right_of_imp
    intro beginning nil
    rw [nil, List.prefix_nil] at beginning
    exact nonempty beginning

/-- The number of states, the root included. -/
theorem stateCount_ofPatterns (patterns : List (List UInt8)) :
    (ofPatterns patterns).stateCount = 1 + (Trie.beginnings patterns).card := by
  rcases exists_spelled_ofPatterns patterns with ⟨paths, spelled, members⟩
  unfold stateCount
  rw [spelled.size_eq members, Nat.add_comm]

theorem holdsPatterns_ofPatterns (patterns : List (List UInt8)) :
    HoldsPatterns patterns (ofPatterns patterns).trie := by
  obtain ⟨paths, spelled, members⟩ := exists_spelled_ofPatterns patterns
  obtain ⟨-, -, -, marks⟩ :=
    Trie.exists_spelled_insertAll (ε := ByteEdges) (insertions 0 patterns)
  refine ⟨⟨paths, spelled⟩, fun pattern listed => ?_, fun path state nonempty found => ?_⟩
  · rw [← spelled.mem_iff, members, Trie.mem_beginnings]
    by_cases nil : pattern = []
    · exact .inl nil
    · exact .inr ⟨nil, pattern, listed, List.prefix_refl pattern⟩
  · have ends : (ofPatterns patterns).trie.markAt path = numbersOf patterns path := by
      rw [ofPatterns, addPatterns_eq, marks, foldl_insertions 0 patterns nonempty]
      exact List.map_id _
    rw [← Trie.markAt_of_find? found, ends]

theorem length_le_foldl_max (patterns : List (List UInt8)) (height : Nat) :
    height ≤ patterns.foldl (fun height pattern => max height pattern.length) height ∧
      ∀ pattern ∈ patterns, pattern.length ≤
        patterns.foldl (fun height pattern => max height pattern.length) height := by
  induction patterns generalizing height with
  | nil => exact ⟨Nat.le_refl height, by simp⟩
  | cons first patterns ih =>
    obtain ⟨above, longest⟩ := ih (max height first.length)
    rw [List.foldl_cons]
    refine ⟨by omega, fun pattern listed => ?_⟩
    rcases List.mem_cons.mp listed with rfl | listed
    · omega
    · exact longest pattern listed

end LiteralLogic.Automaton
