import LiteralLogic.Proofs.Automaton.Suffixes

/-!
# What a scan reports

After a part of the haystack has been read, the automaton is in the state of the longest
suffix of that part that begins a pattern.  `Reading` states this, `Reading.step` is its
preservation by one byte, and `fold_eq` follows for whole haystacks: a scan goes through
`occurrences`, whatever is done with the patterns that are reported.
-/

namespace LiteralLogic.Automaton

/-- The automaton is in this state after reading the text. -/
def Reading (patterns : List (List UInt8)) (text : List UInt8) (state : Nat) : Prop :=
  ∃ rest, suffixStates (ofPatterns patterns).trie text = state :: rest

theorem Reading.start (patterns : List (List UInt8)) : Reading patterns [] Trie.root :=
  ⟨[], rfl⟩

theorem Reading.linked {patterns : List (List UInt8)} {text : List UInt8} {state : Nat}
    (reading : Reading patterns text state) :
    state :: (ofPatterns patterns).links.suffixesOf state =
        suffixStates (ofPatterns patterns).trie text ∧
      (ofPatterns patterns).links.outputsOf state = patternsEnding patterns text := by
  obtain ⟨rest, states⟩ := reading
  obtain ⟨path, state', maximal, found, states'⟩ :=
    exists_suffixStates (ofPatterns patterns).trie text
  rw [states] at states'
  obtain ⟨rfl, rfl⟩ := List.cons.inj states'
  have links := linked_ofPatterns patterns found
  constructor
  · rw [states, links.suffixes]
  · rw [links.outputs, patternsEnding_eq (holdsPatterns_ofPatterns patterns) maximal]

/-- One byte further. -/
theorem Reading.step {patterns : List (List UInt8)} {text : List UInt8} {state : Nat}
    (reading : Reading patterns text state) (byte : UInt8) :
    Reading patterns (text ++ [byte]) ((ofPatterns patterns).step state byte) := by
  rw [Automaton.step, reading.linked.1]
  exact follow_suffixStates _ byte text

theorem foldl_reading {β : Type} (patterns : List (List UInt8)) (combine : β → Nat → β)
    (haystack : List UInt8) {text : List UInt8} {state : Nat}
    (reading : Reading patterns text state) (found : β) :
    (haystack.foldl (fun (state, found) byte =>
      ((ofPatterns patterns).step state byte,
        ((ofPatterns patterns).links.outputsOf
          ((ofPatterns patterns).step state byte)).foldl combine found)) (state, found)).2 =
      ((List.range haystack.length).flatMap fun last =>
        patternsEnding patterns (text ++ haystack.take (last + 1))).foldl combine found := by
  induction haystack generalizing text state found with
  | nil => rfl
  | cons byte haystack ih =>
    have next := reading.step byte
    have rest : ∀ last, text ++ (byte :: haystack).take (last + 1 + 1) =
        text ++ [byte] ++ haystack.take (last + 1) := by
      intro last
      simp
    rw [List.foldl_cons, ih next, next.linked.2, List.length_cons, List.range_succ_eq_map,
      List.flatMap_cons, List.flatMap_map, List.foldl_append]
    simp only [Nat.succ_eq_add_one, rest]
    rfl

/-- A scan combines the occurrences of the patterns in their order. -/
theorem fold_eq {β : Type} (patterns : List (List UInt8)) (combine : β → Nat → β) (initial : β)
    (haystack : List UInt8) :
    (ofPatterns patterns).fold combine initial haystack =
      (occurrences patterns haystack).foldl combine initial := by
  have empties : (ofPatterns patterns).always = numbersOf patterns [] := by
    show emptyPatterns 0 patterns = _
    rw [emptyPatterns_eq]
    exact List.map_id _
  rw [occurrences, List.foldl_append, ← empties]
  exact foldl_reading patterns combine haystack (Reading.start patterns) _

/-- The patterns that occur somewhere. -/
theorem mem_occurrences {patterns : List (List UInt8)} {haystack : List UInt8} {id : Nat} :
    id ∈ occurrences patterns haystack ↔
      ∃ pattern, patterns[id]? = some pattern ∧ pattern <:+: haystack := by
  rw [occurrences, List.mem_append, mem_numbersOf, List.mem_flatMap]
  constructor
  · intro reported
    rcases reported with known | ⟨last, -, listed⟩
    · exact ⟨[], known, List.nil_infix⟩
    · obtain ⟨pattern, known, -, suffix⟩ := mem_patternsEnding.mp listed
      exact ⟨pattern, known, suffix.isInfix.trans (List.take_prefix _ _).isInfix⟩
  · intro occurs
    obtain ⟨pattern, known, before, after, rfl⟩ := occurs
    by_cases empty : pattern = []
    · exact .inl (empty ▸ known)
    · have positive := List.length_pos_iff.mpr empty
      refine .inr ⟨before.length + pattern.length - 1, ?_, ?_⟩
      · simp only [List.mem_range, List.length_append]
        omega
      · have stop : before.length + pattern.length - 1 + 1 = (before ++ pattern).length := by
          rw [List.length_append]
          omega
        rw [stop, List.take_left]
        exact mem_patternsEnding.mpr ⟨pattern, known, empty, List.suffix_append _ _⟩

theorem scan_eq (patterns : List (List UInt8)) (haystack : List UInt8) :
    (ofPatterns patterns).scan haystack = occurrences patterns haystack := by
  have reversed : ∀ (ids done : List Nat),
      (ids.foldl (fun found id => id :: found) done).reverse = done.reverse ++ ids := by
    intro ids done
    simp
  rw [scan, fold_eq, reversed, List.reverse_nil, List.nil_append]

/-! ## The order of the reports -/

/-- The order of reports at one place: longer patterns first, equal ones by their numbers. -/
def Precedes (patterns : List (List UInt8)) (id id' : Nat) : Prop :=
  ∃ pattern pattern', patterns[id]? = some pattern ∧ patterns[id']? = some pattern' ∧
    (pattern'.length < pattern.length ∨ pattern = pattern' ∧ id < id')

theorem pairwise_patternsEnding (patterns : List (List UInt8)) (text : List UInt8) :
    (patternsEnding patterns text).Pairwise (Precedes patterns) := by
  induction text with
  | nil => exact .nil
  | cons byte text ih =>
    rw [patternsEnding, List.pairwise_append]
    refine ⟨?_, ih, fun id listed id' listed' => ?_⟩
    · refine (pairwise_numbersOf patterns _).imp_of_mem fun listed listed' less => ?_
      rw [mem_numbersOf] at listed listed'
      exact ⟨_, _, listed, listed', .inr ⟨rfl, less⟩⟩
    · obtain ⟨pattern', known', -, suffix⟩ := mem_patternsEnding.mp listed'
      refine ⟨_, _, mem_numbersOf.mp listed, known', .inl ?_⟩
      have bound := suffix.length_le
      rw [List.length_cons]
      omega

theorem nodup_patternsEnding (patterns : List (List UInt8)) (text : List UInt8) :
    (patternsEnding patterns text).Nodup := by
  refine (pairwise_patternsEnding patterns text).imp fun precedes same => ?_
  subst same
  obtain ⟨pattern, pattern', known, known', order⟩ := precedes
  rw [known] at known'
  cases known'
  rcases order with shorter | ⟨-, less⟩
  · exact Nat.lt_irrefl _ shorter
  · exact Nat.lt_irrefl _ less

theorem mem_patternsEnding_of_known {patterns : List (List UInt8)} {id : Nat}
    {pattern : List UInt8} (known : patterns[id]? = some pattern) (nonempty : pattern ≠ [])
    (text : List UInt8) : id ∈ patternsEnding patterns text ↔ pattern <:+ text := by
  rw [mem_patternsEnding]
  constructor
  · intro listed
    obtain ⟨pattern', known', -, suffix⟩ := listed
    rw [known] at known'
    cases known'
    exact suffix
  · intro suffix
    exact ⟨pattern, known, nonempty, suffix⟩

theorem count_flatMap_of_nodup {α : Type} {f : α → List Nat} (nodup : ∀ a, (f a).Nodup)
    (id : Nat) (l : List α) :
    (l.flatMap f).count id = l.countP fun a => decide (id ∈ f a) := by
  induction l with
  | nil => rfl
  | cons a l ih =>
    rw [List.flatMap_cons, List.count_append, ih, List.countP_cons, (nodup a).count,
      Nat.add_comm]
    simp

/-- A pattern is reported as often as there are ends of it in the haystack. -/
theorem count_occurrences {patterns : List (List UInt8)} {id : Nat} {pattern : List UInt8}
    (known : patterns[id]? = some pattern) (nonempty : pattern ≠ []) (haystack : List UInt8) :
    (occurrences patterns haystack).count id =
      (List.range haystack.length).countP fun last =>
        decide (pattern <:+ haystack.take (last + 1)) := by
  have absent : (numbersOf patterns []).count id = 0 := by
    rw [List.count_eq_zero, mem_numbersOf, known, Option.some.injEq]
    exact nonempty
  rw [occurrences, List.count_append, absent, Nat.zero_add,
    count_flatMap_of_nodup fun last => nodup_patternsEnding patterns _]
  simp only [mem_patternsEnding_of_known known nonempty]

theorem count_occurrences_empty {patterns : List (List UInt8)} {id : Nat}
    (known : patterns[id]? = some []) (haystack : List UInt8) :
    (occurrences patterns haystack).count id = 1 := by
  have never : ∀ text, id ∉ patternsEnding patterns text := by
    intro text listed
    obtain ⟨pattern, known', nonempty, -⟩ := mem_patternsEnding.mp listed
    rw [known] at known'
    cases known'
    exact nonempty rfl
  have nodup := (pairwise_numbersOf patterns []).imp fun less => Nat.ne_of_lt less
  rw [occurrences, List.count_append, List.count_eq_one_of_mem nodup (mem_numbersOf.mpr known),
    count_flatMap_of_nodup fun last => nodup_patternsEnding patterns _]
  simp [never]

/-- A scan reports the empty patterns in ascending order, and then at every end of a
beginning of the haystack the other patterns that end there, longer ones first and equal
ones in ascending order; every pattern as often as it occurs, and nothing else. -/
theorem scan_reports (patterns : List (List UInt8)) (haystack : List UInt8) :
    (ofPatterns patterns).scan haystack =
        numbersOf patterns [] ++ (List.range haystack.length).flatMap
          (fun last => patternsEnding patterns (haystack.take (last + 1))) ∧
      (numbersOf patterns []).Pairwise (· < ·) ∧
      (∀ id, id ∈ numbersOf patterns [] ↔ patterns[id]? = some []) ∧
      (∀ text, (patternsEnding patterns text).Pairwise (Precedes patterns) ∧
        ∀ id, id ∈ patternsEnding patterns text ↔
          ∃ pattern, patterns[id]? = some pattern ∧ pattern ≠ [] ∧ pattern <:+ text) ∧
      (∀ id, patterns[id]? = some [] → ((ofPatterns patterns).scan haystack).count id = 1) ∧
      (∀ id pattern, patterns[id]? = some pattern → pattern ≠ [] →
        ((ofPatterns patterns).scan haystack).count id =
          (List.range haystack.length).countP fun last =>
            decide (pattern <:+ haystack.take (last + 1))) ∧
      ∀ id ∈ (ofPatterns patterns).scan haystack, id < patterns.length := by
  simp only [scan_eq]
  refine ⟨rfl, pairwise_numbersOf patterns [], fun _ => mem_numbersOf,
    fun text => ⟨pairwise_patternsEnding patterns text, fun _ => mem_patternsEnding⟩,
    fun _ known => count_occurrences_empty known haystack,
    fun _ _ known nonempty => count_occurrences known nonempty haystack, ?_⟩
  intro id reported
  rw [occurrences, List.mem_append, mem_numbersOf, List.mem_flatMap] at reported
  rcases reported with known | ⟨last, -, listed⟩
  · exact (List.getElem?_eq_some_iff.mp known).1
  · obtain ⟨pattern, known, -, -⟩ := mem_patternsEnding.mp listed
    exact (List.getElem?_eq_some_iff.mp known).1

/-- Nested and overlapping occurrences. -/
example : (ofPatterns [[97], [], [97, 98, 97], [98, 97], [97]]).scan [97, 98, 97, 98, 97] =
    [1, 0, 4, 2, 3, 0, 4, 2, 3, 0, 4] := by
  rw [scan_eq]
  decide

end LiteralLogic.Automaton
