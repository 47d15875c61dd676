import LiteralLogic.Automaton

/-!
# Occurrences of many patterns

`occurrences` lists what a search for many patterns reports, straight from the
patterns and the haystack: first the empty patterns, then, for every end of a
non-empty beginning of the haystack, the patterns that end there, the longest first.
Equal patterns stand in the order of their numbers.
-/

namespace LiteralLogic.Automaton

/-- The numbers of a pattern in a list of patterns. -/
def numbersOf (patterns : List (List UInt8)) (pattern : List UInt8) : List Nat :=
  (List.range patterns.length).filter fun id => patterns[id]? = some pattern

/-- The non-empty patterns at the end of a text, the longest first. -/
def patternsEnding (patterns : List (List UInt8)) : List UInt8 → List Nat
  | [] => []
  | byte :: text => numbersOf patterns (byte :: text) ++ patternsEnding patterns text

/-- The patterns that occur in a haystack, as often as they occur. -/
def occurrences (patterns : List (List UInt8)) (haystack : List UInt8) : List Nat :=
  numbersOf patterns [] ++
    (List.range haystack.length).flatMap fun last =>
      patternsEnding patterns (haystack.take (last + 1))

theorem mem_numbersOf {patterns : List (List UInt8)} {pattern : List UInt8} {id : Nat} :
    id ∈ numbersOf patterns pattern ↔ patterns[id]? = some pattern := by
  simp only [numbersOf, List.mem_filter, List.mem_range, decide_eq_true_eq, and_iff_right_iff_imp]
  intro h
  exact (List.getElem?_eq_some_iff.mp h).1

theorem mem_patternsEnding {patterns : List (List UInt8)} {text : List UInt8} {id : Nat} :
    id ∈ patternsEnding patterns text ↔
      ∃ pattern, patterns[id]? = some pattern ∧ pattern ≠ [] ∧ pattern <:+ text := by
  induction text with
  | nil =>
    simp only [patternsEnding, List.not_mem_nil, List.suffix_nil, false_iff]
    rintro ⟨pattern, _, nonempty, rfl⟩
    exact nonempty rfl
  | cons byte text ih =>
    simp only [patternsEnding, List.mem_append, mem_numbersOf, ih, List.suffix_cons_iff]
    constructor
    · rintro (h | ⟨pattern, h, nonempty, suffix⟩)
      · exact ⟨_, h, by simp, .inl rfl⟩
      · exact ⟨pattern, h, nonempty, .inr suffix⟩
    · rintro ⟨pattern, h, nonempty, rfl | suffix⟩
      · exact .inl h
      · exact .inr ⟨pattern, h, nonempty, suffix⟩

end LiteralLogic.Automaton
