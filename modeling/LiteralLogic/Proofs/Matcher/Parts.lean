import LiteralLogic.Proofs.Haystack
import LiteralLogic.Proofs.Matcher.Contents
import LiteralLogic.Proofs.Matcher.Negatives

/-!
# Parts of an input

A longer input makes more literals true, if letter case counts or is folded letter by
letter.  A condition keeps its truth where its atoms keep theirs (`Condition.holds_of_atoms`);
so a condition without negated literals that is true of a part is true of the whole input, and
one with negated literals only, if true of the whole, is true of each part.
-/

namespace LiteralLogic

/-! ## Atoms that stay true -/

theorem Atom.holds_iff {truth : Literal → Bool} {atom : Atom} :
    atom.holds truth = true ↔ truth atom.literal = !atom.negated := by
  unfold Atom.holds
  cases truth atom.literal <;> cases atom.negated <;> decide

namespace Condition

variable {truth truth' : Literal → Bool}

/-- A condition stays true, or false, if all its atoms that are true under that sign stay
true. -/
theorem holds_of_atoms {condition : Condition} {positive : Bool}
    (kept : ∀ atom ∈ condition.atoms positive,
      atom.holds truth = true → atom.holds truth' = true)
    (known : condition.holds truth = positive) : condition.holds truth' = positive := by
  induction condition generalizing positive with
  | leaf literal =>
    have atom := kept ⟨literal, !positive⟩ (List.mem_singleton.mpr rfl)
    rw [Atom.holds_iff, Atom.holds_iff, Bool.not_not] at atom
    exact atom known
  | not operand ih =>
    rw [holds, Bool.not_eq_eq_eq_not] at known ⊢
    exact ih kept known
  | and left right ihl ihr =>
    rcases List.forall_mem_append.mp kept with ⟨ofLeft, ofRight⟩
    cases positive with
    | true =>
      rw [holds, Bool.and_eq_true] at known ⊢
      exact ⟨ihl ofLeft known.1, ihr ofRight known.2⟩
    | false =>
      rw [holds, Bool.and_eq_false_iff] at known ⊢
      exact known.imp (ihl ofLeft) (ihr ofRight)
  | or left right ihl ihr =>
    rcases List.forall_mem_append.mp kept with ⟨ofLeft, ofRight⟩
    cases positive with
    | true =>
      rw [holds, Bool.or_eq_true] at known ⊢
      exact known.imp (ihl ofLeft) (ihr ofRight)
    | false =>
      rw [holds, Bool.or_eq_false_iff] at known ⊢
      exact ⟨ihl ofLeft known.1, ihr ofRight known.2⟩

/-- A condition whose literals all have one sign stays true if those literals stay what the
sign asks of them. -/
theorem holds_of_signs {condition : Condition} {negated : Bool}
    (signs : ∀ atom ∈ condition.atoms true, atom.negated = negated)
    (kept : ∀ literal ∈ condition.literals,
      truth literal = !negated → truth' literal = !negated)
    (known : condition.holds truth = true) : condition.holds truth' = true := by
  refine holds_of_atoms (fun atom mem => ?_) known
  have listed : atom.literal ∈ condition.literals := by
    rw [← condition.map_literal_atoms true]
    exact List.mem_map_of_mem mem
  rw [Atom.holds_iff, Atom.holds_iff, signs atom mem]
  exact kept atom.literal listed

/-- What holds of the leaves with the parity of their negations holds of the atoms. -/
theorem forall_atoms_iff (condition : Condition) (P : Atom → Prop) :
    (∀ atom ∈ condition.atoms true, P atom) ↔
      ∀ leaf ∈ condition.leaves 0, P ⟨leaf.1, leaf.2 % 2 = 1⟩ := by
  have atoms : condition.atoms true = _ := condition.atoms_eq_map_leaves 0
  rw [atoms, List.forall_mem_map]

theorem negated_eq_false_of_even {condition : Condition}
    (even : ∀ leaf ∈ condition.leaves 0, Even leaf.2) :
    ∀ atom ∈ condition.atoms true, atom.negated = false := by
  rw [forall_atoms_iff]
  intro leaf mem
  have parity := Nat.even_iff.mp (even leaf mem)
  rw [parity]
  rfl

theorem negated_eq_true_of_odd {condition : Condition}
    (odd : ∀ leaf ∈ condition.leaves 0, Odd leaf.2) :
    ∀ atom ∈ condition.atoms true, atom.negated = true := by
  rw [forall_atoms_iff]
  intro leaf mem
  have parity := Nat.odd_iff.mp (odd leaf mem)
  rw [parity]
  rfl

end Condition

/-! ## Longer inputs -/

namespace Matcher

/-- The conditions that a matcher lists are the negative ones among those that its texts are
read as. -/
theorem mem_negatives_iff_ofText? {folding : Folding} {texts : List String} {matcher : Matcher}
    (compiled : compile folding texts = .ok matcher) {index : Nat} :
    index ∈ matcher.negatives ↔
      ∃ condition, (texts.map Condition.ofText?)[index]? = some (some condition) ∧
        condition.IsNegative := by
  rcases exists_listsNegatives compiled with ⟨compilation, compiles, lists, rfl⟩
  rw [← compiles.toList_conditions, Array.getElem?_toList, ← lists.mem_iff]
  exact List.mem_reverse

/-- The literals of a condition that are true of a part of an input are true of the whole. -/
theorem contains_of_ofText? {folding : Folding} {texts : List String}
    (plain : folding = .ascii ∨ ∀ literal ∈ literalsOf texts, literal.caseInsensitive = false)
    {input whole : String} (part : input.toList <:+: whole.toList) {index : Nat}
    {condition : Condition}
    (known : (texts.map Condition.ofText?)[index]? = some (some condition)) {literal : Literal}
    (mem : literal ∈ condition.literals)
    (found : (Haystack.ofText folding input).contains literal = true) :
    (Haystack.ofText folding whole).contains literal = true := by
  have listed := literals_subset_literalsOf known mem
  exact Haystack.contains_of_part part (plain.imp_right fun sensitive => sensitive literal listed)
    found

/-- If no literal ignores letter case, or the letters are folded one by one, then a condition
all of whose literals stand under an even number of negations is true of every input with a
part of which it is true; and a condition that is listed as negative is true of every part of
an input of which it is true. -/
theorem satisfied_of_part {folding : Folding} {texts : List String} {matcher : Matcher}
    (compiled : compile folding texts = .ok matcher)
    (plain : folding = .ascii ∨ ∀ literal ∈ literalsOf texts, literal.caseInsensitive = false)
    {input whole : String} (part : input.toList <:+: whole.toList) :
    (∀ (index : Nat) (text : String) (condition : Condition), texts[index]? = some text →
        Condition.parse text = .ok condition → (∀ leaf ∈ condition.leaves 0, Even leaf.2) →
        index ∈ matcher.satisfied input → index ∈ matcher.satisfied whole) ∧
      ∀ index ∈ matcher.negatives,
        index ∈ matcher.satisfied whole → index ∈ matcher.satisfied input := by
  constructor
  · intro index text condition place read even
    have known := Condition.getElem?_map_ofText? read place
    rw [mem_satisfied_of_ofText? compiled known, mem_satisfied_of_ofText? compiled known]
    apply Condition.holds_of_signs (Condition.negated_eq_false_of_even even)
    intro literal mem found
    exact contains_of_ofText? plain part known mem found
  · intro index listed
    rcases (mem_negatives_iff_ofText? compiled).mp listed with ⟨condition, known, negative⟩
    rw [mem_satisfied_of_ofText? compiled known, mem_satisfied_of_ofText? compiled known]
    apply Condition.holds_of_signs (Condition.negated_eq_true_of_odd negative)
    intro literal mem absent
    rw [Bool.not_true, Bool.eq_false_iff] at absent ⊢
    exact fun found => absent (contains_of_ofText? plain part known mem found)

/-- A condition that the front of an input makes true, and one that its end leaves true. -/
theorem satisfied_of_front_and_end : ∃ matcher,
    compile .ascii ["\"foo\"i AND NOT (NOT \"b\")", "NOT (\"x\"i OR \"y\")"] = .ok matcher ∧
      0 ∈ matcher.satisfied "FOO b" ∧ 0 ∈ matcher.satisfied "FOO b, X" ∧
      1 ∈ matcher.negatives ∧ 1 ∈ matcher.satisfied "FOO b" ∧ 1 ∈ matcher.satisfied "OO" := by
  have read : Condition.parse "\"foo\"i AND NOT (NOT \"b\")" =
      .ok (.and (.leaf ⟨"foo", true⟩) (.not (.not (.leaf ⟨"b", false⟩)))) := rfl
  have read' : Condition.parse "NOT (\"x\"i OR \"y\")" =
      .ok (.not (.or (.leaf ⟨"x", true⟩) (.leaf ⟨"y", false⟩))) := rfl
  have reads : ∀ text ∈ ["\"foo\"i AND NOT (NOT \"b\")", "NOT (\"x\"i OR \"y\")"],
      ∃ condition, ReadsAs text condition := by
    simp only [List.forall_mem_cons]
    exact ⟨⟨_, ReadsAs.of_parse read⟩, ⟨_, ReadsAs.of_parse read'⟩, by simp⟩
  rcases exists_compile .ascii reads with ⟨matcher, compiled⟩
  have inFront : 0 ∈ matcher.satisfied "FOO b" :=
    (mem_satisfied_of_ofText? compiled (Condition.getElem?_map_ofText? read rfl) _).mpr (by decide)
  have inWhole : 1 ∈ matcher.satisfied "FOO b" :=
    (mem_satisfied_of_ofText? compiled (Condition.getElem?_map_ofText? read' rfl) _).mpr (by decide)
  have listed : 1 ∈ matcher.negatives := by
    refine (mem_negatives_iff_ofText? compiled).mpr
      ⟨_, Condition.getElem?_map_ofText? read' rfl, ?_⟩
    unfold Condition.IsNegative
    decide
  refine ⟨matcher, compiled, inFront, ?_, listed, inWhole, ?_⟩
  · exact (satisfied_of_part compiled (.inl rfl) ⟨[], ", X".toList, rfl⟩).1 0 _ _ rfl read
      (by decide) inFront
  · exact (satisfied_of_part compiled (.inl rfl) ⟨"F".toList, " b".toList, rfl⟩).2 1 listed inWhole

end Matcher

end LiteralLogic
